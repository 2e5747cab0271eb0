import PhotoGrouping.PatternConfig
import PhotoGrouping.SegmentLabel

namespace PhotoGrouping

/-- The configuration of a photo set: the chosen patterns, the role rules, and the operator's
decisions on segments and tokens. -/
structure Config where
  groupPattern : Option String := none
  groupIdToken : Option String := none
  /-- Role patterns; those that are absent come from the rules. -/
  frontPattern : Option String := none
  rearPattern : Option String := none
  overviewPattern : Option String := none
  /-- How many filenames are looked at. -/
  maxSampleFiles : Nat := 500
  roleRules : List RoleRule := []
  segmentLabels : List SegmentLabel := []
  customTokens : List CustomToken := []
  deriving Repr, DecidableEq

namespace Config

/-- The pattern that a configuration gives a role itself. -/
def explicitPattern (c : Config) : Role → Option String
  | .front => c.frontPattern
  | .rear => c.rearPattern
  | .overview => c.overviewPattern

/-- The rules that files are grouped with: patterns of roles become overrides before all rules. -/
def effectiveRules (c : Config) : List RoleRule :=
  Role.all.filterMap (fun role =>
    (nonBlank (c.explicitPattern role)).map (RoleRule.foremost role)) ++ c.roleRules

/-- The pattern of a role: its own, else that of its rules. -/
def rolePattern (c : Config) (role : Role) : Option String :=
  nonBlank (c.explicitPattern role) <|> Role.pattern? c.roleRules role

def patternConfig (c : Config) : PatternConfig :=
  { groupPattern := c.groupPattern
    groupIdToken := c.groupIdToken
    frontPattern := c.rolePattern .front
    rearPattern := c.rolePattern .rear
    overviewPattern := c.rolePattern .overview
    roleRules := c.effectiveRules }

def labelStore (c : Config) : LabelStore :=
  .ofList c.segmentLabels

/-- The filenames that are looked at: the first ones, up to the limit. -/
def sample (c : Config) (files : List String) : List String :=
  files.take c.maxSampleFiles

end Config

end PhotoGrouping
