import PhotoGrouping.RolePattern

namespace PhotoGrouping

open Text

def nonBlank (s : Option String) : Option String :=
  s.filter (!isBlankText ·)

/-- The patterns and rules that a validation looks at. -/
structure PatternConfig where
  groupPattern : Option String := none
  /-- The value of the token chosen for the group. -/
  groupIdToken : Option String := none
  frontPattern : Option String := none
  rearPattern : Option String := none
  overviewPattern : Option String := none
  roleRules : List RoleRule := []
  deriving Repr, DecidableEq

namespace PatternConfig

/-- The configuration whose role patterns come from the rules. -/
def ofRules (groupPattern groupIdToken : Option String) (rules : List RoleRule) : PatternConfig :=
  { groupPattern := groupPattern
    groupIdToken := groupIdToken
    frontPattern := Role.pattern? rules .front
    rearPattern := Role.pattern? rules .rear
    overviewPattern := Role.pattern? rules .overview
    roleRules := rules }

def rolePattern (c : PatternConfig) : Role → Option String
  | .front => c.frontPattern
  | .rear => c.rearPattern
  | .overview => c.overviewPattern

def groupPattern? (c : PatternConfig) : Option String :=
  nonBlank c.groupPattern

def rolePattern? (c : PatternConfig) (role : Role) : Option String :=
  nonBlank (c.rolePattern role)

end PatternConfig

end PhotoGrouping
