import PhotoGrouping.PatternConfig
import PhotoGrouping.PatternScan
import PhotoGrouping.RuleMatch
import PhotoGrouping.Validation.Report

namespace PhotoGrouping.Validation

open Text

/-- Exactly one capturing group is required. -/
def captureCheck (pattern : String) : Report :=
  match PatternScan.captureCount pattern with
  | 0 => .ofError (ErrorKind.noCapturingGroups.finding (some pattern))
  | 1 => .success
  | n =>
    .ofError ⟨.multipleCapturingGroups,
      "The group pattern has " ++ toString n ++ " capturing groups; exactly 1 is required",
      some pattern⟩

/-- The error of a pattern that cannot be read, under the name of its field. -/
def syntaxError? (name pattern : String) : Option ValidationError :=
  match Regex.parse pattern false with
  | .ok _ => none
  | .error e =>
    some ⟨.regexSyntaxError,
      "Invalid regular expression in " ++ name ++ ": " ++ e.message, some pattern⟩

/-- A group pattern has to be there and to have one capturing group. -/
def groupPatternCheck (c : PatternConfig) : Report :=
  match c.groupPattern? with
  | some pattern => captureCheck pattern
  | none =>
    if (nonBlank c.groupIdToken).isNone then .ofError (ErrorKind.noGroupIdSelected.finding none)
    else .ofError (ErrorKind.emptyGroupPattern.finding none)

/-- Some role has to have a pattern, and the overview should. -/
def rolePatternsCheck (c : PatternConfig) : Report :=
  { errors :=
      if Role.all.any fun role => (c.rolePattern? role).isSome then []
      else [ErrorKind.noRolePatterns.finding none]
    warnings :=
      if (c.rolePattern? .overview).isSome then [] else [WarningKind.noOverviewImages.finding none] }

def blankRuleError (r : RoleRule) : ValidationError :=
  ⟨.invalidRuleValue, r.role.name ++ " rule of type " ++ r.type.name ++ " has an empty value",
    some r.role.name⟩

/-- Whether two rules look for texts of which one holds the other, for different roles. -/
def overlap (a b : RoleRule) : Bool :=
  a.role != b.role && a.type == .contains && b.type == .contains && !a.isBlank && !b.isBlank &&
    (holds b.value.toList a.value.toList || holds a.value.toList b.value.toList)

def overlapWarning (a b : RoleRule) : ValidationWarning :=
  ⟨.overlappingRules,
    a.role.name ++ " rule '" ++ a.value ++ "' overlaps " ++ b.role.name ++ " rule '" ++ b.value ++ "'",
    some (a.role.name ++ " / " ++ b.role.name)⟩

def pairs {α : Type} : List α → List (α × α)
  | [] => []
  | x :: xs => xs.map (x, ·) ++ pairs xs

/-- Rules must not be blank and should not overlap; without rules there have to be patterns. -/
def roleRulesCheck (c : PatternConfig) : Report :=
  if !(Role.all.any fun role => (c.rolePattern? role).isSome) && c.roleRules.isEmpty then
    .ofError (ErrorKind.noRoleRulesDefined.finding none)
  else
    { errors := (c.roleRules.filter (·.isBlank)).map blankRuleError
      warnings := (pairs c.roleRules).filterMap fun (a, b) =>
        if overlap a b then some (overlapWarning a b) else none }

/-- All patterns that are not blank have to be readable. -/
def syntaxCheck (c : PatternConfig) : Report :=
  let fields := [
    ("group pattern", c.groupPattern?), ("front pattern", c.rolePattern? .front),
    ("rear pattern", c.rolePattern? .rear), ("overview pattern", c.rolePattern? .overview)]
  { errors := fields.filterMap fun (name, pattern) => pattern.bind (syntaxError? name) }

/-- The parts of a pattern that take any text. -/
def anyTextParts : List String := ["(.*)", "(.+)"]

/-- A group pattern should neither take any text nor be all fixed. -/
def breadthCheck (c : PatternConfig) : Report :=
  match c.groupPattern? with
  | none => .success
  | some pattern =>
    if anyTextParts.any fun part => holds part.toList pattern.toList then
      .ofWarning (WarningKind.permissivePattern.finding (some pattern))
    else if !PatternScan.hasQuantifier pattern then
      .ofWarning (WarningKind.restrictivePattern.finding (some pattern))
    else .success

/-- The checks of a configuration that need no files. -/
def patterns (c : PatternConfig) : Report :=
  .collect [groupPatternCheck c, rolePatternsCheck c, roleRulesCheck c, syntaxCheck c,
    breadthCheck c]

def groupPattern (pattern : String) : Report :=
  if isBlankText pattern then .ofError (ErrorKind.emptyGroupPattern.finding none)
  else match syntaxError? "group pattern" pattern with
    | none => captureCheck pattern
    | some e => (captureCheck pattern).addError e

end PhotoGrouping.Validation
