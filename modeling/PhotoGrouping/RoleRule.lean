import PhotoGrouping.Role

namespace PhotoGrouping

open Text

/-- How the value of a rule is compared with a filename. -/
inductive RuleType
  | equals
  | contains
  | startsWith
  | endsWith
  /-- The value is a pattern that is searched for. -/
  | override
  deriving Repr, DecidableEq

namespace RuleType

def all : List RuleType :=
  [.equals, .contains, .startsWith, .endsWith, .override]

def name : RuleType → String
  | .equals => "EQUALS"
  | .contains => "CONTAINS"
  | .startsWith => "STARTS_WITH"
  | .endsWith => "ENDS_WITH"
  | .override => "REGEX_OVERRIDE"

def named? (s : String) : Option RuleType :=
  all.find? (·.name == s)

end RuleType

/-- An operator's rule that gives a role to the filenames it matches. -/
structure RoleRule where
  role : Role
  type : RuleType
  value : String
  caseSensitive : Bool := false
  /-- Rules with a lower priority come first. -/
  priority : Int32 := 0
  deriving Repr, DecidableEq

namespace RoleRule

/-- Whether the value is blank, so that the rule matches nothing. -/
def isBlank (r : RoleRule) : Bool :=
  isBlankText r.value

def describe (r : RoleRule) : String :=
  r.role.name ++ " " ++ r.type.name ++ " '" ++ r.value ++ "'"

/-- The value as it is compared: in lower case unless the rule is case-sensitive. -/
def folded (r : RoleRule) : String :=
  if r.caseSensitive then r.value else lowercase r.value

/-- An override that comes before all rules that an operator has given a priority. -/
def foremost (role : Role) (pattern : String) : RoleRule :=
  { role := role, type := .override, value := pattern, priority := Int32.minValue }

/-- The rules for a role by ascending priority; rules of one priority keep their order. -/
def forRole (rules : List RoleRule) (role : Role) : List RoleRule :=
  (rules.filter (·.role = role)).mergeSort fun a b => a.priority.toInt ≤ b.priority.toInt

end RoleRule

end PhotoGrouping
