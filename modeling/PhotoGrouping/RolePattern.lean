import PhotoGrouping.GroupPattern
import PhotoGrouping.RoleRule

namespace PhotoGrouping

open Regex

namespace RoleRule

/-- The pattern of what a rule that is not blank matches, before case is considered. -/
def body (r : RoleRule) : String :=
  match r.type with
  | .equals => "^" ++ escape r.value ++ "$"
  | .contains => escape r.value
  | .startsWith => "^" ++ escape r.value
  | .endsWith => escape r.value ++ "$"
  | .override => r.value

def pattern? (r : RoleRule) : Option String :=
  if r.isBlank then none
  else some (if r.caseSensitive then r.body else caseless r.body)

end RoleRule

namespace Role

/-- The patterns of the rules for a role as alternatives by ascending priority; the empty text if
there are none. -/
def pattern (rules : List RoleRule) (role : Role) : String :=
  match (RoleRule.forRole rules role).filterMap RoleRule.pattern? with
  | [] => ""
  | [p] => p
  | ps => "(?:" ++ alternatives ps ++ ")"

def pattern? (rules : List RoleRule) (role : Role) : Option String :=
  let p := Role.pattern rules role
  if p.isEmpty then none else some p

end Role

end PhotoGrouping
