import PhotoGrouping.Regex
import PhotoGrouping.RoleRule

namespace PhotoGrouping

open Text

def afterPrefix? : List Char → List Char → Option (List Char)
  | [], cs => some cs
  | p :: ps, c :: cs => if p = c then afterPrefix? ps cs else none
  | _ :: _, [] => none

def beginsWith (part cs : List Char) : Bool :=
  (afterPrefix? part cs).isSome

def holds (part : List Char) : List Char → Bool
  | [] => beginsWith part []
  | c :: cs => beginsWith part (c :: cs) || holds part cs

def finishesWith (part cs : List Char) : Bool :=
  beginsWith part.reverse cs.reverse

/-- Compares a name with a value as a rule of a type does; overrides compare otherwise. -/
def RuleType.compare (type : RuleType) (name value : String) : Bool :=
  match type with
  | .equals => name == value
  | .contains => holds value.toList name.toList
  | .startsWith => beginsWith value.toList name.toList
  | .endsWith => finishesWith value.toList name.toList
  | .override => false

namespace RoleRule

/-- The pattern of an override, read with or without regard to case as the rule says. -/
def regex (r : RoleRule) : Except Regex.ParseError Regex :=
  Regex.parse r.value (!r.caseSensitive)

/-- Whether a rule matches a filename. A blank value matches nothing, and so does an override whose
pattern cannot be read. -/
def isMatch (r : RoleRule) (filename : String) : Bool :=
  if r.isBlank then false
  else if r.type = .override then
    match r.regex with
    | .ok regex => regex.isMatch filename
    | .error _ => false
  else
    r.type.compare (if r.caseSensitive then filename else lowercase filename) r.folded

end RoleRule

/-- A rule whose override has been read once for all filenames. -/
structure PreparedRule where
  rule : RoleRule
  regex? : Option Regex
  deriving Repr

namespace PreparedRule

def of (r : RoleRule) : PreparedRule :=
  if r.type = .override && !r.isBlank then ⟨r, r.regex.toOption⟩ else ⟨r, none⟩

def isMatch (p : PreparedRule) (filename : String) : Bool :=
  if p.rule.type = .override then p.regex?.any (·.isMatch filename)
  else p.rule.isMatch filename

end PreparedRule

end PhotoGrouping
