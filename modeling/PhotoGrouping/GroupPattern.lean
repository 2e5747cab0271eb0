import PhotoGrouping.Filename
import PhotoGrouping.Listing
import PhotoGrouping.Regex.EscapeSequence
import PhotoGrouping.Role
import PhotoGrouping.Token

namespace PhotoGrouping

open Regex

/-- A pattern text that is read without regard to case. -/
def caseless (pattern : String) : String :=
  "(?i:" ++ pattern ++ ")"

def alternatives (patterns : List String) : String :=
  String.intercalate "|" patterns

namespace GroupPattern

/-- One or more delimiters. -/
def delimiters : String := "[_\\-.\\s]+"

/-- Word characters and hyphens. -/
def groupId : String := "[\\w-]+"

/-- One or more digits. -/
def index : String := "\\d+"

/-- Any run of word characters, the empty one included. -/
def freeText : String := "\\w*"

/-- The pattern of a date: its own shape if it has a known one, else any order of its parts. -/
def date (value : String) : String :=
  let cs := value.toList
  if Filename.hasShape Filename.yearFirst cs then "\\d\x7b4\x7d-\\d\x7b2\x7d-\\d\x7b2\x7d"
  else if Filename.hasShape Filename.yearLast cs then "\\d\x7b2\x7d-\\d\x7b2\x7d-\\d\x7b4\x7d"
  else if Filename.hasShape Filename.compact cs then "\\d\x7b8\x7d"
  else "\\d\x7b2,4\x7d[-_.]?\\d\x7b2\x7d[-_.]?\\d\x7b2,4\x7d"

/-- The pattern of a token: its text where that is fixed, else the form of its type. -/
def ofToken (t : Token) : String :=
  match t.type with
  | .leading | .trailing => escape t.value
  | .groupId => groupId
  | .cameraSide =>
    match Role.ofSynonym? t.value with
    | some role => caseless (alternatives role.synonyms)
    | none => caseless (escape t.value)
  | .date => date t.value
  | .index => index
  | .extension => caseless (escape t.value)
  | .unknown => freeText

/-- Why there is no group pattern for tokens. -/
inductive Refusal
  | noGroupToken
  | foreignGroupToken (t : Token)
  deriving Repr

def Refusal.message : Refusal → String
  | .noGroupToken => "a group ID token must be selected"
  | .foreignGroupToken t =>
    "group ID token '" ++ t.value ++ "' at position " ++ toString t.position ++
      " is not part of the token sequence"

/-- The numbers without repetitions, in ascending order. -/
def ascendingPositions (ps : List Nat) : List Nat :=
  (distinct ps).mergeSort (· ≤ ·)

/-- The distinct patterns of the tokens at a position, in ascending order. -/
def choicesAt (tokens : List Token) (position : Nat) : List String :=
  ascending ((tokens.filter (·.position = position)).map ofToken)

/-- The pattern of a position: a capturing group at the group's position, and a group without
capture where there is a choice. -/
def partAt (tokens : List Token) (groupPosition position : Nat) : String :=
  let choices := choicesAt tokens position
  if position = groupPosition then "(" ++ alternatives choices ++ ")"
  else match choices with
    | [pattern] => pattern
    | choices => "(?:" ++ alternatives choices ++ ")"

/-- The pattern of a whole filename with the group at a position. -/
def ofTokensAt (tokens : List Token) (groupPosition : Nat) : String :=
  let positions := ascendingPositions (tokens.map (·.position))
  "^" ++ String.intercalate delimiters (positions.map (partAt tokens groupPosition)) ++ "$"

/-- The pattern that takes the group from the position of the group token. -/
def generate (tokens : List Token) (groupToken : Option Token) : Except Refusal String :=
  if tokens.isEmpty then .ok ""
  else match groupToken with
    | none => .error .noGroupToken
    | some g =>
      if tokens.contains g then .ok (ofTokensAt tokens g.position)
      else .error (.foreignGroupToken g)

end GroupPattern

end PhotoGrouping
