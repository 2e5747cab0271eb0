import PhotoGrouping.Json
import PhotoGrouping.Text.Decimal.Shortest

namespace PhotoGrouping.Json

open Text

def hexDigit (n : Nat) : Char :=
  if n < 10 then Char.ofNat (48 + n) else Char.ofNat (87 + n)

def quotedChar (c : Char) : List Char :=
  match c with
  | '"' => ['\\', '"']
  | '\\' => ['\\', '\\']
  | '\x08' => ['\\', 'b']
  | '\t' => ['\\', 't']
  | '\n' => ['\\', 'n']
  | '\x0c' => ['\\', 'f']
  | '\r' => ['\\', 'r']
  | c =>
    if c.toNat < 32 then ['\\', 'u', '0', '0', hexDigit (c.toNat / 16), hexDigit (c.toNat % 16)]
    else [c]

def quote (s : String) : String :=
  String.ofList ('"' :: s.toList.flatMap quotedChar ++ ['"'])

/-- A number in words; what is not finite becomes null. -/
def numberText (x : Float) : String :=
  (Decimal.shortestText? x).getD "null"

/-- The line end and the indentation before an item at a depth. -/
def newLine (depth : Nat) : String :=
  "\n" ++ String.ofList (List.replicate (2 * depth) ' ')

mutual

def compact : Json → String
  | .null => "null"
  | .boolean b => if b then "true" else "false"
  | .integer n => toString n
  | .number x => numberText x
  | .text s => quote s
  | .array items => "[" ++ compactItems "" items ++ "]"
  | .object fields => "\x7b" ++ compactFields "" fields ++ "\x7d"

/-- The items of an array, each after a separator that is empty before the first. -/
def compactItems (separator : String) : List Json → String
  | [] => ""
  | item :: rest => separator ++ compact item ++ compactItems "," rest

/-- The fields of an object, each after a separator that is empty before the first. -/
def compactFields (separator : String) : List (String × Json) → String
  | [] => ""
  | (key, value) :: rest =>
    separator ++ quote key ++ ":" ++ compact value ++ compactFields "," rest

end

mutual

/-- A value with each item and each field on a line of its own, indented by its depth. -/
def pretty (depth : Nat) : Json → String
  | .null => "null"
  | .boolean b => if b then "true" else "false"
  | .integer n => toString n
  | .number x => numberText x
  | .text s => quote s
  | .array [] => "[]"
  | .array (item :: rest) =>
    "[" ++ newLine (depth + 1) ++ pretty (depth + 1) item ++ prettyItems (depth + 1) rest ++
      newLine depth ++ "]"
  | .object [] => "\x7b\x7d"
  | .object ((key, value) :: rest) =>
    "\x7b" ++ newLine (depth + 1) ++ quote key ++ ": " ++ pretty (depth + 1) value ++
      prettyFields (depth + 1) rest ++ newLine depth ++ "\x7d"

def prettyItems (depth : Nat) : List Json → String
  | [] => ""
  | item :: rest => "," ++ newLine depth ++ pretty depth item ++ prettyItems depth rest

def prettyFields (depth : Nat) : List (String × Json) → String
  | [] => ""
  | (key, value) :: rest =>
    "," ++ newLine depth ++ quote key ++ ": " ++ pretty depth value ++ prettyFields depth rest

end

end PhotoGrouping.Json
