import PhotoGrouping.Toml.Quoted

namespace PhotoGrouping.Toml

/-- The ways of writing a text. -/
inductive Style
  | basic
  | literal
  | multiBasic
  | multiLiteral
  deriving Repr, DecidableEq

/-- Whether a character has to be written as an escape: controls other than the tab and the line
feed. -/
def needsEscape (c : Char) : Bool :=
  isControl c && c != '\n'

/-- Whether a text holds so many copies of a character in a row, given how many precede it. -/
def hasRun (c : Char) (n : Nat) : Nat → List Char → Bool
  | before, [] => n ≤ before
  | before, d :: cs => n ≤ before || hasRun c n (if d = c then before + 1 else 0) cs

/-- The style of a text: the plainest one that needs no escapes, else one that escapes. -/
def styleOf (cs : List Char) : Style :=
  let plain := !cs.any needsEscape
  let lines := cs.contains '\n'
  if plain && !cs.contains '\\' && !cs.contains '"' && !lines then .basic
  else if plain && !cs.contains '\x27' && !lines then .literal
  else if plain && !cs.contains '\\' && !hasRun '"' 3 0 cs then .multiBasic
  else if plain && !hasRun '\x27' 3 0 cs then .multiLiteral
  else if lines then .multiBasic
  else .basic

def hexDigit (n : Nat) : Char :=
  if n < 10 then Char.ofNat (48 + n) else Char.ofNat (55 + n)

/-- A character in a basic text, quotes and line feeds aside. -/
def basicChar (c : Char) : List Char :=
  match c with
  | '\\' => ['\\', '\\']
  | '\x08' => ['\\', 'b']
  | '\t' => ['\\', 't']
  | '\n' => ['\\', 'n']
  | '\x0c' => ['\\', 'f']
  | '\r' => ['\\', 'r']
  | c =>
    if isControl c then ['\\', 'u', '0', '0', hexDigit (c.toNat / 16), hexDigit (c.toNat % 16)]
    else [c]

def basicBody (cs : List Char) : List Char :=
  cs.flatMap fun c => if c = '"' then ['\\', '"'] else basicChar c

/-- A text between basic quotes on several lines, where each third quote in a row is escaped, given
how many quotes precede it. -/
def multiBasicBody : Nat → List Char → List Char
  | _, [] => []
  | before, c :: cs =>
    if c = '"' then
      if before = 2 then '\\' :: '"' :: multiBasicBody 0 cs
      else '"' :: multiBasicBody (before + 1) cs
    else (if c = '\n' then ['\n'] else basicChar c) ++ multiBasicBody 0 cs

/-- A text in quotes of a style. A line end follows the opening quotes of a text with several
lines. -/
def quoteAs (style : Style) (cs : List Char) : List Char :=
  let lead := if cs.contains '\n' then ['\n'] else []
  match style with
  | .basic => ['"'] ++ basicBody cs ++ ['"']
  | .literal => ['\x27'] ++ cs ++ ['\x27']
  | .multiBasic => ['"', '"', '"'] ++ lead ++ multiBasicBody 0 cs ++ ['"', '"', '"']
  | .multiLiteral => ['\x27', '\x27', '\x27'] ++ lead ++ cs ++ ['\x27', '\x27', '\x27']

def quote (s : String) : String :=
  String.ofList (quoteAs (styleOf s.toList) s.toList)

def line (key value : String) : String :=
  key ++ " = " ++ value ++ "\n"

/-- A list of texts: on one line up to one item, else with each item on a line of its own. -/
def quoteList : List String → String
  | [] => "[]"
  | [s] => "[" ++ quote s ++ "]"
  | ss => "[\n" ++ String.join (ss.map fun s => "    " ++ quote s ++ ",\n") ++ "]"

/-- The header of an element of an array of tables, after an empty line. -/
def elementHeader (key : String) : String :=
  "\n[[" ++ key ++ "]]\n"

end PhotoGrouping.Toml
