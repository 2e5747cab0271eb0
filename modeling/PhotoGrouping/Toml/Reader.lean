import PhotoGrouping.Toml.Quoted
import PhotoGrouping.Toml.Scalar

namespace PhotoGrouping.Toml

def skipBlanks (cs : List Char) : List Char :=
  cs.dropWhile fun c => c == ' ' || c == '\t'

/-- The text after blanks, line ends and comments; the flag tells whether a comment is open. -/
def skipLines : Bool → List Char → Option (List Char)
  | _, [] => some []
  | _, '\n' :: cs | _, '\r' :: '\n' :: cs => skipLines false cs
  | true, c :: cs => if isControl c then none else skipLines true cs
  | false, ' ' :: cs | false, '\t' :: cs => skipLines false cs
  | false, '#' :: cs => skipLines true cs
  | false, cs => some cs

/-- The text after the end of a line on which only blanks and a comment are left; the flag tells
whether the comment is open. -/
def endLine : Bool → List Char → Option (List Char)
  | _, [] => some []
  | _, '\n' :: cs | _, '\r' :: '\n' :: cs => some cs
  | true, c :: cs => if isControl c then none else endLine true cs
  | false, ' ' :: cs | false, '\t' :: cs => endLine false cs
  | false, '#' :: cs => endLine true cs
  | false, _ => none

/-- Whether a character may occur in a key without quotes. -/
def isKeyChar (c : Char) : Bool :=
  c.isAlphanum || c == '_' || c == '-'

def readKeyPart (cs : List Char) : Option (String × List Char) :=
  match cs with
  | '"' :: cs => (readBasic cs).map fun (text, rest) => (String.ofList text, rest)
  | '\x27' :: cs => (readLiteral cs).map fun (text, rest) => (String.ofList text, rest)
  | cs =>
    let bare := cs.takeWhile isKeyChar
    if bare.isEmpty then none else some (String.ofList bare, cs.dropWhile isKeyChar)

/-- Reads a key of at most so many parts with dots between them, and the blanks around it. -/
def readKey : Nat → List Char → Option (List String × List Char)
  | 0, _ => none
  | n + 1, cs => do
    let (part, rest) ← readKeyPart (skipBlanks cs)
    match skipBlanks rest with
    | '.' :: rest =>
      let (parts, rest) ← readKey n rest
      return (part :: parts, rest)
    | rest => return ([part], rest)

/-- How many parts a key may have, and how deep arrays and inline tables may nest. -/
def maxNesting : Nat := 79

/-- Reads the items of an array after its opening bracket or a comma. -/
def readItems (item : List Char → Option (Value × List Char)) (cs : List Char) :
    Option (List Value × List Char) :=
  match skipLines false cs with
  | none => none
  | some (']' :: rest) => some ([], rest)
  | some cs' =>
    match item cs' with
    | none => none
    | some (v, rest) =>
      match skipLines false rest with
      | some (']' :: rest) => some ([v], rest)
      | some (',' :: rest) =>
        if rest.length < cs.length then
          (readItems item rest).map fun (vs, rest) => (v :: vs, rest)
        else none
      | _ => none
  termination_by cs.length

def readPair (item : List Char → Option (Value × List Char)) (cs : List Char) :
    Option (List String × Value × List Char) := do
  let (parts, rest) ← readKey maxNesting cs
  match rest with
  | '=' :: rest =>
    let (v, rest) ← item (skipBlanks rest)
    return (parts, v, rest)
  | _ => none

/-- Reads the pairs of an inline table, of which there is at least one, into entries. -/
def readInline (item : List Char → Option (Value × List Char)) (es : Entries) (cs : List Char) :
    Option (Entries × List Char) :=
  match readPair item cs with
  | none => none
  | some (parts, v, rest) =>
    let (front, key) := splitKey parts
    match es.put front key v with
    | none => none
    | some es =>
      match skipBlanks rest with
      | '}' :: rest => some (es, rest)
      | ',' :: rest => if rest.length < cs.length then readInline item es rest else none
      | _ => none
  termination_by cs.length

/-- Reads a value in which arrays and inline tables nest at most so deep. -/
def readValue : Nat → List Char → Option (Value × List Char)
  | depth, '"' :: cs => text depth ('"' :: cs)
  | depth, '\x27' :: cs => text depth ('\x27' :: cs)
  | depth + 1, '[' :: cs => (readItems (readValue depth) cs).map fun (vs, rest) => (.array vs, rest)
  | depth + 1, '\x7b' :: cs =>
    match skipBlanks cs with
    | '\x7d' :: rest => some (.table [], rest)
    | cs => (readInline (readValue depth) [] cs).map fun (es, rest) => (.table (entriesValues es), rest)
  | _, cs =>
    let (front, rest) := splitScalar cs
    (scalar? front).map (·, rest)
where
  /-- Reads a quoted text. -/
  text (_ : Nat) (cs : List Char) : Option (Value × List Char) :=
    (readQuoted cs).map fun (s, rest) => (.string (String.ofList s), rest)

/-- Reads the name of a header up to its closing bracket, which is a double one for an element of an
array of tables, and on to the end of the line. -/
def readHeader (isElement : Bool) (cs : List Char) : Option (List String × List Char) := do
  let (parts, rest) ← readKey maxNesting cs
  match rest, isElement with
  | ']' :: ']' :: rest, true | ']' :: rest, false => return (parts, ← endLine false rest)
  | _, _ => none

/-- Reads one line that is not blank and the values that begin on it. -/
def readEntry (d : Draft) (cs : List Char) : Option (Draft × List Char) :=
  match cs with
  | '[' :: '[' :: cs => do
    let (parts, rest) ← readHeader true cs
    return (← d.beginElement parts, rest)
  | '[' :: cs => do
    let (parts, rest) ← readHeader false cs
    return (← d.beginTable parts, rest)
  | cs => do
    let (parts, v, rest) ← readPair (readValue maxNesting) cs
    return (← d.put parts v, ← endLine false rest)

def readLines (d : Draft) (cs : List Char) : Option Draft :=
  match skipLines false cs with
  | none => none
  | some [] => some d
  | some cs' =>
    match readEntry d cs' with
    | none => none
    | some (d, rest) => if rest.length < cs.length then readLines d rest else none
  termination_by cs.length

/-- The entries of the document that a text writes; a byte order mark in front is skipped. -/
def parse? (text : String) : Option (List (String × Value)) := do
  let cs := match text.toList with
    | '\ufeff' :: cs => cs
    | cs => cs
  let d ← readLines {} cs
  return entriesValues (← d.settled)

end PhotoGrouping.Toml
