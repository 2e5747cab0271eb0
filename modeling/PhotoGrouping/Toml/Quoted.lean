namespace PhotoGrouping.Toml

/-- Whether a character may not stand for itself in a text: controls other than the tab. -/
def isControl (c : Char) : Bool :=
  (c.toNat < 0x20 && c != '\t') || c.toNat = 0x7F

/-- The value of four bits in hexadecimal. -/
def hex? (c : Char) : Option Nat :=
  if '0' ≤ c && c ≤ '9' then some (c.toNat - 48)
  else if 'a' ≤ c && c ≤ 'f' then some (c.toNat - 87)
  else if 'A' ≤ c && c ≤ 'F' then some (c.toNat - 55)
  else none

/-- The character whose number hexadecimal digits write, unless there is none. -/
def charOfHex? (digits : List Char) : Option Char := do
  let ds ← digits.mapM hex?
  let n := ds.foldl (fun n d => n * 16 + d) 0
  if n < 0xD800 || (0xE000 ≤ n && n < 0x110000) then some (Char.ofNat n) else none

/-- The character that a letter after a backslash stands for. -/
def shortEscape? (c : Char) : Option Char :=
  match c with
  | 'b' => some '\x08'
  | 't' => some '\t'
  | 'n' => some '\n'
  | 'f' => some '\x0c'
  | 'r' => some '\r'
  | '"' => some '"'
  | '\\' => some '\\'
  | _ => none

def withChar (c : Char) : Option (List Char × List Char) → Option (List Char × List Char)
  | some (text, rest) => some (c :: text, rest)
  | none => none

/-- Reads a basic text on one line up to its closing quote. -/
def readBasic : List Char → Option (List Char × List Char)
  | [] => none
  | '"' :: cs => some ([], cs)
  | '\\' :: 'u' :: a :: b :: c :: d :: cs => do
    withChar (← charOfHex? [a, b, c, d]) (readBasic cs)
  | '\\' :: 'U' :: a :: b :: c :: d :: e :: f :: g :: h :: cs => do
    withChar (← charOfHex? [a, b, c, d, e, f, g, h]) (readBasic cs)
  | '\\' :: c :: cs => do withChar (← shortEscape? c) (readBasic cs)
  | c :: cs => if isControl c then none else withChar c (readBasic cs)

/-- Reads a literal text on one line up to its closing quote. -/
def readLiteral : List Char → Option (List Char × List Char)
  | [] => none
  | '\x27' :: cs => some ([], cs)
  | c :: cs => if isControl c then none else withChar c (readLiteral cs)

/-- Whether nothing but blanks precedes the end of the line. -/
def endsLine (cs : List Char) : Bool :=
  match cs.dropWhile fun c => c == ' ' || c == '\t' with
  | '\n' :: _ | '\r' :: '\n' :: _ => true
  | _ => false

/-- Reads a basic text on several lines up to its closing quotes, of which up to two more belong to
the text. The flag tells whether blanks and line ends are left out, as after a backslash that ends a
line. -/
def readMultiBasic : Bool → List Char → Option (List Char × List Char)
  | _, [] => none
  | true, ' ' :: cs | true, '\t' :: cs | true, '\n' :: cs | true, '\r' :: '\n' :: cs =>
    readMultiBasic true cs
  | _, '"' :: '"' :: '"' :: '"' :: '"' :: cs => some (['"', '"'], cs)
  | _, '"' :: '"' :: '"' :: '"' :: cs => some (['"'], cs)
  | _, '"' :: '"' :: '"' :: cs => some ([], cs)
  | _, '\\' :: 'u' :: a :: b :: c :: d :: cs => do
    withChar (← charOfHex? [a, b, c, d]) (readMultiBasic false cs)
  | _, '\\' :: 'U' :: a :: b :: c :: d :: e :: f :: g :: h :: cs => do
    withChar (← charOfHex? [a, b, c, d, e, f, g, h]) (readMultiBasic false cs)
  | _, '\\' :: c :: cs =>
    match shortEscape? c with
    | some e => withChar e (readMultiBasic false cs)
    | none => if endsLine (c :: cs) then readMultiBasic true (c :: cs) else none
  | _, '\r' :: '\n' :: cs => withChar '\n' (readMultiBasic false cs)
  | _, '\n' :: cs => withChar '\n' (readMultiBasic false cs)
  | _, c :: cs => if isControl c then none else withChar c (readMultiBasic false cs)

/-- Reads a literal text on several lines up to its closing quotes, of which up to two more belong
to the text. -/
def readMultiLiteral : List Char → Option (List Char × List Char)
  | [] => none
  | '\x27' :: '\x27' :: '\x27' :: '\x27' :: '\x27' :: cs => some (['\x27', '\x27'], cs)
  | '\x27' :: '\x27' :: '\x27' :: '\x27' :: cs => some (['\x27'], cs)
  | '\x27' :: '\x27' :: '\x27' :: cs => some ([], cs)
  | '\r' :: '\n' :: cs => withChar '\n' (readMultiLiteral cs)
  | '\n' :: cs => withChar '\n' (readMultiLiteral cs)
  | c :: cs => if isControl c then none else withChar c (readMultiLiteral cs)

/-- The text after a line end that directly follows opening quotes. -/
def dropLineEnd : List Char → List Char
  | '\n' :: cs | '\r' :: '\n' :: cs => cs
  | cs => cs

/-- Reads a quoted text of any form from its opening quotes on. -/
def readQuoted : List Char → Option (List Char × List Char)
  | '"' :: '"' :: '"' :: cs => readMultiBasic false (dropLineEnd cs)
  | '\x27' :: '\x27' :: '\x27' :: cs => readMultiLiteral (dropLineEnd cs)
  | '"' :: cs => readBasic cs
  | '\x27' :: cs => readLiteral cs
  | _ => none

end PhotoGrouping.Toml
