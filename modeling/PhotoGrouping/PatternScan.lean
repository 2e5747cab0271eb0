namespace PhotoGrouping.PatternScan

/-- How a scan of a pattern text reads the next character. -/
structure State where
  escaped : Bool := false
  inClass : Bool := false
  deriving Repr, DecidableEq

def State.step (s : State) (c : Char) : State :=
  if s.escaped then { s with escaped := false }
  else match c with
    | '\\' => { s with escaped := true }
    | '[' => { s with inClass := true }
    | ']' => { s with inClass := false }
    | _ => s

/-- Whether a character is read for what it means outside of classes. -/
def State.isPlain (s : State) : Bool :=
  !s.escaped && !s.inClass

/-- The opening brackets of capturing groups from a state on: those that are plain and have no `?`
after them. -/
def countFrom (s : State) : List Char → Nat
  | [] => 0
  | c :: cs =>
    (if s.isPlain && c == '(' && cs.head? != some '?' then 1 else 0) + countFrom (s.step c) cs

/-- How many capturing groups a pattern text opens. -/
def captureCount (pattern : String) : Nat :=
  countFrom {} pattern.toList

/-- Whether a character repeats what is before it, where `(?` opens a group. -/
def isQuantifier (before : Option Char) (c : Char) : Bool :=
  c == '*' || c == '+' || c == '{' || (c == '?' && before != some '(')

/-- Whether a plain quantifier follows from a state on, given the character before. -/
def quantifiedFrom (s : State) (before : Option Char) : List Char → Bool
  | [] => false
  | c :: cs => (s.isPlain && isQuantifier before c) || quantifiedFrom (s.step c) (some c) cs

/-- Whether a pattern text repeats a part. -/
def hasQuantifier (pattern : String) : Bool :=
  quantifiedFrom {} none pattern.toList

end PhotoGrouping.PatternScan
