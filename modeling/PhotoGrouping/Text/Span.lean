namespace PhotoGrouping.Text

/-- The code points `first`, `first + step`, ... that do not exceed `last`. -/
structure Span where
  first : Nat
  last : Nat
  step : Nat
  deriving Repr, DecidableEq

/-- Whether a code point lies on the progression of a span. -/
def Span.contains (s : Span) (n : Nat) : Bool :=
  s.first ≤ n && n ≤ s.last && (n - s.first) % s.step == 0

def inSpans (spans : List Span) (c : Char) : Bool :=
  spans.any (·.contains c.toNat)

/-- A span whose code points move by one distance: `source.first` goes to `target`. -/
structure Shift where
  source : Span
  target : Nat
  deriving Repr, DecidableEq

/-- Where a shift moves a code point, if it moves it. -/
def Shift.target? (s : Shift) (n : Nat) : Option Nat :=
  if s.source.contains n then some (s.target + (n - s.source.first)) else none

/-- The code point that a shift moves to this one, if there is one. -/
def Shift.preimage? (s : Shift) (n : Nat) : Option Nat :=
  let m := s.source.first + (n - s.target)
  if s.target ≤ n && s.source.contains m then some m else none

/-- The image of a character under the first shift that moves it; itself if none does. -/
def shifted (shifts : List Shift) (c : Char) : Char :=
  match shifts.findSome? (·.target? c.toNat) with
  | some n => Char.ofNat n
  | none => c

end PhotoGrouping.Text
