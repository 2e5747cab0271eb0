import PhotoGrouping.Text.Decimal

namespace PhotoGrouping.Text.Decimal

/-- The number `digits * 10 ^ exponent`. -/
structure Scientific where
  digits : Nat
  exponent : Int
  deriving Repr, DecidableEq

/-- Compares `a * 10 ^ k` with `b * 2 ^ q`. -/
def compareScaled (a : Nat) (k : Int) (b : Nat) (q : Int) : Ordering :=
  compare (a * Nat.pow 10 k.toNat * Nat.pow 2 (-q).toNat)
    (b * Nat.pow 2 q.toNat * Nat.pow 10 (-k).toNat)

/-- Whether a decimal number is read back as a binary one: it is no further away than half the
distance to the neighbours, and at exactly half only if the mantissa is even. -/
def readsBack (d : Scientific) (b : Binary) : Bool :=
  let below := if b.mantissa = Nat.pow 2 52 && b.exponent > -1074 then 1 else 2
  let low := compareScaled d.digits d.exponent (4 * b.mantissa - below) (b.exponent - 2)
  let high := compareScaled d.digits d.exponent (4 * b.mantissa + 2) (b.exponent - 2)
  (low == .gt && high == .lt) || ((low == .eq || high == .eq) && b.mantissa % 2 = 0)

/-- The exponent of the first decimal digit of a positive fraction. -/
def leadingExponent (num den : Nat) : Int :=
  let guess : Int := (toString num).length - (toString den).length
  if num * Nat.pow 10 (-guess).toNat ≥ den * Nat.pow 10 guess.toNat then guess else guess - 1

/-- The decimal number with so many digits that reads back as a binary one and is nearest to it, if
there is one. -/
def withDigits? (b : Binary) (count : Nat) : Option Scientific :=
  let (num, den) := b.fraction
  let k := leadingExponent num den - count + 1
  let scaledNum := num * Nat.pow 10 (-k).toNat
  let scaledDen := den * Nat.pow 10 k.toNat
  let nearest := roundDiv scaledNum scaledDen
  let floor := scaledNum / scaledDen
  let other := if nearest = floor then floor + 1 else floor
  [nearest, other].findSome? fun n => if readsBack ⟨n, k⟩ b then some ⟨n, k⟩ else none

/-- The decimal number with the fewest digits that reads back as a positive binary one. -/
def shortest (b : Binary) : Scientific :=
  ((List.range 17).findSome? fun i => withDigits? b (i + 1)).getD ⟨0, 0⟩

def withoutZeros (ds : List Char) : List Char :=
  (ds.reverse.dropWhile (· == '0')).reverse

/-- The exponents of the decimal point that are written without an exponent: more than `low` and at
most `high` places behind the first digit. -/
structure PositionalRange where
  low : Int := -5
  high : Int := 16

/-- A decimal number in words: with a point within the range, else with an exponent. -/
def Scientific.text (d : Scientific) (range : PositionalRange) : String :=
  let all := (toString d.digits).toList
  let ds := withoutZeros all
  let point : Int := all.length + d.exponent
  let zeros (n : Nat) : List Char := List.replicate n '0'
  if range.low < point && point ≤ 0 then
    String.ofList ("0.".toList ++ zeros (-point).toNat ++ ds)
  else if 0 < point && point ≤ range.high then
    let whole := ds.take point.toNat
    let fraction := ds.drop point.toNat
    String.ofList (whole ++ zeros (point.toNat - whole.length) ++ ['.'] ++
      (if fraction.isEmpty then ['0'] else fraction))
  else
    String.ofList (ds.take 1 ++ (if ds.length > 1 then '.' :: ds.drop 1 else []) ++
      'e' :: (toString (point - 1)).toList)

/-- The shortest text that reads back as a finite number, and nothing for other numbers. -/
def shortestText? (x : Float) : Option String :=
  let d := decode x.toBits
  d.value.map fun b =>
    (if d.negative then "-" else "") ++
      (if b.mantissa = 0 then "0.0" else (shortest b).text {})

end PhotoGrouping.Text.Decimal
