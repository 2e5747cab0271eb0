namespace PhotoGrouping.Text.Decimal

/-- A finite number that is not negative, as `mantissa * 2 ^ exponent`. -/
structure Binary where
  mantissa : Nat
  exponent : Int
  deriving Repr, DecidableEq

/-- What the bits of a number say: its sign, and its value unless it is infinite or no number. -/
structure Decoded where
  negative : Bool
  value : Option Binary
  isNaN : Bool
  deriving Repr, DecidableEq

def decode (bits : UInt64) : Decoded :=
  let n := bits.toNat
  let fraction : Nat := n % Nat.pow 2 52
  let biased : Nat := n / Nat.pow 2 52 % Nat.pow 2 11
  let negative := n / Nat.pow 2 63 = 1
  if biased = 2047 then ⟨negative, none, fraction ≠ 0⟩
  else if biased = 0 then ⟨negative, some ⟨fraction, -1074⟩, false⟩
  else ⟨negative, some ⟨fraction + Nat.pow 2 52, (biased : Int) - 1075⟩, false⟩

/-- The quotient rounded to the nearest number, a half to the even one. -/
def roundDiv (num den : Nat) : Nat :=
  let q := num / den
  let r := num % den
  if 2 * r < den then q else if 2 * r > den then q + 1 else q + q % 2

def Binary.fraction (b : Binary) : Nat × Nat :=
  if 0 ≤ b.exponent then (b.mantissa * Nat.pow 2 b.exponent.toNat, 1)
  else (b.mantissa, Nat.pow 2 (-b.exponent).toNat)

/-- Decimal digits with zeros in front up to a width. -/
def padded (width n : Nat) : String :=
  let digits := toString n
  String.ofList (List.replicate (width - digits.length) '0') ++ digits

/-- The text of a number with so many decimal places, a half going to the even neighbour. -/
def fixed (places : Nat) (x : Float) : String :=
  let d := decode x.toBits
  match d.value with
  | none => if d.isNaN then "NaN" else if d.negative then "-inf" else "inf"
  | some b =>
    let (num, den) := b.fraction
    let n := roundDiv (num * Nat.pow 10 places) den
    let whole := toString (n / Nat.pow 10 places)
    let text := if places = 0 then whole else whole ++ "." ++ padded places (n % Nat.pow 10 places)
    if d.negative then "-" ++ text else text

end PhotoGrouping.Text.Decimal
