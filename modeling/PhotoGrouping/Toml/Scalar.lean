import PhotoGrouping.Toml.Document

namespace PhotoGrouping.Toml

/-- The value of a digit in a base of at most sixteen. -/
def digit? (base : Nat) (c : Char) : Option Nat :=
  let v :=
    if '0' ≤ c && c ≤ '9' then c.toNat - 48
    else if 'a' ≤ c && c ≤ 'f' then c.toNat - 87
    else if 'A' ≤ c && c ≤ 'F' then c.toNat - 55
    else 16
  if v < base then some v else none

/-- Digits in which a single `_` may stand between two of them; the flag tells whether a digit has to
come next. -/
def ungrouped (base : Nat) : Bool → List Char → Option (List Nat)
  | must, [] => if must then none else some []
  | must, '_' :: cs => if must then none else ungrouped base true cs
  | _, c :: cs => do
    let d ← digit? base c
    let ds ← ungrouped base false cs
    return d :: ds

def ofDigits (base : Nat) (ds : List Nat) : Nat :=
  ds.foldl (fun n d => n * base + d) 0

/-- A sign at the front, negative or not, and the rest. -/
def splitSign : List Char → Bool × List Char
  | '-' :: cs => (true, cs)
  | '+' :: cs => (false, cs)
  | cs => (false, cs)

/-- The decimal digits of a whole number, which has no leading zero. -/
def wholeDigits? (cs : List Char) : Option (List Nat) := do
  let ds ← ungrouped 10 true cs
  if 1 < ds.length && ds.head? == some 0 then none else some ds

/-- An integer of 64 bits. -/
def inRange? (n : Int) : Option Int :=
  if -(Nat.pow 2 63 : Int) ≤ n && n < Nat.pow 2 63 then some n else none

def integer? (cs : List Char) : Option Int :=
  match cs with
  | '0' :: 'x' :: cs => do inRange? (ofDigits 16 (← ungrouped 16 true cs))
  | '0' :: 'o' :: cs => do inRange? (ofDigits 8 (← ungrouped 8 true cs))
  | '0' :: 'b' :: cs => do inRange? (ofDigits 2 (← ungrouped 2 true cs))
  | cs => do
    let (negative, cs) := splitSign cs
    let n : Nat := ofDigits 10 (← wholeDigits? cs)
    inRange? (if negative then -n else n)

/-- Whether `mantissa * 10 ^ exponent` is beyond the numbers of 64 bits. -/
def isHuge (mantissa : Nat) (exponent : Int) : Bool :=
  let digits : Int := (toString mantissa).length
  if mantissa = 0 then false
  else if digits + exponent > 310 then true
  else if digits + exponent < 300 then false
  else
    let limit := Nat.pow 2 1024 - Nat.pow 2 970
    if 0 ≤ exponent then mantissa * Nat.pow 10 exponent.toNat ≥ limit
    else mantissa ≥ limit * Nat.pow 10 (-exponent).toNat

def exponent? (cs : List Char) : Option Int := do
  let (negative, cs) := splitSign cs
  let n : Nat := ofDigits 10 (← ungrouped 10 true cs)
  return if negative then -n else n

/-- Whether a text writes a float: a whole number with places, an exponent or both, an infinity or
what is no number. A positive number must not be too large. -/
def isFloat (cs : List Char) : Bool :=
  let (negative, body) := splitSign cs
  if body = "inf".toList || body = "nan".toList then true
  else
    let isE (c : Char) : Bool := c == 'e' || c == 'E'
    let front := body.takeWhile (!isE ·)
    let back := body.dropWhile (!isE ·)
    let whole := front.takeWhile (· != '.')
    let places := front.dropWhile (· != '.')
    let read : Option (Nat × Int) := do
      let wholeDs ← wholeDigits? whole
      let placeDs ← match places with
        | [] => some []
        | _ :: ds => ungrouped 10 true ds
      let e ← match back with
        | [] => if places.isEmpty then none else some 0
        | _ :: ds => exponent? ds
      return (ofDigits 10 (wholeDs ++ placeDs), e - placeDs.length)
    match read with
    | none => false
    | some (mantissa, e) => negative || !isHuge mantissa e

/-- The number that so many decimal digits at the front write, and the rest. -/
def fixedDigits? : Nat → List Char → Option (Nat × List Char)
  | n, cs => do
    let ds ← (cs.take n).mapM (digit? 10)
    if ds.length = n then some (ofDigits 10 ds, cs.drop n) else none

def daysInMonth (year month : Nat) : Nat :=
  if month = 2 then
    if year % 4 = 0 && (year % 100 ≠ 0 || year % 400 = 0) then 29 else 28
  else if month = 4 || month = 6 || month = 9 || month = 11 then 30
  else 31

def afterDate? (cs : List Char) : Option (List Char) := do
  let (year, cs) ← fixedDigits? 4 cs
  let '-' :: cs := cs | none
  let (month, cs) ← fixedDigits? 2 cs
  let '-' :: cs := cs | none
  let (day, cs) ← fixedDigits? 2 cs
  if 1 ≤ month && month ≤ 12 && 1 ≤ day && day ≤ daysInMonth year month then some cs else none

def afterTime? (cs : List Char) : Option (List Char) := do
  let (hour, cs) ← fixedDigits? 2 cs
  let ':' :: cs := cs | none
  let (minute, cs) ← fixedDigits? 2 cs
  let ':' :: cs := cs | none
  let (second, cs) ← fixedDigits? 2 cs
  if hour ≤ 23 && minute ≤ 59 && second ≤ 60 then
    match cs with
    | '.' :: cs => if (cs.takeWhile Char.isDigit).isEmpty then none else some (cs.dropWhile Char.isDigit)
    | cs => some cs
  else none

/-- Whether a text is nothing or the offset of a time zone. -/
def isOffset (cs : List Char) : Bool :=
  match cs with
  | [] | ['Z'] | ['z'] => true
  | s :: cs =>
    (s == '+' || s == '-') &&
      match fixedDigits? 2 cs with
      | some (hour, ':' :: cs) =>
        match fixedDigits? 2 cs with
        | some (minute, []) => hour ≤ 23 && minute ≤ 59
        | _ => false
      | _ => false

/-- Whether a text writes a date, a time of day, or both with an offset or without. -/
def isDatetime (cs : List Char) : Bool :=
  match afterDate? cs with
  | some [] => true
  | some (sep :: cs) =>
    (sep == 'T' || sep == 't' || sep == ' ') && (afterTime? cs).any isOffset
  | none => afterTime? cs == some []

/-- The value that a text without quotes and brackets writes. -/
def scalar? (cs : List Char) : Option Value :=
  if cs = "true".toList then some (.boolean true)
  else if cs = "false".toList then some (.boolean false)
  else if isDatetime cs then some (.datetime (String.ofList cs))
  else if isFloat cs then some (.float (String.ofList cs))
  else (integer? cs).map .integer

def isScalarChar (c : Char) : Bool :=
  c.isAlphanum || c == '+' || c == '-' || c == '.' || c == ':' || c == '_'

/-- The scalar at the front and the rest. A blank belongs to it between a date and a time. -/
def splitScalar (cs : List Char) : List Char × List Char :=
  let first := cs.takeWhile isScalarChar
  let rest := cs.dropWhile isScalarChar
  match rest with
  | ' ' :: after =>
    let second := after.takeWhile isScalarChar
    if first.length = 10 && (afterDate? first).isSome && (afterTime? second).isSome then
      (first ++ ' ' :: second, after.dropWhile isScalarChar)
    else (first, rest)
  | _ => (first, rest)

end PhotoGrouping.Toml
