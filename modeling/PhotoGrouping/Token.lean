import PhotoGrouping.Json.Format
import PhotoGrouping.Text.Blank
import PhotoGrouping.Text.Casing

namespace PhotoGrouping

open Text DataFormat

/-- What a segment of a filename is believed to be. -/
inductive TokenType
  | leading
  | trailing
  | groupId
  | cameraSide
  | date
  | index
  | extension
  | unknown
  deriving Repr, DecidableEq

namespace TokenType

/-- All types, in the order in which they are listed. -/
def all : List TokenType :=
  [.leading, .trailing, .groupId, .cameraSide, .date, .index, .extension, .unknown]

def name : TokenType → String
  | .leading => "PREFIX"
  | .trailing => "SUFFIX"
  | .groupId => "GROUP_ID"
  | .cameraSide => "CAMERA_SIDE"
  | .date => "DATE"
  | .index => "INDEX"
  | .extension => "EXTENSION"
  | .unknown => "UNKNOWN"

def named? (s : String) : Option TokenType :=
  all.find? (·.name == s)

/-- The type that a text names, without regard to case, white space around it and `-` for `_`. -/
def parse? (s : String) : Option TokenType :=
  named? (String.ofList ((trimmed s.toList).map fun c => if c = '-' then '_' else c.toUpper))

end TokenType

/-- A number, where no number is not one. -/
structure Confidence where
  value : Float
  isNaN_eq_false : value.isNaN = false
  deriving Repr

namespace Confidence

instance : BEq Confidence where
  beq x y := x.value == y.value

instance : Coe Confidence Float where
  coe := value

theorem beq_self_of_isNaN_eq_false {x : Float} (h : x.isNaN = false) : (x == x) = true := by
  change x.toModel.unpack.beq x.toModel.unpack = true
  change x.toModel.unpack.isNaN = false at h
  cases hu : x.toModel.unpack with
  | notANumber =>
    rw [hu] at h
    cases h
  | infinity s => cases s <;> rfl
  | zero s => cases s <;> rfl
  | finite s m e hm =>
    have hexponent : compare e e = .eq := Std.ReflCmp.compare_self
    have hmantissa : compare m m = .eq := Std.ReflCmp.compare_self
    cases s with
    | positive =>
      change (some ((compare e e).then (compare m m)) == some Ordering.eq) = true
      rw [hexponent, hmantissa]
      rfl
    | negative =>
      change (some ((compare e e).then (compare m m)).swap == some Ordering.eq) = true
      rw [hexponent, hmantissa]
      rfl

instance : ReflBEq Confidence where
  rfl := beq_self_of_isNaN_eq_false (isNaN_eq_false _)

/-- A number brought between zero and one; what is no number counts as zero. -/
def clamp (x : Float) : Confidence :=
  if hnan : x.isNaN = true then ⟨0.0, by decide⟩
  else if x < 0.0 then ⟨0.0, by decide⟩
  else if x > 1.0 then ⟨1.0, by decide⟩
  else ⟨x, by simpa using hnan⟩

instance : OfScientific Confidence where
  ofScientific mantissa negative exponent := clamp (OfScientific.ofScientific mantissa negative exponent)

/-- The confidence that a value stands for, taken as it is. -/
def ofJson? (v : Json) : Option Confidence := do
  let x ← v.number?
  if hnan : x.isNaN = false then some ⟨x, hnan⟩ else none

end Confidence

/-- A typed segment of a filename. -/
structure Token where
  value : String
  position : Nat
  type : TokenType
  confidence : Confidence
  deriving Repr, BEq, ReflBEq

namespace Token

/-- A token with its confidence brought between zero and one. -/
def make (value : String) (position : Nat) (type : TokenType) (confidence : Float) : Token :=
  ⟨value, position, type, .clamp confidence⟩

def suggest (t : Token) (type : TokenType) (confidence : Float) : Token :=
  { t with type := type, confidence := .clamp confidence }

def moveTo (t : Token) (position : Nat) : Token :=
  { t with position := position }

def ofJson? (v : Json) : Option Token := do
  let fields ← Json.format.fields? v
  return {
    value := ← required Json.format.text? fields "value"
    position := ← required Json.format.natural? fields "position"
    type := ← required (Json.format.choice? TokenType.named?) fields "suggestedType"
    confidence := ← required Confidence.ofJson? fields "confidence" }

def toJson (t : Token) : Json :=
  .object [
    ("value", .text t.value), ("position", .natural t.position),
    ("suggestedType", .text t.type.name), ("confidence", .number t.confidence)]

end Token

end PhotoGrouping
