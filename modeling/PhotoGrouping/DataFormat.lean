namespace PhotoGrouping

/-- What a data format tells about its values, as far as records are read from them. -/
structure DataFormat (V : Type) where
  text? : V → Option String
  boolean? : V → Option Bool
  integer? : V → Option Int
  items? : V → Option (List V)
  fields? : V → Option (List (String × V))
  /-- The name of a choice that a value stands for. -/
  name? : V → Option String
  /-- Whether a value stands for the absence of one. -/
  isAbsent : V → Bool

namespace DataFormat

variable {V α : Type}

def required (read : V → Option α) (fields : List (String × V)) (key : String) : Option α :=
  (fields.lookup key).bind read

/-- Reads a field that may be left out, in favour of a default. -/
def defaulted (read : V → Option α) (default : α) (fields : List (String × V)) (key : String) :
    Option α :=
  match fields.lookup key with
  | none => some default
  | some v => read v

def optional (f : DataFormat V) (read : V → Option α) (fields : List (String × V))
    (key : String) : Option (Option α) :=
  defaulted (fun v => if f.isAbsent v then some none else (read v).map some) none fields key

/-- The natural number of a value, of 64 bits. -/
def natural? (f : DataFormat V) (v : V) : Option Nat :=
  (f.integer? v).bind fun n => if 0 ≤ n && n < Nat.pow 2 64 then some n.toNat else none

/-- The signed number of a value, of 32 bits. -/
def signed? (f : DataFormat V) (v : V) : Option Int32 :=
  (f.integer? v).bind fun n =>
    if Int32.minValue.toInt ≤ n && n ≤ Int32.maxValue.toInt then some (Int32.ofInt n) else none

def choice? (f : DataFormat V) (named? : String → Option α) (v : V) : Option α :=
  (f.name? v).bind named?

/-- The list of what is read from the items of a value. -/
def list? (f : DataFormat V) (read : V → Option α) (v : V) : Option (List α) :=
  (f.items? v).bind (·.mapM read)

theorem list?_map (f : DataFormat V) {v : V} {read : V → Option α} {value : α → V} {as : List α}
    (hitems : f.items? v = some (as.map value)) (h : ∀ a, read (value a) = some a) :
    f.list? read v = some as := by
  have hread : (as.map value).mapM read = some as := by
    have hcomp : read ∘ value = fun a => pure (id a) := funext h
    rw [List.mapM_map, hcomp, List.mapM_pure, List.map_id]
    rfl
  rw [list?, hitems, Option.bind_some, hread]

end DataFormat

end PhotoGrouping
