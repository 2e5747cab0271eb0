import Mathlib.Algebra.GroupWithZero.Nat
import Mathlib.Data.List.Forall2
import PhotoGrouping.Regex

namespace PhotoGrouping.Regex.Expr

/-- Whether expressions are joined by a constructor, each to all that come after it. -/
structure Joins (join : List Expr → Expr) (node : Expr → Expr → Expr) : Prop where
  nil : join [] = .empty
  one : ∀ r, join [r] = r
  cons : ∀ r s rest, join (r :: s :: rest) = node r (join (s :: rest))

theorem joins_catOf : Joins catOf cat :=
  ⟨rfl, fun _ => rfl, fun _ _ _ => rfl⟩

theorem joins_altOf : Joins altOf alt :=
  ⟨rfl, fun _ => rfl, fun _ _ _ => rfl⟩

namespace Joins

variable {join : List Expr → Expr} {node : Expr → Expr → Expr}

/-- What `f` makes of joined expressions, by what it makes of each and of two that are joined. -/
theorem apply {α : Type} {F : List Expr → α} (h : Joins join node) (f : Expr → α) (op : α → α → α)
    (hnode : ∀ r s, f (node r s) = op (f r) (f s)) (hnil : f .empty = F []) (hone : ∀ r, f r = F [r])
    (hcons : ∀ r s rest, op (f r) (F (s :: rest)) = F (r :: s :: rest)) (rs : List Expr) :
    f (join rs) = F rs := by
  induction rs with
  | nil => rw [h.nil, hnil]
  | cons r rest ih =>
    cases rest with
    | nil => rw [h.one, hone]
    | cons s rest => rw [h.cons, hnode, ih, hcons]

/-- A relation that respects how two are joined holds between joined expressions if it does between
one and one. -/
theorem rel {R : Expr → Expr → Prop} {rs rs' : List Expr} (h : Joins join node) (hempty : R .empty .empty)
    (hnode : ∀ {r r' s s'}, R r r' → R s s' → R (node r s) (node r' s')) (hrs : List.Forall₂ R rs rs') :
    R (join rs) (join rs') := by
  induction hrs with
  | nil => rwa [h.nil]
  | cons hr hrest ih =>
    cases hrest with
    | nil => rwa [h.one, h.one]
    | cons hs hrest =>
      rw [h.cons, h.cons]
      exact hnode hr ih

end Joins

theorem captureCount_catOf : ∀ rs, (catOf rs).captureCount = (rs.map captureCount).sum :=
  joins_catOf.apply captureCount (· + ·) (fun _ _ => rfl) rfl (fun _ => rfl) fun _ _ _ => rfl

theorem captureCount_altOf : ∀ rs, (altOf rs).captureCount = (rs.map captureCount).sum :=
  joins_altOf.apply captureCount (· + ·) (fun _ _ => rfl) rfl (fun _ => rfl) fun _ _ _ => rfl

theorem weight_catOf : ∀ rs, (catOf rs).weight = (rs.map weight).sum :=
  joins_catOf.apply weight (· + ·) (fun _ _ => rfl) rfl (fun _ => rfl) fun _ _ _ => rfl

theorem weight_altOf : ∀ rs, (altOf rs).weight = (rs.map weight).sum :=
  joins_altOf.apply weight (· + ·) (fun _ _ => rfl) rfl (fun _ => rfl) fun _ _ _ => rfl

theorem hasRepetition_catOf : ∀ rs, (catOf rs).hasRepetition = rs.any hasRepetition :=
  joins_catOf.apply hasRepetition or (fun _ _ => rfl) rfl (fun _ => (Bool.or_false _).symm)
    fun _ _ _ => rfl

theorem hasRepetition_altOf : ∀ rs, (altOf rs).hasRepetition = rs.any hasRepetition :=
  joins_altOf.apply hasRepetition or (fun _ _ => rfl) rfl (fun _ => (Bool.or_false _).symm)
    fun _ _ _ => rfl

end PhotoGrouping.Regex.Expr
