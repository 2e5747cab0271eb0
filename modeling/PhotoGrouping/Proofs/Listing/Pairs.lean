import Mathlib.Data.List.FinRange
import Mathlib.Data.List.Nodup
import PhotoGrouping.Validation.Patterns

namespace PhotoGrouping.Validation

variable {α β : Type} {a b : α} {xs ys : List α}

theorem mem_of_mem_pairs (h : (a, b) ∈ pairs xs) : a ∈ xs ∧ b ∈ xs := by
  induction xs with
  | nil => cases h
  | cons x xs ih =>
    rw [pairs, List.mem_append, List.mem_map] at h
    rcases h with ⟨y, hy, he⟩ | h
    · cases he
      exact ⟨List.mem_cons_self, List.mem_cons_of_mem _ hy⟩
    · exact ⟨List.mem_cons_of_mem _ (ih h).1, List.mem_cons_of_mem _ (ih h).2⟩

/-- Of two different items one comes before the other. -/
theorem mem_pairs_or_mem_pairs (ha : a ∈ xs) (hb : b ∈ xs) (hne : a ≠ b) :
    (a, b) ∈ pairs xs ∨ (b, a) ∈ pairs xs := by
  induction xs with
  | nil => cases ha
  | cons x xs ih =>
    simp only [pairs, List.mem_append, List.mem_map]
    rcases List.mem_cons.mp ha with rfl | ha'
    · rcases List.mem_cons.mp hb with rfl | hb'
      · exact absurd rfl hne
      · exact Or.inl (Or.inl ⟨b, hb', rfl⟩)
    · rcases List.mem_cons.mp hb with rfl | hb'
      · exact Or.inr (Or.inl ⟨a, ha', rfl⟩)
      · exact (ih ha' hb').imp Or.inr Or.inr

theorem pairs_map (f : α → β) (xs : List α) : pairs (xs.map f) = (pairs xs).map (Prod.map f f) := by
  induction xs with
  | nil => rfl
  | cons x xs ih =>
    rw [List.map_cons, pairs, pairs, ih, List.map_append, List.map_map, List.map_map]
    rfl

theorem rel_of_mem_pairs {R : α → α → Prop} (hxs : xs.Pairwise R) (h : (a, b) ∈ pairs xs) : R a b := by
  induction hxs with
  | nil => cases h
  | cons hx _ ih =>
    rw [pairs, List.mem_append, List.mem_map] at h
    rcases h with ⟨y, hy, he⟩ | h
    · cases he
      exact hx b hy
    · exact ih h

theorem nodup_pairs (h : xs.Nodup) : (pairs xs).Nodup := by
  induction xs with
  | nil => exact List.nodup_nil
  | cons x xs ih =>
    obtain ⟨hx, hxs⟩ := List.nodup_cons.mp h
    rw [pairs]
    refine List.Nodup.append ?_ (ih hxs) ?_
    · exact hxs.map fun y z he => congrArg Prod.snd he
    · intro p hp hp'
      obtain ⟨y, -, rfl⟩ := List.mem_map.mp hp
      exact hx (mem_of_mem_pairs hp').1

/-- How many pairs have a property that does not depend on which item comes first is the same in every
order of the items. -/
theorem countP_pairs_perm {p : α × α → Bool} (hp : ∀ a b, p (a, b) = p (b, a)) (h : xs.Perm ys) :
    (pairs xs).countP p = (pairs ys).countP p := by
  have hcons : ∀ (x : α) (xs : List α),
      (pairs (x :: xs)).countP p = xs.countP (fun y => p (x, y)) + (pairs xs).countP p := by
    intro x xs
    rw [pairs, List.countP_append, List.countP_map]
    rfl
  induction h with
  | nil => rfl
  | cons x h ih => rw [hcons, hcons, ih, h.countP_eq]
  | swap x y xs =>
    simp only [hcons, List.countP_cons, hp y x]
    omega
  | trans _ _ ih ih' => rw [ih, ih']

/-- The positions of a list in pairs, the first before the second. -/
theorem mem_pairs_finRange {n : Nat} {i j : Fin n} : (i, j) ∈ pairs (List.finRange n) ↔ i < j := by
  have hascending : (List.finRange n).Pairwise (· < ·) := List.pairwise_lt_finRange n
  constructor
  · exact rel_of_mem_pairs hascending
  · intro hij
    obtain h | h := mem_pairs_or_mem_pairs (List.mem_finRange i) (List.mem_finRange j) (ne_of_lt hij)
    · exact h
    · exact absurd (rel_of_mem_pairs hascending h) (lt_asymm hij)

/-- The pairs of a list are those of the items at its positions. -/
theorem pairs_eq_map_finRange (xs : List α) :
    pairs xs = (pairs (List.finRange xs.length)).map fun p => (xs[p.1], xs[p.2]) := by
  have hmap : (List.finRange xs.length).map (fun i => xs[i]) = xs := by
    rw [← List.ofFn_eq_map]
    exact List.ofFn_getElem
  calc
    pairs xs = pairs ((List.finRange xs.length).map fun i => xs[i]) := by rw [hmap]
    _ = (pairs (List.finRange xs.length)).map fun p => (xs[p.1], xs[p.2]) := pairs_map _ _

end PhotoGrouping.Validation
