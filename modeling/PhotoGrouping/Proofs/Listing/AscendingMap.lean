import Mathlib.Data.List.Nodup
import Mathlib.Data.String.Basic
import PhotoGrouping.Listing

namespace PhotoGrouping

theorem insertText_pairwise (x : String) (ys : List String) (h : ys.Pairwise (· < ·)) :
    (insertText x ys).Pairwise (· < ·) := by
  induction ys with
  | nil => exact List.pairwise_singleton _ x
  | cons y ys ih =>
    obtain ⟨hy, hys⟩ := List.pairwise_cons.mp h
    rw [insertText]
    split
    · rename_i hxy
      refine List.pairwise_cons.mpr ⟨?_, h⟩
      intro z hz
      rcases List.mem_cons.mp hz with rfl | hz
      · exact hxy
      · exact lt_trans hxy (hy z hz)
    · rename_i hxy
      split
      · exact h
      · rename_i hne
        refine List.pairwise_cons.mpr ⟨?_, ih hys⟩
        intro z hz
        rcases mem_insertText.mp hz with rfl | hz
        · exact lt_of_le_of_ne (not_lt.mp hxy) (Ne.symm hne)
        · exact hy z hz

/-- Ascending texts ascend strictly, so none is listed twice. -/
theorem ascending_pairwise (xs : List String) : (ascending xs).Pairwise (· < ·) := by
  induction xs with
  | nil => exact List.Pairwise.nil
  | cons x xs ih => exact insertText_pairwise x (ascending xs) ih

theorem ascending_nodup (xs : List String) : (ascending xs).Nodup :=
  (ascending_pairwise xs).imp ne_of_lt

/-- Texts that ascend strictly are what any list of the same texts ascends to. -/
theorem ascending_eq_of_pairwise {xs ys : List String} (hys : ys.Pairwise (· < ·))
    (h : ∀ x, x ∈ xs ↔ x ∈ ys) : ascending xs = ys := by
  refine List.Perm.eq_of_pairwise ?_ (ascending_pairwise xs) hys ?_
  · intro a b _ _ hab hba
    exact absurd hba (lt_asymm hab)
  · rw [List.perm_ext_iff_of_nodup (ascending_nodup xs) (hys.imp ne_of_lt)]
    intro x
    rw [mem_ascending, h]

/-- Distinct items stand in the order in which they occur first. -/
theorem distinct_pairwise_idxOf {α : Type} [DecidableEq α] (xs : List α) :
    (distinct xs).Pairwise fun a b => xs.idxOf a < xs.idxOf b := by
  induction xs with
  | nil => exact List.Pairwise.nil
  | cons x xs ih =>
    refine List.pairwise_cons.mpr ⟨?_, ?_⟩
    · intro y hy
      have hne : y ≠ x := by simpa using (List.mem_filter.mp hy).2
      rw [List.idxOf_cons_self, List.idxOf_cons_ne _ (Ne.symm hne)]
      exact Nat.succ_pos _
    · rw [List.pairwise_filter]
      refine ih.imp ?_
      intro a b hab ha hb
      have ha : a ≠ x := by simpa using ha
      have hb : b ≠ x := by simpa using hb
      rw [List.idxOf_cons_ne _ (Ne.symm ha), List.idxOf_cons_ne _ (Ne.symm hb)]
      exact Nat.succ_lt_succ hab

section Map

variable {α : Type}

/-- The map that gives keys their values, without the keys that have none. -/
def keyed (keys : List String) (value : String → Option α) : List (String × α) :=
  keys.filterMap fun k => (value k).map (k, ·)

theorem keys_keyed (keys : List String) (value : String → Option α) :
    (keyed keys value).map (·.1) = keys.filter fun k => (value k).isSome := by
  induction keys with
  | nil => rfl
  | cons k keys ih =>
    unfold keyed at ih ⊢
    cases hv : value k <;> simp [hv, ih]

theorem lookup_cons_eq (m : List (String × α)) (k x : String) (a : α) :
    ((x, a) :: m).lookup k = if k = x then some a else m.lookup k := by
  by_cases h : k = x
  · simp [h]
  · have hb : (k == x) = false := beq_eq_false_iff_ne.mpr h
    simp [List.lookup_cons, hb, h]

theorem lookup_keyed (keys : List String) (value : String → Option α) (k : String) :
    (keyed keys value).lookup k = if k ∈ keys then value k else none := by
  induction keys with
  | nil => rfl
  | cons x keys ih =>
    cases hv : value x with
    | none =>
      have hx : keyed (x :: keys) value = keyed keys value := by simp [keyed, hv]
      rw [hx, ih]
      by_cases hk : k = x
      · subst hk
        simp [hv]
      · simp [hk]
    | some a =>
      have hx : keyed (x :: keys) value = (x, a) :: keyed keys value := by simp [keyed, hv]
      rw [hx, lookup_cons_eq, ih]
      by_cases hk : k = x
      · subst hk
        simp [hv]
      · simp [hk]

theorem keyed_pairwise (keys : List String) (value : String → Option α)
    (h : keys.Pairwise (· < ·)) : ((keyed keys value).map (·.1)).Pairwise (· < ·) := by
  rw [keys_keyed]
  exact h.filter _

theorem mem_of_lookup_eq_some (m : List (String × α)) (k : String) (a : α)
    (h : m.lookup k = some a) : (k, a) ∈ m := by
  obtain ⟨l, r, rfl, _⟩ := List.lookup_eq_some_iff.mp h
  simp

theorem lookup_isSome_iff (m : List (String × α)) (k : String) :
    (m.lookup k).isSome ↔ k ∈ m.map (·.1) := by
  constructor
  · intro h
    obtain ⟨a, ha⟩ := Option.isSome_iff_exists.mp h
    exact List.mem_map.mpr ⟨(k, a), mem_of_lookup_eq_some m k a ha, rfl⟩
  · intro h
    obtain ⟨e, he, rfl⟩ := List.mem_map.mp h
    by_contra hn
    rw [Option.not_isSome_iff_eq_none, List.lookup_eq_none_iff] at hn
    simpa using hn e he

/-- Where a key has one value only, that value is looked up for it. -/
theorem lookup_eq_some_iff_of_unique (m : List (String × α))
    (h : ∀ k a b, (k, a) ∈ m → (k, b) ∈ m → a = b) (k : String) (a : α) :
    m.lookup k = some a ↔ (k, a) ∈ m := by
  refine ⟨mem_of_lookup_eq_some m k a, ?_⟩
  intro ha
  have hk : (m.lookup k).isSome :=
    (lookup_isSome_iff m k).mpr (List.mem_map.mpr ⟨(k, a), ha, rfl⟩)
  obtain ⟨b, hb⟩ := Option.isSome_iff_exists.mp hk
  rw [hb, h k b a (mem_of_lookup_eq_some m k b hb) ha]

theorem lookup_eq_some_iff_of_nodup (m : List (String × α)) (h : (m.map (·.1)).Nodup)
    (k : String) (a : α) : m.lookup k = some a ↔ (k, a) ∈ m := by
  refine lookup_eq_some_iff_of_unique m ?_ k a
  intro k a b ha hb
  exact congrArg Prod.snd (List.inj_on_of_nodup_map h ha hb rfl)

/-- In a map that gives keys one value, that value is looked up for each of them. -/
theorem lookup_map_const (keys : List String) (a : α) (k : String) :
    (keys.map (·, a)).lookup k = if k ∈ keys then some a else none := by
  induction keys with
  | nil => rfl
  | cons x keys ih =>
    rw [List.map_cons, lookup_cons_eq, ih]
    by_cases hk : k = x <;> simp [hk]

/-- Maps in ascending order in which each key has the same value are equal. -/
theorem eq_of_lookup_eq (m n : List (String × α)) (hm : (m.map (·.1)).Pairwise (· < ·))
    (hn : (n.map (·.1)).Pairwise (· < ·)) (h : ∀ k, m.lookup k = n.lookup k) : m = n := by
  have hm' : (m.map (·.1)).Nodup := hm.imp ne_of_lt
  have hn' : (n.map (·.1)).Nodup := hn.imp ne_of_lt
  refine List.Perm.eq_of_pairwise ?_ (List.pairwise_map.mp hm) (List.pairwise_map.mp hn) ?_
  · intro a b _ _ hab hba
    exact absurd hba (lt_asymm hab)
  · rw [List.perm_ext_iff_of_nodup (List.Nodup.of_map _ hm') (List.Nodup.of_map _ hn')]
    rintro ⟨k, a⟩
    rw [← lookup_eq_some_iff_of_nodup m hm', ← lookup_eq_some_iff_of_nodup n hn', h]

end Map

end PhotoGrouping
