import Mathlib.Data.List.Nodup
import Mathlib.Data.List.Perm.Subperm
import PhotoGrouping.Listing

namespace PhotoGrouping

variable {α β γ : Type} [DecidableEq β] {key : α → β} {x y : α} {xs : List α}

theorem distinctOn_sublist (key : α → β) (xs : List α) : (distinctOn key xs).Sublist xs := by
  induction xs with
  | nil => exact List.Sublist.refl []
  | cons x xs ih => exact (List.filter_sublist.trans ih).cons_cons x

/-- The keys of what is left are the keys of all items, each where it occurs first. -/
theorem map_distinctOn (key : α → β) (xs : List α) :
    (distinctOn key xs).map key = distinct (xs.map key) := by
  induction xs with
  | nil => rfl
  | cons x xs ih =>
    rw [distinctOn, List.map_cons, List.map_cons, distinct, ← ih, List.filter_map]
    rfl

theorem nodup_map_distinctOn (key : α → β) (xs : List α) : ((distinctOn key xs).map key).Nodup := by
  rw [map_distinctOn]
  exact nodup_distinct (xs.map key)

/-- Every item has one with the same key among those that are left. -/
theorem exists_mem_distinctOn (key : α → β) (hx : x ∈ xs) : ∃ y ∈ distinctOn key xs, key y = key x := by
  have hkey : key x ∈ (distinctOn key xs).map key := by
    rw [map_distinctOn, mem_distinct]
    exact List.mem_map_of_mem hx
  exact List.mem_map.mp hkey

/-- What items come to is not lost with the items that are left out, if the key determines it. -/
theorem mem_map_distinctOn {f : α → γ} (hf : ∀ x y, key x = key y → f x = f y) {z : γ} :
    z ∈ (distinctOn key xs).map f ↔ z ∈ xs.map f := by
  constructor
  · intro hz
    exact ((distinctOn_sublist key xs).map f).subset hz
  · intro hz
    obtain ⟨x, hx, rfl⟩ := List.mem_map.mp hz
    obtain ⟨y, hy, hkey⟩ := exists_mem_distinctOn key hx
    exact List.mem_map.mpr ⟨y, hy, hf y x hkey⟩

/-- What items come to is met once only if among them it determines the key, and then only. -/
theorem nodup_map_distinctOn_iff {f : α → γ} (hf : ∀ x y, key x = key y → f x = f y) :
    ((distinctOn key xs).map f).Nodup ↔ ∀ x ∈ xs, ∀ y ∈ xs, f x = f y → key x = key y := by
  have hleft : (distinctOn key xs).Nodup := List.Nodup.of_map key (nodup_map_distinctOn key xs)
  constructor
  · intro hnodup x hx y hy hxy
    obtain ⟨x', hx', hkx⟩ := exists_mem_distinctOn key hx
    obtain ⟨y', hy', hky⟩ := exists_mem_distinctOn key hy
    have hsame : f x' = f y' := by rw [hf x' x hkx, hxy, hf y' y hky]
    have heq : x' = y' := List.inj_on_of_nodup_map hnodup hx' hy' hsame
    rw [← hkx, heq, hky]
  · intro h
    refine hleft.map_on ?_
    intro x hx y hy hxy
    have hsub := (distinctOn_sublist key xs).subset
    exact List.inj_on_of_nodup_map (nodup_map_distinctOn key xs) hx hy (h x (hsub hx) y (hsub hy) hxy)

/-- Items without repetitions are not more than the items of any list that has them all, and as many
only if that list has no repetitions and nothing else. -/
theorem length_le_of_nodup {xs ys : List α} (hxs : xs.Nodup) (h : ∀ x, x ∈ ys ↔ x ∈ xs) :
    xs.length ≤ ys.length ∧ (ys.length = xs.length ↔ ys.Nodup) := by
  have hsub : List.Subperm xs ys := hxs.subperm fun x hx => (h x).mpr hx
  refine ⟨hsub.length_le, ?_, ?_⟩
  · intro hlength
    exact (hsub.perm_of_length_le (Nat.le_of_eq hlength)).nodup hxs
  · intro hys
    exact ((List.perm_ext_iff_of_nodup hys hxs).mpr h).length_eq

end PhotoGrouping
