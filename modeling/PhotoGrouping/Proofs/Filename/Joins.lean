import Mathlib.Data.List.Infix
import PhotoGrouping.Filename

namespace PhotoGrouping.Filename

/-- Whether a text consists of values with a single delimiter between every two of them. -/
def isSinglyJoined : List (List Char) → List Char → Bool
  | [], cs => cs.isEmpty
  | [v], cs => cs == v
  | v :: vs, cs =>
    v.isPrefixOf cs && match cs.drop v.length with
      | [] => false
      | d :: rest => isDelimiter d && isSinglyJoined vs rest

variable {v w cs x y : List Char} {vs : List (List Char)} {d e : Char}

theorem isSinglyJoined_singleton : isSinglyJoined [v] cs = true ↔ cs = v := by
  rw [isSinglyJoined, beq_iff_eq]

theorem isSinglyJoined_cons_cons :
    isSinglyJoined (v :: w :: vs) cs = true ↔
      ∃ d rest, isDelimiter d = true ∧ cs = v ++ d :: rest ∧
        isSinglyJoined (w :: vs) rest = true := by
  rw [isSinglyJoined, Bool.and_eq_true, List.isPrefixOf_iff_prefix]
  · constructor
    · rintro ⟨⟨rest, rfl⟩, h⟩
      rw [List.drop_left] at h
      cases rest with
      | nil => cases h
      | cons d rest =>
        obtain ⟨hd, h⟩ := Bool.and_eq_true_iff.mp h
        exact ⟨d, rest, hd, rfl, h⟩
    · rintro ⟨d, rest, hd, rfl, h⟩
      refine ⟨List.prefix_append v (d :: rest), ?_⟩
      rw [List.drop_left]
      exact Bool.and_eq_true_iff.mpr ⟨hd, h⟩
  · intro h
    cases h

private theorem length_le_of_countP_le (hd : isDelimiter d = true)
    (h : v ++ d :: x = w ++ y) (hcount : w.countP isDelimiter ≤ v.countP isDelimiter) :
    w.length ≤ v.length := by
  by_contra hlt
  have hle : (v ++ [d]).length ≤ w.length := by
    rw [List.length_append, List.length_singleton]
    omega
  have hprefix : v ++ [d] <+: w := by
    refine List.prefix_of_prefix_length_le ?_ (List.prefix_append w y) hle
    rw [← h]
    exact ⟨x, by simp⟩
  have hc := hprefix.sublist.countP_le (p := isDelimiter)
  rw [List.countP_append, List.countP_singleton, if_pos hd] at hc
  omega

/-- A text is split in one way only at a delimiter with a given number of delimiters before it. -/
theorem append_delimiter_inj (hd : isDelimiter d = true) (he : isDelimiter e = true)
    (h : v ++ d :: x = w ++ e :: y) (hcount : v.countP isDelimiter = w.countP isDelimiter) :
    v = w ∧ x = y := by
  have h1 := length_le_of_countP_le hd h (Nat.le_of_eq hcount.symm)
  have h2 := length_le_of_countP_le he h.symm (Nat.le_of_eq hcount)
  obtain ⟨hv, ht⟩ := List.append_inj h (Nat.le_antisymm h2 h1)
  exact ⟨hv, (List.cons.inj ht).2⟩

end PhotoGrouping.Filename
