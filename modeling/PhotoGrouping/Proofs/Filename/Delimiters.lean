import PhotoGrouping.Filename
import PhotoGrouping.Proofs.Text.Folding

namespace PhotoGrouping.Filename

open Text

/-- All characters that separate segments. -/
def delimiterChars : List Char :=
  ['_', '-', '.', '\t', '\n', '\x0b', '\x0c', '\r', ' ', '\u0085', '\u00a0', '\u1680', '\u2000',
    '\u2001', '\u2002', '\u2003', '\u2004', '\u2005', '\u2006', '\u2007', '\u2008', '\u2009',
    '\u200a', '\u2028', '\u2029', '\u202f', '\u205f', '\u3000']

variable {c first last : Char} {cs shape : List Char}

private theorem mem_of_between {l : List Char} (h : (first ≤ c && c ≤ last) = true)
    (hl : ∀ k ≤ last.toNat - first.toNat, Char.ofNat (first.toNat + k) ∈ l) : c ∈ l := by
  obtain ⟨h1, h2⟩ := Bool.and_eq_true_iff.mp h
  have h1 : first.toNat ≤ c.toNat := UInt32.le_iff_toNat_le.mp (of_decide_eq_true h1)
  have h2 : c.toNat ≤ last.toNat := UInt32.le_iff_toNat_le.mp (of_decide_eq_true h2)
  have hk := hl (c.toNat - first.toNat) (by omega)
  rw [Nat.add_sub_cancel' h1, Char.ofNat_toNat] at hk
  exact hk

theorem mem_delimiterChars (h : isDelimiter c = true) : c ∈ delimiterChars := by
  simp only [isDelimiter, isBlank, Bool.or_eq_true, beq_iff_eq, or_assoc] at h
  rcases h with h | h | h | h | h | h | h | h | h | h | h | h | h | h
  case inr.inr.inr.inl => exact mem_of_between h (by decide)
  case inr.inr.inr.inr.inr.inr.inr.inr.inl => exact mem_of_between h (by decide)
  all_goals
    subst h
    decide

theorem isAlphanum_of_isDelimiter (h : isDelimiter c = true) : c.isAlphanum = false := by
  have hall : delimiterChars.all (!·.isAlphanum) = true := by decide
  simpa using List.all_eq_true.mp hall c (mem_delimiterChars h)

theorem isDigit_of_isDelimiter (h : isDelimiter c = true) : isDigit c = false := by
  have hall : delimiterChars.all (!isDigit ·) = true := by decide +kernel
  simpa using List.all_eq_true.mp hall c (mem_delimiterChars h)

theorem isUncased_of_isDelimiter (h : isDelimiter c = true) : isUncased c = true := by
  have hall : delimiterChars.all isUncased = true := by decide +kernel
  exact List.all_eq_true.mp hall c (mem_delimiterChars h)

/-- A text of a shape has its delimiters where the shape has them. -/
theorem map_isDelimiter_of_hasShape (h : hasShape shape cs = true) :
    cs.map isDelimiter = shape.map isDelimiter := by
  fun_induction hasShape shape cs with
  | case1 => rfl
  | case2 shape c cs ih =>
    obtain ⟨hc, h⟩ := Bool.and_eq_true_iff.mp h
    have hd : isDelimiter c = false := by
      rw [Bool.eq_false_iff]
      intro hd
      rw [isDigit_of_isDelimiter hd] at hc
      cases hc
    rw [List.map_cons, List.map_cons, ih h, hd]
    rfl
  | case3 s shape c cs hs ih =>
    obtain ⟨hc, hrest⟩ := Bool.and_eq_true_iff.mp h
    rw [List.map_cons, List.map_cons, ih hrest, beq_iff_eq.mp hc]
  | case4 => cases h

/-- A text of a shape holds as many delimiters as the shape. -/
theorem countP_isDelimiter_of_hasShape (h : hasShape shape cs = true) :
    cs.countP isDelimiter = shape.countP isDelimiter := by
  have hcount (cs : List Char) : cs.countP isDelimiter = (cs.map isDelimiter).countP id := by
    rw [List.countP_map, Function.id_comp]
  rw [hcount, hcount, map_isDelimiter_of_hasShape h]

end PhotoGrouping.Filename
