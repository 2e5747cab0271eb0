import Mathlib.Data.List.Forall2
import PhotoGrouping.Text.Casing
import PhotoGrouping.Text.FoldMap

namespace PhotoGrouping.Text

/-- A property of all ASCII characters is checked on their numbers. -/
theorem forall_ascii (P : Char → Prop) (h : ∀ n < 128, P (Char.ofNat n)) (c : Char)
    (hc : c.toNat < 128) : P c := by
  rw [← Char.ofNat_toNat c]
  exact h c.toNat hc

theorem eq_toNat_of_ofNat_eq {n : Nat} {c : Char} (h : Char.ofNat n = c) (hc : c.toNat ≠ 0) :
    n = c.toNat := by
  by_cases hv : n.isValidChar
  · have hn : Char.ofNat n = Char.ofNatAux n hv := dif_pos hv
    rw [← h, hn]
    rfl
  · have hn : Char.ofNat n = '\x00' := dif_neg hv
    rw [← h, hn] at hc
    exact absurd rfl hc

theorem toNat_lt_of_isAlphanum {c : Char} (h : c.isAlphanum = true) : c.toNat < 128 := by
  have h : (decide (c.val ≥ 'A'.val ∧ c.val ≤ 'Z'.val) ||
      (decide (c.val ≥ 'a'.val) && decide (c.val ≤ 'z'.val)) ||
      (decide (c.val ≥ '0'.val) && decide (c.val ≤ '9'.val))) = true := h
  simp only [Bool.or_eq_true, Bool.and_eq_true, decide_eq_true_eq, UInt32.le_iff_toNat_le,
    ge_iff_le] at h
  have hn : c.toNat = c.val.toNat := rfl
  have h1 : 'Z'.val.toNat = 90 := rfl
  have h2 : 'z'.val.toNat = 122 := rfl
  have h3 : '9'.val.toNat = 57 := rfl
  omega

/-- Whether a shift neither moves a code point nor moves another one to it. -/
def Shift.avoids (s : Shift) (n : Nat) : Bool :=
  !(s.source.first ≤ n && n ≤ s.source.last) &&
    !(s.target ≤ n && n ≤ s.target + (s.source.last - s.source.first))

/-- Whether a character differs from no other in case only. -/
def isUncased (c : Char) : Bool :=
  c.toNat != 0 && !c.isAlpha && foldShifts.all (·.avoids c.toNat)

variable {c d : Char} {s : Shift} {n m : Nat}

theorem Shift.target?_ne (h : s.avoids m = true) : s.target? n ≠ some m := by
  intro ht
  unfold Shift.target? at ht
  split at ht
  · rename_i hs
    obtain rfl := Option.some.inj ht
    simp only [Span.contains, Bool.and_eq_true, decide_eq_true_eq] at hs
    simp only [avoids, Bool.and_eq_true, Bool.not_eq_true', Bool.and_eq_false_iff,
      decide_eq_false_iff_not] at h
    omega
  · cases ht

theorem Shift.preimage?_ne (h : s.avoids m = true) : s.preimage? n ≠ some m := by
  intro hp
  unfold Shift.preimage? at hp
  dsimp only at hp
  split at hp
  · rename_i hs
    obtain rfl := Option.some.inj hp
    simp only [Span.contains, Bool.and_eq_true, decide_eq_true_eq] at hs
    simp only [avoids, Bool.and_eq_true, Bool.not_eq_true', Bool.and_eq_false_iff,
      decide_eq_false_iff_not] at h
    omega
  · cases hp

theorem shifted_eq_or (shifts : List Shift) (c : Char) :
    shifted shifts c = c ∨ ∃ s ∈ shifts, ∃ n, s.target? c.toNat = some n ∧
      shifted shifts c = Char.ofNat n := by
  unfold shifted
  cases h : shifts.findSome? (·.target? c.toNat) with
  | none => exact Or.inl rfl
  | some n =>
    obtain ⟨s, hs, hn⟩ := List.exists_of_findSome?_eq_some h
    exact Or.inr ⟨s, hs, n, hn, rfl⟩

/-- A character without case represents no other. -/
theorem eq_of_foldChar_eq (hd : isUncased d = true) (h : foldChar c = d) : c = d := by
  simp only [isUncased, Bool.and_eq_true, bne_iff_ne, ne_eq, Bool.not_eq_true',
    List.all_eq_true] at hd
  obtain ⟨⟨hzero, halpha⟩, hshifts⟩ := hd
  unfold foldChar at h
  split at h
  · rename_i hc
    have hlower := forall_ascii (fun c => c.toLower.isAlpha = false → c = c.toLower) (by decide) c hc
    rw [← h] at halpha ⊢
    exact hlower halpha
  · rcases shifted_eq_or foldShifts c with he | ⟨s, hs, n, hn, he⟩
    · rw [← h, he]
    · -- The character would be the target of a shift.
      have hd := eq_toNat_of_ofNat_eq (he.symm.trans h) hzero
      rw [hd] at hn
      exact absurd hn (Shift.target?_ne (hshifts s hs))

/-- A character without case is a variant of no other. -/
theorem eq_of_mem_caseVariants (hd : isUncased d = true) (h : d ∈ caseVariants c) : c = d := by
  have hfold := eq_of_foldChar_eq (c := c) hd
  have hkelvin : d ≠ '\u212a' := by
    rintro rfl
    revert hd
    decide
  have hlongS : d ≠ '\u017f' := by
    rintro rfl
    revert hd
    decide
  simp only [isUncased, Bool.and_eq_true, bne_iff_ne, ne_eq, Bool.not_eq_true',
    List.all_eq_true] at hd
  obtain ⟨⟨hzero, halpha⟩, hshifts⟩ := hd
  unfold caseVariants at h
  dsimp only at h
  split at h
  · rename_i hf
    have hupper := forall_ascii (fun c => c.toUpper.isAlpha = false → c = c.toUpper) (by decide) _ hf
    rcases List.mem_append.mp h with h | h
    · simp only [List.mem_cons, List.not_mem_nil, or_false] at h
      rcases h with h | h
      · exact hfold h.symm
      · rw [h] at halpha
        exact hfold ((hupper halpha).trans h.symm)
    · split at h
      · exact absurd (List.mem_singleton.mp h) hkelvin
      · split at h
        · exact absurd (List.mem_singleton.mp h) hlongS
        · cases h
  · rcases List.mem_cons.mp h with h | h
    · exact hfold h.symm
    · obtain ⟨n, hn, hd⟩ := List.mem_map.mp h
      obtain ⟨s, hs, hp⟩ := List.mem_filterMap.mp hn
      have hnd := eq_toNat_of_ofNat_eq hd hzero
      rw [hnd] at hp
      exact absurd hp (Shift.preimage?_ne (hshifts s hs))

/-- The one character beyond ASCII whose lowercase form is an ASCII character is the Kelvin sign. -/
theorem eq_kelvin_of_lowerChar (hc : ¬ c.toNat < 128) (hd : d.toNat < 128) (hzero : d.toNat ≠ 0)
    (h : lowerChar c = [d]) : c = '\u212a' ∧ d = 'k' := by
  have htable : ∀ s ∈ lowerShifts, 128 ≤ s.target ∨ s = ⟨⟨0x212A, 0x212A, 1⟩, 0x006B⟩ := by
    decide +kernel
  unfold lowerChar at h
  rw [if_neg hc] at h
  split at h
  · cases h
  · have hs := List.singleton_inj.mp h
    rcases shifted_eq_or lowerShifts c with he | ⟨s, hmem, n, hn, he⟩
    · rw [hs.symm.trans he] at hd
      exact absurd hd hc
    · have hnd := eq_toNat_of_ofNat_eq (he.symm.trans hs) hzero
      unfold Shift.target? at hn
      split at hn
      · rename_i hcontains
        simp only [Span.contains, Bool.and_eq_true, decide_eq_true_eq] at hcontains
        have hvalue := Option.some.inj hn
        rcases htable s hmem with ht | rfl
        · omega
        · dsimp only at hcontains hvalue
          have hc' : c.toNat = 0x212A := by omega
          have hd' : d.toNat = 0x6B := by omega
          constructor
          · rw [← Char.ofNat_toNat c, hc']
          · rw [← Char.ofNat_toNat d, hd']
      · cases hn

theorem mem_caseVariants_of_lowerChar (hd : d.isLower = true) (h : lowerChar c = [d]) :
    d ∈ caseVariants c := by
  have hascii : d.toNat < 128 := by
    apply toNat_lt_of_isAlphanum
    change (d.isUpper || d.isLower || d.isDigit) = true
    rw [hd, Bool.or_true, Bool.true_or]
  have hzero : d.toNat ≠ 0 := by
    intro h0
    rw [← Char.ofNat_toNat d, h0] at hd
    cases hd
  by_cases hc : c.toNat < 128
  · rw [lowerChar_ascii hc, List.singleton_inj] at h
    have hf : foldChar c = d := by
      rw [foldChar, if_pos hc, h]
    unfold caseVariants
    dsimp only
    rw [hf, if_pos hascii]
    simp
  · obtain ⟨rfl, rfl⟩ := eq_kelvin_of_lowerChar hc hascii hzero h
    decide

theorem not_isLower_lowerSigma (before after : List Char) :
    (lowerSigma before after).isLower = false := by
  unfold lowerSigma
  split
  · decide
  · decide

/-- A text whose lowercase form consists of ASCII letters differs from that form in case only,
character by character. -/
theorem caseVariants_of_lowerFrom {before cs word : List Char}
    (hword : ∀ d ∈ word, d.isLower = true) (h : lowerFrom before cs = word) :
    List.Forall₂ (fun d c => d ∈ caseVariants c) word cs := by
  -- Only a sigma and the dotted capital I are not lowered to one character by themselves.
  induction cs generalizing before word with
  | nil =>
    subst h
    exact List.Forall₂.nil
  | cons c cs ih =>
    rw [lowerFrom] at h
    by_cases hsigma : (c == 'Σ') = true
    · rw [if_pos hsigma] at h
      have hlow := hword (lowerSigma before cs) (by simp [← h])
      rw [not_isLower_lowerSigma] at hlow
      cases hlow
    · rw [if_neg hsigma] at h
      have hone : ∃ d, lowerChar c = [d] := by
        unfold lowerChar at h ⊢
        split
        · exact ⟨_, rfl⟩
        · split
          · rename_i hascii hdot
            rw [if_neg hascii, if_pos hdot] at h
            have hlow := hword '\u0307' (by simp [← h])
            cases hlow
          · exact ⟨_, rfl⟩
      obtain ⟨d, hd⟩ := hone
      rw [hd, List.singleton_append] at h
      subst h
      have hvariant := mem_caseVariants_of_lowerChar (hword d (by simp)) hd
      refine List.Forall₂.cons hvariant (ih ?_ rfl)
      intro e he
      exact hword e (List.mem_cons_of_mem d he)

end PhotoGrouping.Text
