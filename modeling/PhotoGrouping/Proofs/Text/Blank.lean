import PhotoGrouping.Proofs.Text.Folding
import PhotoGrouping.Text.Blank

namespace PhotoGrouping.Text

variable {c d : Char}

def blankPoints : List Nat :=
  List.range' 0x09 5 ++ [0x20, 0x85, 0xA0, 0x1680] ++ List.range' 0x2000 11 ++
    [0x2028, 0x2029, 0x202F, 0x205F, 0x3000]

theorem mem_blankPoints (h : isBlank c = true) : c.toNat ∈ blankPoints := by
  have hval : c.val.toNat = c.toNat := rfl
  simp only [isBlank, Bool.or_eq_true, Bool.and_eq_true, decide_eq_true_eq, beq_iff_eq, Char.le_def,
    UInt32.le_iff_toNat_le, ← Char.toNat_inj, Char.reduceToNat, Char.reduceVal,
    UInt32.reduceToNat, hval] at h
  simp only [blankPoints, List.mem_append, List.mem_range'_1, List.mem_cons, List.not_mem_nil,
    or_false]
  omega

/-- No white space is the lower case of another character, or has another one as its lower case. -/
theorem avoids_of_isBlank (h : isBlank c = true) : ∀ s ∈ lowerShifts, s.avoids c.toNat = true := by
  have htable : (lowerShifts.all fun s => blankPoints.all s.avoids) = true := by decide +kernel
  intro s hs
  exact List.all_eq_true.mp (List.all_eq_true.mp htable s hs) c.toNat (mem_blankPoints h)

theorem Shift.target?_eq_none {s : Shift} {n : Nat} (h : s.avoids n = true) : s.target? n = none := by
  unfold target?
  split
  · rename_i hn
    simp only [Span.contains, Bool.and_eq_true, decide_eq_true_eq] at hn
    simp only [avoids, hn.1, Bool.and_eq_true, Bool.not_eq_true', decide_eq_true, Bool.and_true] at h
    cases h.1
  · rfl

theorem isBlank_shifted (c : Char) : isBlank (shifted lowerShifts c) = isBlank c := by
  rcases shifted_eq_or lowerShifts c with he | ⟨s, hs, n, hn, he⟩
  · rw [he]
  · have hfrom : isBlank c = false := by
      by_contra hc
      rw [Bool.not_eq_false] at hc
      rw [Shift.target?_eq_none (avoids_of_isBlank hc s hs)] at hn
      cases hn
    have hto : isBlank (shifted lowerShifts c) = false := by
      by_contra hd
      rw [Bool.not_eq_false] at hd
      have hzero : (shifted lowerShifts c).toNat ≠ 0 := by
        intro hzero
        have hmem := mem_blankPoints hd
        rw [hzero] at hmem
        revert hmem
        decide
      rw [eq_toNat_of_ofNat_eq he.symm hzero] at hn
      exact Shift.target?_ne (avoids_of_isBlank hd s hs) hn
    rw [hfrom, hto]

theorem lowerChar_ne_nil (c : Char) : lowerChar c ≠ [] := by
  unfold lowerChar
  split
  · exact List.cons_ne_nil _ _
  · split
    · exact List.cons_ne_nil _ _
    · exact List.cons_ne_nil _ _

theorem isBlank_of_mem_lowerChar (h : d ∈ lowerChar c) : isBlank d = isBlank c := by
  unfold lowerChar at h
  split at h
  · rename_i hc
    rw [List.mem_singleton.mp h]
    exact forall_ascii (fun c => isBlank c.toLower = isBlank c) (by decide) c hc
  · split at h
    · rename_i hdot
      rw [beq_iff_eq.mp hdot]
      simp only [List.mem_cons, List.not_mem_nil, or_false] at h
      obtain rfl | rfl := h
      · decide
      · decide
    · rw [List.mem_singleton.mp h]
      exact isBlank_shifted c

theorem all_isBlank_lowerChar (c : Char) : (lowerChar c).all isBlank = isBlank c := by
  rw [Bool.eq_iff_iff, List.all_eq_true]
  constructor
  · intro h
    obtain ⟨d, hd⟩ := List.exists_mem_of_ne_nil _ (lowerChar_ne_nil c)
    rw [← isBlank_of_mem_lowerChar hd]
    exact h d hd
  · intro h d hd
    rw [isBlank_of_mem_lowerChar hd]
    exact h

theorem all_isBlank_lowerFrom (before cs : List Char) :
    (lowerFrom before cs).all isBlank = cs.all isBlank := by
  induction cs generalizing before with
  | nil => rfl
  | cons c cs ih =>
    have hchar : (if c == 'Σ' then [lowerSigma before cs] else lowerChar c).all isBlank =
        isBlank c := by
      split
      · rename_i hsigma
        rw [beq_iff_eq.mp hsigma]
        unfold lowerSigma
        split
        · decide
        · decide
      · exact all_isBlank_lowerChar c
    rw [lowerFrom, List.all_append, ih, hchar, List.all_cons]

/-- A text is blank if it is so in lower case. -/
theorem isBlankText_lowercase (s : String) : isBlankText (lowercase s) = isBlankText s := by
  rw [isBlankText, lowercase, String.toList_ofList, all_isBlank_lowerFrom, isBlankText]

end PhotoGrouping.Text
