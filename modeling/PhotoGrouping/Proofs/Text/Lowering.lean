import PhotoGrouping.Proofs.Text.FoldClass

namespace PhotoGrouping.Text

/-- Whether a character is its own lowercase form, wherever it stands. -/
def IsLowered (c : Char) : Prop :=
  c ≠ 'Σ' ∧ lowerChar c = [c]

instance : DecidablePred IsLowered :=
  fun c => inferInstanceAs (Decidable (c ≠ 'Σ' ∧ _))

variable {c d : Char} {before cs : List Char}

/-- No character with a lowercase form of its own is the lowercase form of another one. -/
theorem apart_lowerShifts :
    (lowerShifts.all fun s => lowerShifts.all fun t => s.range.apart t.source) = true := by
  decide +kernel

/-- Nor is one of the two capitals that are lowered in ways of their own. -/
theorem range_lowerShifts : ∀ s ∈ lowerShifts, 0 < s.target ∧ s.range.hasChars = true ∧
    s.range.contains '\u0130'.toNat = false ∧ s.range.contains 'Σ'.toNat = false := by
  decide +kernel

/-- The characters beyond ASCII that the two capitals are lowered to: the dot above and the sigmas. -/
def loweredMarks : List Char := ['\u0307', 'ς', 'σ']

theorem unmoved_loweredMarks :
    (loweredMarks.all fun c => lowerShifts.all fun s => !s.source.contains c.toNat) = true := by
  decide +kernel

/-- A character beyond ASCII is its own lowercase form if no shift moves it. -/
theorem isLowered_of_shifted_eq (hc : ¬ c.toNat < 128) (hdot : c ≠ '\u0130') (hsigma : c ≠ 'Σ')
    (h : shifted lowerShifts c = c) : IsLowered c := by
  refine ⟨hsigma, ?_⟩
  rw [lowerChar, if_neg hc, if_neg (by simpa using hdot), h]

theorem isLowered_of_mem_loweredMarks (h : c ∈ loweredMarks) : IsLowered c := by
  have hbeyond : (loweredMarks.all fun c => ¬ c.toNat < 128 ∧ c ≠ '\u0130' ∧ c ≠ 'Σ') = true := by
    decide
  obtain ⟨hc, hdot, hsigma⟩ := of_decide_eq_true (List.all_eq_true.mp hbeyond c h)
  apply isLowered_of_shifted_eq hc hdot hsigma
  apply shifted_eq_self
  intro s hs
  have hunmoved := List.all_eq_true.mp (List.all_eq_true.mp unmoved_loweredMarks c h) s hs
  exact (Bool.not_eq_true' _).mp hunmoved

theorem isLowered_shifted (hc : ¬ c.toNat < 128) (hdot : c ≠ '\u0130') (hsigma : c ≠ 'Σ') :
    IsLowered (shifted lowerShifts c) := by
  have hlower : lowerChar c = [shifted lowerShifts c] := by
    rw [lowerChar, if_neg hc, if_neg (by simpa using hdot)]
  rcases shifted_eq_or lowerShifts c with he | ⟨s, hs, n, hn, he⟩
  · rw [he] at hlower ⊢
    exact ⟨hsigma, hlower⟩
  · obtain ⟨hpositive, hchars, hnotdot, hnotsigma⟩ := range_lowerShifts s hs
    have hrange := Shift.range_contains hn
    have hnat : (shifted lowerShifts c).toNat = n := by rw [he, Span.toNat_ofNat hchars hrange]
    generalize shifted lowerShifts c = d at hlower hnat
    subst hnat
    by_cases hd : d.toNat < 128
    · -- Only the Kelvin sign is lowered to an ASCII letter.
      have hzero : d.toNat ≠ 0 := by
        have := (Span.contains_iff.mp hrange).1.1
        dsimp only [Shift.range] at this
        omega
      rw [(eq_kelvin_of_lowerChar hc hd hzero hlower).2]
      decide
    · have hdot' : d ≠ '\u0130' := by
        rintro rfl
        rw [hrange] at hnotdot
        cases hnotdot
      have hsigma' : d ≠ 'Σ' := by
        rintro rfl
        rw [hrange] at hnotsigma
        cases hnotsigma
      exact isLowered_of_shifted_eq hd hdot' hsigma' (shifted_of_range apart_lowerShifts hs hn)

/-- The lowercase form of a character has no other lowercase form. -/
theorem isLowered_of_mem_lowerChar (hsigma : c ≠ 'Σ') (h : d ∈ lowerChar c) : IsLowered d := by
  by_cases hc : c.toNat < 128
  · rw [lowerChar_ascii hc, List.mem_singleton] at h
    rw [h]
    exact forall_ascii (fun c => IsLowered c.toLower) (by decide) c hc
  · by_cases hdot : c = '\u0130'
    · -- The dotted capital is lowered to two characters.
      subst hdot
      have hparts : lowerChar '\u0130' = ['i', '\u0307'] := rfl
      rw [hparts, List.mem_cons] at h
      obtain rfl | h := h
      · decide
      · exact isLowered_of_mem_loweredMarks (List.mem_cons.mpr (Or.inl (List.mem_singleton.mp h)))
    · rw [lowerChar, if_neg hc, if_neg (by simpa using hdot), List.mem_singleton] at h
      rw [h]
      exact isLowered_shifted hc hdot hsigma

theorem isLowered_lowerSigma (before after : List Char) : IsLowered (lowerSigma before after) := by
  unfold lowerSigma
  split
  · exact isLowered_of_mem_loweredMarks (by decide)
  · exact isLowered_of_mem_loweredMarks (by decide)

theorem isLowered_of_mem_lowerFrom (h : d ∈ lowerFrom before cs) : IsLowered d := by
  induction cs generalizing before with
  | nil => cases h
  | cons c cs ih =>
    rw [lowerFrom, List.mem_append] at h
    obtain h | h := h
    · split at h
      · rw [List.mem_singleton.mp h]
        exact isLowered_lowerSigma before cs
      · rename_i hsigma
        exact isLowered_of_mem_lowerChar (by simpa using hsigma) h
    · exact ih h

/-- Characters that are their own lowercase forms are not changed, whatever stands before them. -/
theorem lowerFrom_eq_self (h : ∀ c ∈ cs, IsLowered c) : lowerFrom before cs = cs := by
  induction cs generalizing before with
  | nil => rfl
  | cons c cs ih =>
    obtain ⟨⟨hsigma, hlower⟩, hcs⟩ := List.forall_mem_cons.mp h
    rw [lowerFrom, if_neg (by simpa using hsigma), hlower, ih hcs]
    rfl

/-- The lowercase form of a text is its own lowercase form. -/
theorem lowercase_lowercase (s : String) : lowercase (lowercase s) = lowercase s := by
  rw [lowercase, lowercase, String.toList_ofList,
    lowerFrom_eq_self fun _ hc => isLowered_of_mem_lowerFrom hc]

end PhotoGrouping.Text
