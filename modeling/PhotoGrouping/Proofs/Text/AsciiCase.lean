import PhotoGrouping.Proofs.Text.Folding

namespace PhotoGrouping.Text

def IsAscii (s : String) : Prop :=
  ∀ c ∈ s.toList, c.toNat < 128

instance : DecidablePred IsAscii := fun s =>
  List.decidableBAll (fun c : Char => c.toNat < 128) s.toList

variable {c d : Char}

theorem isDigit_ascii (h : c.toNat < 128) : isDigit c = c.isDigit := by
  rw [isDigit, if_pos h]

theorem lowerFrom_ascii {before cs : List Char} (h : ∀ c ∈ cs, c.toNat < 128) :
    lowerFrom before cs = cs.map Char.toLower := by
  induction cs generalizing before with
  | nil => rfl
  | cons c cs ih =>
    obtain ⟨hc, hcs⟩ := List.forall_mem_cons.mp h
    have hsigma : (c == 'Σ') = false := by
      rw [beq_eq_false_iff_ne]
      rintro rfl
      exact absurd hc (by decide)
    rw [lowerFrom, hsigma, if_neg Bool.false_ne_true, lowerChar_ascii hc, ih hcs]
    rfl

theorem toList_lowercase_ascii {s : String} (h : IsAscii s) :
    (lowercase s).toList = s.toList.map Char.toLower := by
  rw [lowercase, String.toList_ofList, lowerFrom_ascii h]

/-- Among ASCII characters those that differ in case only have one lowercase form. -/
theorem mem_caseVariants_ascii (hc : c.toNat < 128) (hd : d.toNat < 128) :
    c ∈ caseVariants d ↔ c.toLower = d.toLower := by
  have hfold := forall_ascii (fun d => foldChar d = d.toLower ∧ d.toLower.toNat < 128 ∧
    d.toLower.toLower = d.toLower ∧ d.toLower.toUpper.toLower = d.toLower) (by decide) d hd
  obtain ⟨hfold, hascii, hlower, hupper⟩ := hfold
  have hkelvin : c ≠ '\u212a' := by
    rintro rfl
    exact absurd hc (by decide)
  have hlongS : c ≠ '\u017f' := by
    rintro rfl
    exact absurd hc (by decide)
  have hvariants : c ∈ caseVariants d ↔ c = d.toLower ∨ c = d.toLower.toUpper := by
    unfold caseVariants
    dsimp only
    rw [hfold, if_pos hascii]
    split
    · simp [hkelvin]
    · split
      · simp [hlongS]
      · simp
  rw [hvariants]
  constructor
  · rintro (rfl | rfl)
    · exact hlower
    · exact hupper
  · intro h
    rw [← h]
    exact forall_ascii (fun c => c = c.toLower ∨ c = c.toLower.toUpper) (by decide) c hc

theorem toLower_of_not_ascii (h : ¬ c.toNat < 128) : c.toLower = c := by
  have hupper : ¬ (c.val ≥ 'A'.val ∧ c.val ≤ 'Z'.val) := by
    rintro ⟨-, hz⟩
    have hz : c.toNat ≤ 90 := UInt32.le_iff_toNat_le.mp hz
    omega
  exact dif_neg hupper

/-- What lower case leaves as it is needs no check, so that only the capitals are looked at. -/
theorem toLower_congr {α : Type} [DecidableEq α] (f : Char → α)
    (h : ∀ n < 128, (Char.ofNat n).toLower = Char.ofNat n ∨ f (Char.ofNat n).toLower = f (Char.ofNat n))
    (c : Char) : f c.toLower = f c := by
  by_cases hc : c.toNat < 128
  · obtain heq | heq := forall_ascii (fun c => c.toLower = c ∨ f c.toLower = f c) h c hc
    · rw [heq]
    · exact heq
  · rw [toLower_of_not_ascii hc]

/-- Whether no ASCII letter lies within a span. -/
def Span.lacksLetters (s : Span) : Bool :=
  s.last.blt 'A'.toNat || (Nat.blt 'Z'.toNat s.first && s.last.blt 'a'.toNat) || Nat.blt 'z'.toNat s.first

theorem Span.not_contains_letter {s : Span} (h : s.lacksLetters = true) (hc : c.isAlpha = true) :
    s.contains c.toNat = false := by
  have hval : c.val.toNat = c.toNat := rfl
  have hletter : (decide (c.val ≥ 'A'.val ∧ c.val ≤ 'Z'.val) ||
      (decide (c.val ≥ 'a'.val) && decide (c.val ≤ 'z'.val))) = true := hc
  by_contra hcontains
  simp only [contains, Bool.not_eq_false, Bool.and_eq_true, decide_eq_true_eq] at hcontains
  simp only [lacksLetters, Bool.or_eq_true, Bool.and_eq_true, Nat.blt_eq, Char.reduceToNat] at h
  simp only [Bool.or_eq_true, Bool.and_eq_true, decide_eq_true_eq, ge_iff_le,
    UInt32.le_iff_toNat_le, hval, Char.reduceVal, UInt32.reduceToNat] at hletter
  omega

/-- Each span is compared with the letters once, and not with each letter. -/
theorem isCaseIgnorable_of_isAlpha (hc : c.isAlpha = true) : isCaseIgnorable c = false := by
  have htables : ∀ spans ∈ [Category.nonspacingMarkSpans, Category.enclosingMarkSpans,
      Category.formatSpans, Category.modifierLetterSpans, Category.modifierSymbolSpans,
      otherIgnorableSpans], spans.all Span.lacksLetters = true := by
    decide +kernel
  have hnot : ∀ spans : List Span, spans.all Span.lacksLetters = true → inSpans spans c = false := by
    intro spans hspans
    rw [inSpans, List.any_eq_false]
    intro s hs
    rw [Span.not_contains_letter (List.all_eq_true.mp hspans s hs) hc]
    exact Bool.false_ne_true
  simp [isCaseIgnorable, hnot _ (htables _ _)]

theorem isCaseIgnorable_toLower (c : Char) : isCaseIgnorable c.toLower = isCaseIgnorable c := by
  have hletters : ∀ n < 128, (Char.ofNat n).toLower = Char.ofNat n ∨
      (Char.ofNat n).toLower.isAlpha = true ∧ (Char.ofNat n).isAlpha = true := by decide
  refine toLower_congr isCaseIgnorable (fun n hn => (hletters n hn).imp_right ?_) c
  rintro ⟨hlower, hupper⟩
  rw [isCaseIgnorable_of_isAlpha hlower, isCaseIgnorable_of_isAlpha hupper]

theorem isCased_toLower (c : Char) : isCased c.toLower = isCased c :=
  toLower_congr isCased (by decide) c

theorem lowerChar_toLower (c : Char) : lowerChar c.toLower = lowerChar c := by
  by_cases hc : c.toNat < 128
  · have hlower := forall_ascii (fun c => c.toLower.toNat < 128 ∧ c.toLower.toLower = c.toLower)
      (by decide) c hc
    rw [lowerChar_ascii hc, lowerChar_ascii hlower.1, hlower.2]
  · rw [toLower_of_not_ascii hc]

theorem meetsCased_map_toLower (cs : List Char) :
    meetsCased (cs.map Char.toLower) = meetsCased cs := by
  induction cs with
  | nil => rfl
  | cons c cs ih =>
    unfold meetsCased at ih ⊢
    rw [List.map_cons, List.dropWhile_cons, List.dropWhile_cons, isCaseIgnorable_toLower]
    cases isCaseIgnorable c with
    | true => exact ih
    | false => exact isCased_toLower c

theorem toLower_eq_sigma_iff : c.toLower = 'Σ' ↔ c = 'Σ' := by
  by_cases h : c.toNat < 128
  · exact forall_ascii (fun c => c.toLower = 'Σ' ↔ c = 'Σ') (by decide) c h
  · rw [toLower_of_not_ascii h]

theorem lowerFrom_map_toLower (before cs : List Char) :
    lowerFrom (before.map Char.toLower) (cs.map Char.toLower) = lowerFrom before cs := by
  induction cs generalizing before with
  | nil => rfl
  | cons c cs ih =>
    have hsigma : (c.toLower == 'Σ') = (c == 'Σ') := by
      rw [Bool.eq_iff_iff, beq_iff_eq, beq_iff_eq, toLower_eq_sigma_iff]
    rw [List.map_cons, lowerFrom, lowerFrom, hsigma, lowerChar_toLower, ← List.map_cons, ih]
    simp only [lowerSigma, meetsCased_map_toLower]

/-- The lowercase form of a text is that of the text with its ASCII letters in lower case. -/
theorem lowercase_asciiLowercase (s : String) : lowercase (asciiLowercase s) = lowercase s := by
  rw [lowercase, asciiLowercase, String.toList_ofList]
  exact congrArg String.ofList (lowerFrom_map_toLower [] s.toList)

theorem lowercase_eq_of_asciiLowercase_eq {s t : String} (h : asciiLowercase s = asciiLowercase t) :
    lowercase s = lowercase t := by
  rw [← lowercase_asciiLowercase s, h, lowercase_asciiLowercase]

end PhotoGrouping.Text
