import PhotoGrouping.Proofs.Listing.DistinctOn
import PhotoGrouping.Proofs.Regex.Spelled
import PhotoGrouping.Proofs.Text.Blank
import PhotoGrouping.Validation.Rules

namespace PhotoGrouping

open Regex Text

variable {a b : RoleRule} {rules : List RoleRule}

namespace Validation

theorem contradict_of_mem (h : (a, b) ∈ contradictions rules) : contradict a b = true := by
  have hpair := (distinctOn_sublist _ _).subset h
  exact (List.mem_filter.mp hpair).2

theorem contradict_iff_condition : contradict a b = true ↔
    a.role ≠ b.role ∧ a.isBlank = false ∧ Condition.of a = Condition.of b := by
  simp only [contradict, Bool.and_eq_true, bne_iff_ne, beq_iff_eq, Bool.not_eq_true', and_assoc]

theorem condition_of_contradict (h : contradict a b = true) : Condition.of a = Condition.of b :=
  (contradict_iff_condition.mp h).2.2

end Validation

namespace RoleRule

theorem isBlankText_folded (r : RoleRule) : isBlankText r.folded = r.isBlank := by
  unfold folded
  split
  · rfl
  · exact isBlankText_lowercase r.value

theorem isBlank_of_condition (h : Validation.Condition.of a = Validation.Condition.of b) :
    a.isBlank = b.isBlank := by
  have hfolded : a.folded = b.folded := congrArg Validation.Condition.value h
  rw [← isBlankText_folded, hfolded, isBlankText_folded]

/-- Overrides that are read alike match the same filenames. -/
theorem isMatch_of_readAlike (htype : a.type = .override) (htype' : b.type = .override)
    (hblank : a.isBlank = b.isBlank) (h : ReadAlike a.regex b.regex) (filename : String) :
    a.isMatch filename = b.isMatch filename := by
  unfold isMatch
  rw [if_pos htype, if_pos htype', ← hblank]
  split
  · rfl
  · rcases h.cases with ⟨e, e', hx, hy⟩ | ⟨regex, regex', hx, hy, hregex⟩
    · rw [hx, hy]
    · rw [hx, hy]
      exact isMatch_eq_of_alike hregex filename

/-- Rules that ask for the same match the same filenames, given that overrides do so which differ in
case without regard to it. -/
theorem isMatch_of_condition (h : Validation.Condition.of a = Validation.Condition.of b)
    (hread : a.type = .override → a.caseSensitive = false → a.value ≠ b.value →
      ReadAlike (Regex.parse a.value true) (Regex.parse b.value true)) (filename : String) :
    a.isMatch filename = b.isMatch filename := by
  obtain ⟨htype, hfolded, hcase⟩ := Validation.Condition.mk.inj h
  have hblank : a.isBlank = b.isBlank := isBlank_of_condition h
  by_cases hoverride : a.type = .override
  · apply isMatch_of_readAlike hoverride (htype.symm.trans hoverride) hblank
    unfold regex
    rw [← hcase]
    by_cases hvalue : a.value = b.value
    · rw [hvalue]
      exact ReadAlike.refl _
    · cases hsensitive : a.caseSensitive with
      | false => exact hread hoverride hsensitive hvalue
      | true =>
        rw [folded, folded, ← hcase, hsensitive] at hfolded
        exact absurd hfolded hvalue
  · have hoverride' : ¬ b.type = .override := by
      rw [← htype]
      exact hoverride
    unfold isMatch
    rw [hblank]
    split
    · rfl
    · rw [htype, hcase, hfolded]

end RoleRule

namespace Validation

/-- Two rules that are reported to contradict each other match the same filenames. Of overrides that
differ in case without regard to it that is said if they are read alike. -/
theorem contradictions_agree (h : (a, b) ∈ contradictions rules)
    (hread : a.type = .override → a.caseSensitive = false → a.value ≠ b.value →
      ReadAlike (Regex.parse a.value true) (Regex.parse b.value true)) (filename : String) :
    a.isMatch filename = b.isMatch filename :=
  RoleRule.isMatch_of_condition (condition_of_contradict (contradict_of_mem h)) hread filename

/-- It is said of all overrides whose letters stand for themselves. -/
theorem contradictions_agree_of_sameButCase (h : (a, b) ∈ contradictions rules)
    (hletters : a.type = .override → a.caseSensitive = false → a.value ≠ b.value →
      isSpelled a.value.toList = true ∧ SameButCase a.value.toList b.value.toList)
    (filename : String) : a.isMatch filename = b.isMatch filename := by
  refine RoleRule.isMatch_of_condition (condition_of_contradict (contradict_of_mem h)) ?_ filename
  intro htype hcase hvalue
  obtain ⟨hspelled, htexts⟩ := hletters htype hcase hvalue
  exact readAlike_of_sameButCase hspelled htexts

/-- Overrides that differ in the case of letters that stand for themselves. -/
theorem contradictions_agree_letters :
    (⟨.front, .override, "^(Front|V)_?\\.", false, 0⟩,
      ⟨.rear, .override, "^(FRONT|v)_?\\.", false, 1⟩) ∈
        contradictions [⟨.front, .override, "^(Front|V)_?\\.", false, 0⟩,
          ⟨.rear, .override, "^(FRONT|v)_?\\.", false, 1⟩] ∧
      RoleRule.isMatch ⟨.front, .override, "^(Front|V)_?\\.", false, 0⟩ "fRONT_.jpg" =
        RoleRule.isMatch ⟨.rear, .override, "^(FRONT|v)_?\\.", false, 1⟩ "fRONT_.jpg" := by
  have hmem : (⟨.front, .override, "^(Front|V)_?\\.", false, 0⟩,
      ⟨.rear, .override, "^(FRONT|v)_?\\.", false, 1⟩) ∈
        contradictions [⟨.front, .override, "^(Front|V)_?\\.", false, 0⟩,
          ⟨.rear, .override, "^(FRONT|v)_?\\.", false, 1⟩] := by
    decide +kernel
  have hspelled : isSpelled "^(Front|V)_?\\.".toList = true := by decide +kernel
  have htexts : SameButCase "^(Front|V)_?\\.".toList "^(FRONT|v)_?\\.".toList := by
    unfold SameButCase
    decide +kernel
  exact ⟨hmem, contradictions_agree hmem
    (fun _ _ _ => readAlike_of_sameButCase hspelled htexts) "fRONT_.jpg"⟩

/-- Overrides whose letters do not stand for themselves. -/
theorem not_contradictions_agree : ¬ ∀ (rules : List RoleRule) (a b : RoleRule) (filename : String),
    (a, b) ∈ contradictions rules → a.isMatch filename = b.isMatch filename := by
  intro hall
  have hagree := hall [⟨.front, .override, "\\d", false, 0⟩, ⟨.rear, .override, "\\D", false, 0⟩]
    ⟨.front, .override, "\\d", false, 0⟩ ⟨.rear, .override, "\\D", false, 0⟩ "1" (by decide +kernel)
  revert hagree
  decide +kernel

end Validation

end PhotoGrouping
