import PhotoGrouping.CommandLine.Group
import PhotoGrouping.Proofs.Grouping.Passes
import PhotoGrouping.Proofs.Preview.Summary

namespace PhotoGrouping

theorem RoleRule.forRole_eq_nil {rules : List RoleRule} {role : Role}
    (h : rules.any (·.role = role) = false) : forRole rules role = [] := by
  rw [List.eq_nil_iff_forall_not_mem]
  intro r hr
  obtain ⟨hmem, hrole⟩ := (mem_forRole rules role r).mp hr
  rw [List.any_eq_false] at h
  exact h r hmem (decide_eq_true hrole)

theorem Role.pattern?_eq_none {rules : List RoleRule} {role : Role}
    (h : rules.any (·.role = role) = false) : pattern? rules role = none := by
  unfold pattern? pattern
  rw [RoleRule.forRole_eq_nil h]
  rfl

namespace Config

variable {c : Config} {role : Role}

theorem rolePattern_patternConfig (c : Config) (role : Role) :
    c.patternConfig.rolePattern role = c.rolePattern role := by
  cases role with
  | front => rfl
  | rear => rfl
  | overview => rfl

/-- A role with a pattern of its own has an effective rule. -/
theorem explicitPattern_blank (h : c.effectiveRules.any (·.role = role) = false) :
    nonBlank (c.explicitPattern role) = none := by
  rw [Option.eq_none_iff_forall_ne_some]
  intro pattern hp
  have hall : role ∈ Role.all := by cases role <;> decide
  have hmem : RoleRule.foremost role pattern ∈ c.effectiveRules := by
    refine List.mem_append_left _ (List.mem_filterMap.mpr ⟨role, hall, ?_⟩)
    rw [hp, Option.map_some]
  rw [List.any_eq_false] at h
  exact h _ hmem (decide_eq_true rfl)

/-- A role without an effective rule has no pattern either. -/
theorem rolePattern_eq_none (h : c.effectiveRules.any (·.role = role) = false) :
    c.rolePattern role = none := by
  have hown : c.roleRules.any (·.role = role) = false := by
    rw [effectiveRules, List.any_append, Bool.or_eq_false_iff] at h
    exact h.2
  rw [rolePattern, explicitPattern_blank h, Role.pattern?_eq_none hown]
  rfl

/-- Samples are grouped with the effective rules. -/
theorem sampleRules_patternConfig (c : Config) :
    Validation.sampleRules c.patternConfig = c.effectiveRules := by
  unfold Validation.sampleRules
  -- No override is put in front: the roles without rules have no pattern to make one from.
  rw [List.filterMap_eq_nil_iff.mpr, List.nil_append]
  · rfl
  · intro role hrole
    have hnone := (List.mem_filter.mp hrole).2
    rw [Bool.not_eq_true'] at hnone
    rw [PatternConfig.rolePattern?, rolePattern_patternConfig, rolePattern_eq_none hnone]
    rfl

end Config

namespace Report

/-- What the report on samples says of them, compared with what the grouping of the same names says. -/
structure AgreesWith (report : Report) (group : CommandLine.GroupingReport) : Prop where
  noFilesMatched : report.hasError .noFilesMatched ↔ group.preview.matchedFiles = 0
  unmatchedFiles : group.preview.matchedFiles ≠ 0 →
    (report.hasWarning .unmatchedFiles ↔ group.preview.unmatchedFiles ≠ 0)
  unmatchedFiles_counts : ∀ w ∈ report.warnings, w.kind = .unmatchedFiles →
    w.context = some
      (toString group.preview.unmatchedFiles ++ " of " ++ toString group.preview.totalFiles ++
        " files")
  lowMatchRate : group.preview.matchedFiles ≠ 0 →
    (report.hasWarning .lowMatchRate ↔ group.preview.matchPercentage < 80.0)
  incompleteGroups : group.preview.matchedFiles ≠ 0 →
    (report.hasWarning .incompleteGroups ↔ group.preview.incompleteGroups ≠ [])
  incompleteGroups_count : ∀ w ∈ report.warnings, w.kind = .incompleteGroups →
    w.message =
      toString group.preview.incompleteGroups.length ++ " group(s) are missing FRONT or REAR images"

theorem hasWarning_iff (r : Report) (k : WarningKind) :
    r.hasWarning k = true ↔ ∃ w ∈ r.warnings, w.kind = k := by
  simp [hasWarning]

end Report

namespace Validation

open CommandLine

section

variable {g : Grouping} {w : ValidationWarning}

theorem mem_unmatchedWarning : w ∈ unmatchedWarning g ↔
    g.unmatchedFiles.length ≠ 0 ∧ w = WarningKind.unmatchedFiles.finding
      (some (ofFilesText g.unmatchedFiles.length g.totalFiles)) := by
  rw [unmatchedWarning, List.mem_ite_nil_right, List.mem_singleton, gt_iff_lt, Nat.pos_iff_ne_zero]

theorem mem_rateWarning : w ∈ rateWarning g ↔
    percentage g.fileToRole.length g.totalFiles < lowMatchPercent ∧ w = ⟨.lowMatchRate,
      "Only " ++ percentText (percentage g.fileToRole.length g.totalFiles) ++
        " of the sample files matched",
      some (ofFilesText g.fileToRole.length g.totalFiles)⟩ := by
  rw [rateWarning, List.mem_ite_nil_right, List.mem_singleton]

theorem mem_incompleteWarning : w ∈ incompleteWarning g ↔
    incompleteGroups g ≠ [] ∧ w = ⟨.incompleteGroups,
      toString (incompleteGroups g).length ++ " group(s) are missing FRONT or REAR images",
      some (listText (incompleteGroups g))⟩ := by
  unfold incompleteWarning
  split
  · rename_i h
    exact iff_of_false List.not_mem_nil fun hw => hw.1 h
  · rename_i h
    rw [List.mem_singleton, and_iff_right (fun hn => h hn)]

theorem kind_of_mem_overviewWarning (h : w ∈ overviewWarning g) :
    w.kind = .incompleteGroupCoverage := by
  rw [overviewWarning, List.mem_ite_nil_right, List.mem_singleton] at h
  rw [h.2]

theorem kind_of_mem_balanceWarning (h : w ∈ balanceWarning g) : w.kind = .unbalancedGroups := by
  unfold balanceWarning at h
  split at h
  · rw [List.mem_ite_nil_right, List.mem_singleton] at h
    rw [h.2]
    rfl
  · cases h

theorem kind_of_mem_extensionWarning (h : w ∈ extensionWarning g) : w.kind = .extensionMismatch := by
  rw [extensionWarning, List.mem_ite_nil_right, List.mem_singleton] at h
  rw [h.2]
  rfl

theorem hasError_sampleGrouping (g : Grouping) :
    (sampleGrouping g).hasError .noFilesMatched = true ↔ g.fileToRole.length = 0 := by
  unfold sampleGrouping
  split
  · rename_i h
    exact iff_of_true rfl h
  · rename_i h
    exact iff_of_false Bool.false_ne_true h

theorem mem_warnings_sampleGrouping : w ∈ (sampleGrouping g).warnings ↔
    g.fileToRole.length ≠ 0 ∧
      (w ∈ unmatchedWarning g ∨ w ∈ rateWarning g ∨ w ∈ incompleteWarning g ∨
        w ∈ overviewWarning g ∨ w ∈ balanceWarning g ∨ w ∈ extensionWarning g) := by
  unfold sampleGrouping
  split
  · rename_i h
    exact iff_of_false List.not_mem_nil fun hw => hw.1 h
  · rename_i h
    simp only [Report.combine, coverage, List.mem_append, or_assoc]
    exact (and_iff_right h).symm

/-- A warning about samples comes from the one check that gives its kind. -/
theorem warning_by_kind (hw : w ∈ (sampleGrouping g).warnings) :
    (w.kind = .unmatchedFiles → w ∈ unmatchedWarning g) ∧
      (w.kind = .lowMatchRate → w ∈ rateWarning g) ∧
      (w.kind = .incompleteGroups → w ∈ incompleteWarning g) := by
  rcases (mem_warnings_sampleGrouping.mp hw).2 with h | h | h | h | h | h
  · have hkind : w.kind = .unmatchedFiles := by
      rw [(mem_unmatchedWarning.mp h).2]
      rfl
    simp [hkind, h]
  · have hkind : w.kind = .lowMatchRate := by rw [(mem_rateWarning.mp h).2]
    simp [hkind, h]
  · have hkind : w.kind = .incompleteGroups := by rw [(mem_incompleteWarning.mp h).2]
    simp [hkind, h]
  · simp [kind_of_mem_overviewWarning h]
  · simp [kind_of_mem_balanceWarning h]
  · simp [kind_of_mem_extensionWarning h]

end

/-- The report on samples agrees with the preview of a consistent grouping of them. -/
theorem agreesWith_of_consistent {files : List String} {g : Grouping} (h : g.Consistent files)
    (hne : files ≠ []) : (sampleGrouping g).AgreesWith ⟨g, .ofGrouping g files⟩ := by
  have htotal := Preview.totalFiles_ofGrouping h
  have hmatched := Preview.matchedFiles_ofGrouping h
  have hunmatched := Preview.unmatchedFiles_ofGrouping h
  have hincomplete : (Preview.ofGrouping g files).incompleteGroups = incompleteGroups g :=
    Preview.incompleteGroups_ofGrouping h
  have hrate : (Preview.ofGrouping g files).matchPercentage =
      percentage g.fileToRole.length g.totalFiles := by
    have hsome : (distinct files).length ≠ 0 := by
      obtain ⟨f, hf⟩ := List.exists_mem_of_ne_nil files hne
      exact List.length_pos_of_mem (mem_distinct.mpr hf) |>.ne'
    change (if (Preview.ofGrouping g files).totalFiles = 0 then 0.0
      else percentage (Preview.ofGrouping g files).matchedFiles
        (Preview.ofGrouping g files).totalFiles) = _
    rw [htotal, hmatched, if_neg]
    rwa [← h.length_distinct]
  refine {
    noFilesMatched := ?_
    unmatchedFiles := ?_
    unmatchedFiles_counts := ?_
    lowMatchRate := ?_
    incompleteGroups := ?_
    incompleteGroups_count := ?_ }
  · rw [hasError_sampleGrouping, hmatched]
  · rw [hmatched, hunmatched, Report.hasWarning_iff]
    intro hsome
    constructor
    · rintro ⟨w, hw, hkind⟩
      exact (mem_unmatchedWarning.mp ((warning_by_kind hw).1 hkind)).1
    · intro hun
      exact ⟨_, mem_warnings_sampleGrouping.mpr
        ⟨hsome, Or.inl (mem_unmatchedWarning.mpr ⟨hun, rfl⟩)⟩, rfl⟩
  · intro w hw hkind
    rw [hunmatched, htotal, (mem_unmatchedWarning.mp ((warning_by_kind hw).1 hkind)).2]
    rfl
  · rw [hmatched, hrate, Report.hasWarning_iff]
    intro hsome
    constructor
    · rintro ⟨w, hw, hkind⟩
      exact (mem_rateWarning.mp ((warning_by_kind hw).2.1 hkind)).1
    · intro hlow
      exact ⟨_, mem_warnings_sampleGrouping.mpr
        ⟨hsome, Or.inr (Or.inl (mem_rateWarning.mpr ⟨hlow, rfl⟩))⟩, rfl⟩
  · rw [hmatched, hincomplete, Report.hasWarning_iff]
    intro hsome
    constructor
    · rintro ⟨w, hw, hkind⟩
      exact (mem_incompleteWarning.mp ((warning_by_kind hw).2.2 hkind)).1
    · intro hlack
      exact ⟨_, mem_warnings_sampleGrouping.mpr
        ⟨hsome, Or.inr (Or.inr (Or.inl (mem_incompleteWarning.mpr ⟨hlack, rfl⟩)))⟩, rfl⟩
  · intro w hw hkind
    rw [hincomplete, (mem_incompleteWarning.mp ((warning_by_kind hw).2.2 hkind)).2]

/-- Samples are grouped as the same names are grouped under the effective rules, and the report on
them agrees with the preview of that grouping. -/
theorem samples_agreesWith_group (c : Config) (files : List String) {pattern : String}
    (hpattern : nonBlank c.groupPattern = some pattern)
    (hreads : (Regex.parse pattern true).isOk = true) (hne : files ≠ []) :
    Grouping.ofFiles files pattern (sampleRules c.patternConfig) =
        (GroupingReport.ofNames c pattern files).grouping ∧
      samples c.patternConfig files =
        sampleGrouping (.ofFiles files pattern (sampleRules c.patternConfig)) ∧
      (samples c.patternConfig files).AgreesWith (.ofNames c pattern files) := by
  obtain ⟨regex, hregex⟩ : ∃ regex, Regex.parse pattern true = .ok regex := by
    cases hparse : Regex.parse pattern true with
    | ok regex => exact ⟨regex, rfl⟩
    | error e =>
      rw [hparse] at hreads
      cases hreads
  have hsamples : samples c.patternConfig files =
      sampleGrouping (.ofFiles files pattern (sampleRules c.patternConfig)) := by
    have hgroup : c.patternConfig.groupPattern? = some pattern := hpattern
    unfold samples
    rw [if_neg (by rwa [List.isEmpty_iff]), hgroup]
    dsimp only
    rw [hregex]
  have hconsistent : (Grouping.ofFiles files pattern c.effectiveRules).Consistent files := by
    unfold Grouping.ofFiles
    dsimp only
    rw [hregex]
    exact Grouping.ofRegex_consistent files regex _
  rw [hsamples, Config.sampleRules_patternConfig]
  exact ⟨rfl, rfl, agreesWith_of_consistent hconsistent hne⟩

theorem samples_agreesWith_group_vehicles :
    (samples (Config.patternConfig
        { groupPattern := some "^(\\w+)_", frontPattern := some "front", rearPattern := some " ",
          roleRules := [⟨.rear, .contains, "back", false, 1⟩] })
      ["car1_front.jpg", "car1_back.jpg", "car2_front.jpg", "readme.txt"]).AgreesWith
        (.ofNames
          { groupPattern := some "^(\\w+)_", frontPattern := some "front", rearPattern := some " ",
            roleRules := [⟨.rear, .contains, "back", false, 1⟩] }
          "^(\\w+)_" ["car1_front.jpg", "car1_back.jpg", "car2_front.jpg", "readme.txt"]) :=
  (samples_agreesWith_group _ _ (by decide +kernel) (by decide +kernel) (by decide)).2.2

end Validation

end PhotoGrouping
