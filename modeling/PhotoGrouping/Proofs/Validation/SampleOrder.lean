import PhotoGrouping.Proofs.Grouping.Independence
import PhotoGrouping.Validation.Samples

namespace PhotoGrouping

namespace Grouping

variable {g g' : Grouping} {m m' : List (String × List String)}

/-- Keys that stand in the same order have lists of the same files. -/
theorem lookup_perm (h : List.Forall₂ (fun e e' => e.1 = e'.1 ∧ e.2.Perm e'.2) m m') (id : String) :
    ((m.lookup id).getD []).Perm ((m'.lookup id).getD []) := by
  induction h with
  | nil => exact List.Perm.refl []
  | @cons e e' m m' he _ ih =>
    obtain ⟨k, fs⟩ := e
    obtain ⟨k', fs'⟩ := e'
    obtain ⟨rfl, hperm⟩ := he
    rw [lookup_cons_eq, lookup_cons_eq]
    split
    · exact hperm
    · exact ih

namespace Reorders

theorem groupIds_eq (h : g.Reorders g') : g.groups.map (·.1) = g'.groups.map (·.1) := by
  have hgroups := h.groups.imp fun _ _ he => he.1
  rwa [← List.forall₂_eq_eq_eq, List.forall₂_map_left_iff, List.forall₂_map_right_iff]

theorem sizes_eq (h : g.Reorders g') : g.groups.map (·.2.length) = g'.groups.map (·.2.length) := by
  have hgroups := h.groups.imp fun _ _ he => he.2.length_eq
  rwa [← List.forall₂_eq_eq_eq, List.forall₂_map_left_iff, List.forall₂_map_right_iff]

theorem totalFiles_eq (h : g.Reorders g') : g.totalFiles = g'.totalFiles := by
  rw [totalFiles, totalFiles, h.groupIds, h.unmatched.length_eq]

theorem filesWithRole_perm (h : g.Reorders g') (id : String) (role : Role) :
    (g.filesWithRole id role).Perm (g'.filesWithRole id role) := by
  have hmembers : (g.members id).Perm (g'.members id) := lookup_perm h.groups id
  rw [filesWithRole, filesWithRole, h.roles]
  exact hmembers.filter _

/-- A group has the same roles. -/
theorem rolesIn_eq (h : g.Reorders g') : g.rolesIn = g'.rolesIn := by
  funext id
  apply List.filter_congr
  intro role _
  rw [(h.filesWithRole_perm id role).isEmpty_eq]

end Reorders

end Grouping

namespace Validation

open Grouping

variable {g g' : Grouping}

/-- The warnings about the groups do not depend on the order of the files. -/
theorem coverage_eq_of_reorders (h : g.Reorders g') : coverage g = coverage g' := by
  have hlength : g.groups.length = g'.groups.length := h.groups.length_eq
  have hincomplete : incompleteGroups g = incompleteGroups g' := by
    rw [incompleteGroups, incompleteGroups, h.groupIds_eq, h.rolesIn_eq]
  have hextensions : extensions g = extensions g' := by
    rw [extensions, extensions, h.roles]
  rw [coverage, coverage, incompleteWarning, incompleteWarning, overviewWarning, overviewWarning,
    balanceWarning, balanceWarning, extensionWarning, extensionWarning, hincomplete, hextensions,
    h.groupIds_eq, h.rolesIn_eq, h.sizes_eq, hlength]

/-- What is found about a grouping does not depend on the order of the files. -/
theorem sampleGrouping_eq_of_reorders (h : g.Reorders g') : sampleGrouping g = sampleGrouping g' := by
  rw [sampleGrouping, sampleGrouping, unmatchedWarning, unmatchedWarning, rateWarning, rateWarning,
    h.totalFiles_eq, h.roles, h.unmatched.length_eq, coverage_eq_of_reorders h]

/-- The report on samples is the same for all lists of the same files, in any order and with any
repetitions. -/
theorem samples_eq_of_same_files (c : PatternConfig) {files files' : List String}
    (h : ∀ f, f ∈ files ↔ f ∈ files') : samples c files = samples c files' := by
  have hempty : files.isEmpty = files'.isEmpty := by
    rw [Bool.eq_iff_iff, List.isEmpty_iff, List.isEmpty_iff, List.eq_nil_iff_forall_not_mem,
      List.eq_nil_iff_forall_not_mem]
    simp only [h]
  have hgrouping : ∀ pattern, sampleGrouping (.ofFiles files pattern (sampleRules c)) =
      sampleGrouping (.ofFiles files' pattern (sampleRules c)) := by
    intro pattern
    exact sampleGrouping_eq_of_reorders (reorders_ofFiles pattern (sampleRules c) h)
  unfold samples
  simp only [hempty, hgrouping]

/-- Samples of two groups and a file in neither of them, in two orders, one file repeated. -/
theorem samples_eq_of_same_files_repeated :
    let c : PatternConfig :=
      { groupPattern := some "^(\\w+)_", frontPattern := some "front"
        roleRules := [⟨.rear, .contains, "back", false, 1⟩] }
    let first := ["car1_front.jpg", "car1_back.png", "readme.txt", "car2_back.jpg"]
    let second := ["car2_back.jpg", "readme.txt", "car1_back.png", "car2_back.jpg", "car1_front.jpg"]
    (∀ f, f ∈ first ↔ f ∈ second) ∧ samples c first = samples c second ∧
      (samples c first).warnings.map (·.kind) =
        [.unmatchedFiles, .lowMatchRate, .incompleteGroups, .extensionMismatch] := by
  intro c first second
  have hsame (f : String) : f ∈ first ↔ f ∈ second := by
    simp only [first, second, List.mem_cons, List.not_mem_nil, or_false]
    tauto
  exact ⟨hsame, samples_eq_of_same_files c hsame, by decide +kernel⟩

end Validation

end PhotoGrouping
