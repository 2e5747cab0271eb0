import PhotoGrouping.Proofs.Preview.Summary

namespace PhotoGrouping

open Text

/-- Whether an outcome counts for a group: its file is matched, and the group has a name that is not
blank. -/
def Outcome.IsIn (o : Outcome) (id : String) : Prop :=
  o.matched = true ∧ o.groupId = some id ∧ isBlankText id = false

namespace Preview

/-- The roles of the outcomes that count for a group. -/
def roleSet (outcomes : List Outcome) (id : String) : Set Role :=
  {role | ∃ o ∈ outcomes, o.IsIn id ∧ o.role = some role}

/-- What ties a preview to the outcomes that it counts, whatever these are. -/
structure Counts (outcomes : List Outcome) (p : Preview) : Prop where
  totalFiles_eq : p.totalFiles = outcomes.length
  matchedFiles_eq : p.matchedFiles = outcomes.countP (·.matched)
  matched_add_unmatched : p.matchedFiles + p.unmatchedFiles = p.totalFiles
  roleCount_eq : ∀ role, p.roleCount role = outcomes.countP (·.role = some role)
  groups_ascend : (p.groupRoles.map (·.1)).Pairwise (· < ·)
  mem_groups : ∀ id, id ∈ p.groupRoles.map (·.1) ↔ ∃ o ∈ outcomes, o.IsIn id
  /-- Each role of a group is listed once, and in the order of all roles. -/
  roles_sublist : ∀ e ∈ p.groupRoles, e.2.Sublist Role.all
  mem_roles : ∀ e ∈ p.groupRoles, ∀ role, role ∈ e.2 ↔ role ∈ roleSet outcomes e.1
  incomplete_ascend : p.incompleteGroups.Pairwise (· < ·)
  /-- A group without any role is not incomplete. -/
  mem_incomplete : ∀ id, id ∈ p.incompleteGroups ↔
    (roleSet outcomes id).Nonempty ∧
      (.front ∉ roleSet outcomes id ∨ .rear ∉ roleSet outcomes id)
  hasErrors_iff : p.hasErrors = true ↔ ∃ o ∈ outcomes, o.error ≠ none
  hasWarnings_iff : p.hasWarnings = true ↔
    (∃ id, id ∈ p.incompleteGroups) ∨ ∃ o ∈ outcomes, o.matched = false

variable {outcomes rearranged : List Outcome} {o : Outcome} {id : String} {role : Role}

theorem groupOf?_eq_some_iff : groupOf? o = some id ↔ o.IsIn id := by
  unfold groupOf? Outcome.IsIn
  cases o.matched with
  | true => simp [Option.filter_eq_some_iff]
  | false => simp

theorem mem_rolesOf : role ∈ rolesOf outcomes id ↔ role ∈ roleSet outcomes id := by
  have hall : role ∈ Role.all := by cases role <;> decide
  simp [rolesOf, roleSet, hall, groupOf?_eq_some_iff]

theorem mem_groupIds :
    id ∈ ascending (outcomes.filterMap groupOf?) ↔ ∃ o ∈ outcomes, o.IsIn id := by
  simp only [mem_ascending, List.mem_filterMap, groupOf?_eq_some_iff]

theorem groupRoles_of (outcomes : List Outcome) :
    (of outcomes).groupRoles =
      (ascending (outcomes.filterMap groupOf?)).map fun id => (id, rolesOf outcomes id) := rfl

theorem groupIds_of (outcomes : List Outcome) :
    (of outcomes).groupRoles.map (·.1) = ascending (outcomes.filterMap groupOf?) := by
  rw [groupRoles_of, List.map_map]
  exact List.map_id _

theorem mem_groupRoles_of {e : String × List Role} (he : e ∈ (of outcomes).groupRoles) :
    e.2 = rolesOf outcomes e.1 := by
  rw [groupRoles_of] at he
  obtain ⟨id, -, rfl⟩ := List.mem_map.mp he
  rfl

theorem incompleteGroups_of (outcomes : List Outcome) :
    (of outcomes).incompleteGroups =
      (ascending (outcomes.filterMap groupOf?)).filter fun id => isIncomplete (rolesOf outcomes id) := by
  change ((of outcomes).groupRoles.filter fun e => isIncomplete e.2).map (·.1) = _
  rw [groupRoles_of, List.filter_map, List.map_map]
  exact List.map_id _

theorem isIncomplete_rolesOf :
    isIncomplete (rolesOf outcomes id) = true ↔
      (roleSet outcomes id).Nonempty ∧
        (.front ∉ roleSet outcomes id ∨ .rear ∉ roleSet outcomes id) := by
  have hnonempty : (roleSet outcomes id).Nonempty ↔ (rolesOf outcomes id).isEmpty = false := by
    rw [List.isEmpty_eq_false_iff_exists_mem]
    exact exists_congr fun role => mem_rolesOf.symm
  have hcontains (role : Role) :
      (rolesOf outcomes id).contains role = false ↔ role ∉ roleSet outcomes id := by
    rw [← mem_rolesOf, ← List.contains_iff_mem, Bool.not_eq_true]
  simp only [isIncomplete, Bool.and_eq_true, Bool.or_eq_true, Bool.not_eq_true', hnonempty,
    hcontains]

theorem mem_incompleteGroups_of :
    id ∈ (of outcomes).incompleteGroups ↔
      (roleSet outcomes id).Nonempty ∧
        (.front ∉ roleSet outcomes id ∨ .rear ∉ roleSet outcomes id) := by
  rw [incompleteGroups_of, List.mem_filter, isIncomplete_rolesOf, mem_groupIds]
  refine and_iff_right_of_imp ?_
  rintro ⟨⟨role, o, ho, hin, -⟩, -⟩
  exact ⟨o, ho, hin⟩

theorem matched_add_unmatched_of (outcomes : List Outcome) :
    (of outcomes).matchedFiles + (of outcomes).unmatchedFiles = outcomes.length := by
  have hle : (of outcomes).matchedFiles ≤ outcomes.length := List.length_filter_le _ _
  exact Nat.add_sub_of_le hle

theorem matchedFiles_of (outcomes : List Outcome) :
    (of outcomes).matchedFiles = outcomes.countP (·.matched) :=
  List.countP_eq_length_filter.symm

theorem unmatchedFiles_of_pos :
    0 < (of outcomes).unmatchedFiles ↔ ∃ o ∈ outcomes, o.matched = false := by
  have hall : (of outcomes).unmatchedFiles = 0 ↔ ∀ o ∈ outcomes, o.matched = true := by
    have hsum := matched_add_unmatched_of outcomes
    rw [← List.countP_eq_length, ← matchedFiles_of]
    omega
  rw [Nat.pos_iff_ne_zero, ne_eq, hall]
  simp

theorem hasErrors_of :
    (of outcomes).hasErrors = true ↔ ∃ o ∈ outcomes, o.error ≠ none := by
  have herrors : (of outcomes).errors = outcomes.filterMap (·.error) := rfl
  rw [hasErrors, herrors, Bool.not_eq_true', List.isEmpty_eq_false_iff, ne_eq,
    List.filterMap_eq_nil_iff]
  simp

theorem hasWarnings_of :
    (of outcomes).hasWarnings = true ↔
      (∃ id, id ∈ (of outcomes).incompleteGroups) ∨ ∃ o ∈ outcomes, o.matched = false := by
  rw [hasWarnings, Bool.or_eq_true, Bool.not_eq_true', List.isEmpty_eq_false_iff_exists_mem,
    decide_eq_true_eq, gt_iff_lt, unmatchedFiles_of_pos]

/-- The preview of outcomes counts them. -/
theorem counts_of (outcomes : List Outcome) : (of outcomes).Counts outcomes where
  totalFiles_eq := rfl
  matchedFiles_eq := matchedFiles_of outcomes
  matched_add_unmatched := matched_add_unmatched_of outcomes
  roleCount_eq role := by rw [roleCount_of, List.countP_eq_length_filter]
  groups_ascend := by
    rw [groupIds_of]
    exact ascending_pairwise _
  mem_groups id := by rw [groupIds_of, mem_groupIds]
  roles_sublist e he := by
    rw [mem_groupRoles_of he]
    exact List.filter_sublist
  mem_roles e he role := by rw [mem_groupRoles_of he, mem_rolesOf]
  incomplete_ascend := by
    rw [incompleteGroups_of]
    exact (ascending_pairwise _).filter _
  mem_incomplete _ := mem_incompleteGroups_of
  hasErrors_iff := hasErrors_of
  hasWarnings_iff := hasWarnings_of

/-- Whether a preview is another one but for the order of its errors. -/
def Reorders (p q : Preview) : Prop :=
  ∃ errors : List String, errors.Perm q.errors ∧ p = { q with errors := errors }

theorem Reorders.hasErrors_eq {p q : Preview} (h : p.Reorders q) : p.hasErrors = q.hasErrors := by
  obtain ⟨errors, hperm, rfl⟩ := h
  rw [hasErrors, hasErrors, hperm.isEmpty_eq]

theorem Reorders.hasWarnings_eq {p q : Preview} (h : p.Reorders q) :
    p.hasWarnings = q.hasWarnings := by
  obtain ⟨errors, -, rfl⟩ := h
  rfl

theorem Reorders.isHealthy_eq {p q : Preview} (h : p.Reorders q) : p.isHealthy = q.isHealthy := by
  have herrors := h.hasErrors_eq
  obtain ⟨errors, -, rfl⟩ := h
  rw [isHealthy, isHealthy, herrors]

theorem rolesOf_perm (h : rearranged.Perm outcomes) (id : String) :
    rolesOf rearranged id = rolesOf outcomes id := by
  unfold rolesOf
  simp only [h.any_eq]

theorem groupIds_perm (h : rearranged.Perm outcomes) :
    ascending (rearranged.filterMap groupOf?) = ascending (outcomes.filterMap groupOf?) := by
  apply ascending_eq_of_pairwise (ascending_pairwise _)
  intro id
  rw [mem_ascending, (h.filterMap groupOf?).mem_iff]

/-- The order of the outcomes shows in the order of the errors only. -/
theorem reorders_of_perm (h : rearranged.Perm outcomes) :
    (of rearranged).Reorders (of outcomes) := by
  refine ⟨rearranged.filterMap (·.error), h.filterMap _, ?_⟩
  have hmatched : (rearranged.filter (·.matched)).length = (outcomes.filter (·.matched)).length :=
    (h.filter _).length_eq
  have hroles (role : Role) : (rearranged.filter (·.role = some role)).length =
      (outcomes.filter (·.role = some role)).length := (h.filter _).length_eq
  simp only [of, h.length_eq, hmatched, hroles, groupIds_perm h, rolesOf_perm h]

/-- Whatever the outcomes are, their preview counts them, and says the same of them in any other
order. -/
theorem of_counts_in_any_order (outcomes : List Outcome) :
    (of outcomes).Counts outcomes ∧
      ∀ rearranged : List Outcome, rearranged.Perm outcomes →
        (of rearranged).Reorders (of outcomes) ∧
          (of rearranged).hasErrors = (of outcomes).hasErrors ∧
          (of rearranged).hasWarnings = (of outcomes).hasWarnings ∧
          (of rearranged).isHealthy = (of outcomes).isHealthy := by
  refine ⟨counts_of outcomes, ?_⟩
  intro rearranged h
  have hreorders := reorders_of_perm h
  exact ⟨hreorders, hreorders.hasErrors_eq, hreorders.hasWarnings_eq, hreorders.isHealthy_eq⟩

/-- Outcomes that no grouping gives, among them a group without any role, one with a blank name and a
role of a file that is not matched. -/
theorem of_counts_in_any_order_mixed :
    let outcomes : List Outcome := [
      .placed "a.jpg" "A" .front, ⟨"a.jpg", true, none, some "B", none⟩,
      ⟨"b.jpg", false, some .rear, some "A", none⟩, ⟨"c.jpg", true, some .rear, some " ", none⟩,
      .failed "d.jpg" "unreadable", .failed "e.jpg" "missing"]
    outcomes.reverse.Perm outcomes ∧ (of outcomes.reverse).Reorders (of outcomes) ∧
      (of outcomes.reverse).isHealthy = (of outcomes).isHealthy ∧
      (of outcomes).groupRoles = [("A", [.front]), ("B", [])] ∧
      (of outcomes).incompleteGroups = ["A"] ∧ (of outcomes).roleCount .rear = 2 ∧
      (of outcomes.reverse).errors = ["missing", "unreadable"] := by
  intro outcomes
  have hperm : outcomes.reverse.Perm outcomes := List.reverse_perm outcomes
  obtain ⟨hcounts, hany⟩ := of_counts_in_any_order outcomes
  obtain ⟨hreorders, -, -, hhealthy⟩ := hany outcomes.reverse hperm
  have hrear : (of outcomes).roleCount .rear = 2 := by
    rw [hcounts.roleCount_eq]
    decide
  exact ⟨hperm, hreorders, hhealthy, by decide +kernel, by decide +kernel, hrear, by decide +kernel⟩

end Preview

end PhotoGrouping
