import Mathlib.Data.Finset.Card
import PhotoGrouping.Proofs.Listing.DistinctOn
import PhotoGrouping.Proofs.Listing.Pairs
import PhotoGrouping.Proofs.Validation.Contradictions
import PhotoGrouping.Proofs.Validation.Reports

namespace PhotoGrouping.Validation

variable {a b : RoleRule} {rs : List RoleRule} {k : Condition}

/-- The roles that rules give under a condition; blank rules give none. -/
def rolesUnder (rs : List RoleRule) (k : Condition) : Finset Role :=
  ((rs.filter fun r => !r.isBlank && Condition.of r = k).map (·.role)).toFinset

/-- The conditions of rules that are not blank under which these give more than one role. -/
def contested (rs : List RoleRule) : Finset Condition :=
  ((rs.filter fun r => !r.isBlank).map Condition.of).toFinset.filter fun k =>
    1 < (rolesUnder rs k).card

/-- The errors about the configuration of rules. -/
def conflicts (rs : List RoleRule) : List ValidationError :=
  (rules rs).errors.filter (·.kind = .invalidRuleConfiguration)

/-- The conditions that are reported, each by the first rule of the two that are named. -/
def reportedConditions (rs : List RoleRule) : List Condition :=
  (contradictions rs).map (Condition.of ·.1)

theorem mem_rolesUnder {role : Role} : role ∈ rolesUnder rs k ↔
    ∃ r ∈ rs, r.isBlank = false ∧ Condition.of r = k ∧ r.role = role := by
  simp only [rolesUnder, List.mem_toFinset, List.mem_map, List.mem_filter, Bool.and_eq_true,
    Bool.not_eq_true', decide_eq_true_eq, and_assoc]

theorem contradict_symm (h : contradict a b = true) : contradict b a = true := by
  obtain ⟨hrole, hblank, hcondition⟩ := contradict_iff_condition.mp h
  have hblank' : b.isBlank = false := by rw [← RoleRule.isBlank_of_condition hcondition, hblank]
  exact contradict_iff_condition.mpr ⟨Ne.symm hrole, hblank', hcondition.symm⟩

/-- A condition is contested if two rules with it contradict each other. -/
theorem mem_contested :
    k ∈ contested rs ↔ ∃ a ∈ rs, ∃ b ∈ rs, contradict a b = true ∧ Condition.of a = k := by
  rw [contested, Finset.mem_filter, List.mem_toFinset, Finset.one_lt_card]
  constructor
  · rintro ⟨-, role, hrole, role', hrole', hne⟩
    obtain ⟨a, ha, hblank, hak, rfl⟩ := mem_rolesUnder.mp hrole
    obtain ⟨b, hb, -, hbk, rfl⟩ := mem_rolesUnder.mp hrole'
    exact ⟨a, ha, b, hb, contradict_iff_condition.mpr ⟨hne, hblank, hak.trans hbk.symm⟩, hak⟩
  · rintro ⟨a, ha, b, hb, hcontradict, rfl⟩
    obtain ⟨hne, hblank, hcondition⟩ := contradict_iff_condition.mp hcontradict
    obtain ⟨-, hblank', -⟩ := contradict_iff_condition.mp (contradict_symm hcontradict)
    refine ⟨?_, a.role, mem_rolesUnder.mpr ⟨a, ha, hblank, rfl, rfl⟩, b.role,
      mem_rolesUnder.mpr ⟨b, hb, hblank', hcondition.symm, rfl⟩, hne⟩
    exact List.mem_map_of_mem (List.mem_filter.mpr ⟨ha, by rw [hblank]; rfl⟩)

/-- No condition is lost: the later pairs under one condition are left out, the first is not. -/
theorem mem_reportedConditions : k ∈ reportedConditions rs ↔ k ∈ contested rs := by
  rw [reportedConditions, contradictions, map_distinctOn, mem_distinct, List.mem_map, mem_contested]
  constructor
  · rintro ⟨⟨a, b⟩, hmem, rfl⟩
    obtain ⟨hpair, hcontradict⟩ := List.mem_filter.mp hmem
    obtain ⟨ha, hb⟩ := mem_of_mem_pairs hpair
    exact ⟨a, ha, b, hb, hcontradict, rfl⟩
  · rintro ⟨a, ha, b, hb, hcontradict, rfl⟩
    obtain ⟨hrole, -, hcondition⟩ := contradict_iff_condition.mp hcontradict
    obtain hab | hba := mem_pairs_or_mem_pairs ha hb (fun he => hrole (congrArg RoleRule.role he))
    · exact ⟨(a, b), List.mem_filter.mpr ⟨hab, hcontradict⟩, rfl⟩
    · exact ⟨(b, a), List.mem_filter.mpr ⟨hba, contradict_symm hcontradict⟩, hcondition.symm⟩

theorem nodup_reportedConditions (rs : List RoleRule) : (reportedConditions rs).Nodup :=
  nodup_map_distinctOn _ _

theorem length_reportedConditions (rs : List RoleRule) :
    (reportedConditions rs).length = (contested rs).card := by
  rw [← List.toFinset_card_of_nodup (nodup_reportedConditions rs)]
  congr 1
  ext k
  rw [List.mem_toFinset, mem_reportedConditions]

theorem kind_of_mem_ruleCheck {r : RoleRule} {e : ValidationError} (he : e ∈ (ruleCheck r).errors) :
    e.kind = .invalidRegexPattern := by
  unfold ruleCheck at he
  split at he
  · cases he
  · split at he
    · rw [Option.mem_toList, overrideError?] at he
      split at he
      · cases he
      · rw [← Option.some.inj he]
    · split at he
      · cases he
      · cases he

/-- The errors about single rules are of another kind. -/
theorem conflicts_eq (rs : List RoleRule) :
    conflicts rs = (contradictions rs).map fun p => contradictionError p.1 p.2 := by
  have hsingle : (Report.collect (rs.map ruleCheck)).errors.filter
      (·.kind = .invalidRuleConfiguration) = [] := by
    rw [List.filter_eq_nil_iff, Report.errors_collect]
    intro e he
    obtain ⟨report, hreport, he⟩ := List.mem_flatMap.mp he
    obtain ⟨r, -, rfl⟩ := List.mem_map.mp hreport
    rw [kind_of_mem_ruleCheck he]
    decide
  have hpairs : ∀ ps : List (RoleRule × RoleRule),
      (ps.map fun p => contradictionError p.1 p.2).filter (·.kind = .invalidRuleConfiguration) =
        ps.map fun p => contradictionError p.1 p.2 := by
    intro ps
    rw [List.filter_eq_self, List.forall_mem_map]
    exact fun _ _ => rfl
  rw [conflicts, rules]
  dsimp only
  rw [List.filter_append, hsingle, List.nil_append, hpairs]

theorem length_conflicts (rs : List RoleRule) : (conflicts rs).length = (contested rs).card := by
  rw [conflicts_eq, List.length_map, ← length_reportedConditions, reportedConditions, List.length_map]

theorem contested_congr {rs' : List RoleRule} (h : ∀ r, r ∈ rs' ↔ r ∈ rs) :
    contested rs' = contested rs := by
  ext k
  simp only [mem_contested, h]

theorem contested_eq_empty_iff : contested rs = ∅ ↔ ∀ a ∈ rs, ∀ b ∈ rs,
    a.isBlank = false → Condition.of a = Condition.of b → a.role = b.role := by
  rw [Finset.eq_empty_iff_forall_notMem]
  constructor
  · intro hnone a ha b hb hblank hcondition
    by_contra hrole
    exact hnone _ (mem_contested.mpr
      ⟨a, ha, b, hb, contradict_iff_condition.mpr ⟨hrole, hblank, hcondition⟩, rfl⟩)
  · intro hagree k hk
    obtain ⟨a, ha, b, hb, hcontradict, -⟩ := mem_contested.mp hk
    obtain ⟨hrole, hblank, hcondition⟩ := contradict_iff_condition.mp hcontradict
    exact hrole (hagree a ha b hb hblank hcondition)

/-- Of the conditions under which rules that are not blank give different roles each is reported exactly
once, by two rules that do so, and no others are. How many there are does not depend on the order of the
rules or on how often they are repeated, and there are none exactly if no two rules for different roles
share the condition of a rule that is not blank. -/
theorem conflicts_counted (rs : List RoleRule) :
    (∃ reported : List (RoleRule × RoleRule),
      conflicts rs = reported.map (fun p => contradictionError p.1 p.2) ∧
      (reported.map (Condition.of ·.1)).Nodup ∧
      (∀ k, k ∈ reported.map (Condition.of ·.1) ↔ k ∈ contested rs) ∧
      ∀ p ∈ reported, p.1.role ≠ p.2.role ∧ Condition.of p.1 = Condition.of p.2) ∧
    (conflicts rs).length = (contested rs).card ∧
    (∀ rs' : List RoleRule, (∀ r, r ∈ rs' ↔ r ∈ rs) →
      (conflicts rs').length = (conflicts rs).length) ∧
    ((conflicts rs).length = 0 ↔ ∀ a ∈ rs, ∀ b ∈ rs,
      a.isBlank = false → Condition.of a = Condition.of b → a.role = b.role) := by
  refine ⟨⟨contradictions rs, conflicts_eq rs, nodup_reportedConditions rs,
    fun _ => mem_reportedConditions, ?_⟩, length_conflicts rs, ?_, ?_⟩
  · intro p hp
    obtain ⟨hrole, -, hcondition⟩ := contradict_iff_condition.mp (contradict_of_mem hp)
    exact ⟨hrole, hcondition⟩
  · intro rs' h
    rw [length_conflicts, length_conflicts, contested_congr h]
  · rw [length_conflicts, Finset.card_eq_zero, contested_eq_empty_iff]

/-- A condition for three roles, and blank rules. -/
theorem conflicts_counted_cameras :
    let front : RoleRule := { role := .front, type := .contains, value := "Cam1" }
    let rear : RoleRule := { role := .rear, type := .contains, value := "CAM1" }
    let overview : RoleRule := { role := .overview, type := .contains, value := "cam1" }
    let blank : RoleRule := { role := .rear, type := .equals, value := " " }
    let blank' : RoleRule := { role := .front, type := .equals, value := " " }
    (conflicts [front, rear, overview, blank, blank']).length = 1 ∧
      (conflicts [blank', overview, rear, blank, overview, front]).length = 1 ∧
      (conflicts [blank, overview, blank', overview]).length = 0 := by
  intro front rear overview blank blank'
  obtain ⟨-, hcount, hsame, -⟩ := conflicts_counted [front, rear, overview, blank, blank']
  have hone : (conflicts [front, rear, overview, blank, blank']).length = 1 := by
    rw [hcount]
    decide
  have hsub : [blank', overview, rear, blank, overview, front] ⊆
      [front, rear, overview, blank, blank'] := by decide
  have hsub' : [front, rear, overview, blank, blank'] ⊆
      [blank', overview, rear, blank, overview, front] := by decide
  refine ⟨hone, ?_, ?_⟩
  · rw [hsame _ fun r => ⟨fun h => hsub h, fun h => hsub' h⟩, hone]
  · rw [(conflicts_counted [blank, overview, blank', overview]).2.2.2]
    decide

end PhotoGrouping.Validation
