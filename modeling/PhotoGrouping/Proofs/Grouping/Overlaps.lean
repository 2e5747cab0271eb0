import Mathlib.Data.Fintype.Prod
import PhotoGrouping.Proofs.Listing.Pairs
import PhotoGrouping.Proofs.RuleMatch.Affixes
import PhotoGrouping.Proofs.Text.AsciiCase

namespace PhotoGrouping

open Text

namespace RoleRule

/-- Whether two rules that are not blank look within filenames for their values, for different roles. -/
structure Competes (a b : RoleRule) : Prop where
  roles : a.role ≠ b.role
  type_left : a.type = .contains
  type_right : b.type = .contains
  not_blank_left : a.isBlank = false
  not_blank_right : b.isBlank = false

/-- Whether the value of one of two rules stands within the value of the other. -/
def Nested (a b : RoleRule) : Prop :=
  a.value.toList <:+: b.value.toList ∨ b.value.toList <:+: a.value.toList

/-- Whether a rule matches every filename that another one matches. -/
def Subsumes (a b : RoleRule) : Prop :=
  ∀ filename, b.isMatch filename = true → a.isMatch filename = true

instance (a b : RoleRule) : Decidable (a.Competes b) :=
  decidable_of_iff
    (a.role ≠ b.role ∧ a.type = .contains ∧ b.type = .contains ∧ a.isBlank = false ∧ b.isBlank = false)
    ⟨fun ⟨h, ha, hb, ha', hb'⟩ => ⟨h, ha, hb, ha', hb'⟩,
      fun ⟨h, ha, hb, ha', hb'⟩ => ⟨h, ha, hb, ha', hb'⟩⟩

instance (a b : RoleRule) : Decidable (a.Nested b) :=
  inferInstanceAs (Decidable (_ ∨ _))

variable {a b r : RoleRule}

theorem Competes.symm (h : a.Competes b) : b.Competes a :=
  ⟨Ne.symm h.roles, h.type_right, h.type_left, h.not_blank_right, h.not_blank_left⟩

theorem isMatch_contains_iff (htype : r.type = .contains) (hblank : r.isBlank = false)
    (filename : String) : r.isMatch filename = true ↔
      r.folded.toList <:+: (if r.caseSensitive then filename else lowercase filename).toList := by
  rw [isMatch, hblank, if_neg Bool.false_ne_true, htype, if_neg (by decide), RuleType.compare, holds_iff]

/-- A rule whose value stands within that of another one, as the two are compared, matches more. -/
theorem Competes.subsumes_of_folded (h : a.Competes b) (hcase : a.caseSensitive = b.caseSensitive)
    (hvalue : a.folded.toList <:+: b.folded.toList) : a.Subsumes b := by
  intro filename hmatch
  rw [isMatch_contains_iff h.type_right h.not_blank_right, ← hcase] at hmatch
  rw [isMatch_contains_iff h.type_left h.not_blank_left]
  exact hvalue.trans hmatch

theorem folded_sensitive (h : r.caseSensitive = true) : r.folded = r.value := by
  rw [folded, if_pos h]

/-- Of two case-sensitive rules one matches all that the other does exactly if it does so for the value of
the other as a filename. -/
theorem Competes.subsumes_iff (h : a.Competes b) (ha : a.caseSensitive = true)
    (hb : b.caseSensitive = true) : a.Subsumes b ↔ a.value.toList <:+: b.value.toList := by
  constructor
  · intro hsub
    have hself : b.isMatch b.value = true := by
      rw [isMatch_contains_iff h.type_right h.not_blank_right, if_pos hb, folded_sensitive hb]
    have hmatch := hsub b.value hself
    rwa [isMatch_contains_iff h.type_left h.not_blank_left, if_pos ha, folded_sensitive ha] at hmatch
  · intro hvalue
    rw [← folded_sensitive ha, ← folded_sensitive hb] at hvalue
    exact h.subsumes_of_folded (ha.trans hb.symm) hvalue

theorem folded_infix_of_ascii (ha : a.caseSensitive = false) (hb : b.caseSensitive = false)
    (hascii : IsAscii a.value) (hascii' : IsAscii b.value) (h : a.value.toList <:+: b.value.toList) :
    a.folded.toList <:+: b.folded.toList := by
  rw [folded, folded, ha, hb, if_neg Bool.false_ne_true, if_neg Bool.false_ne_true,
    toList_lowercase_ascii hascii, toList_lowercase_ascii hascii']
  exact h.map Char.toLower

theorem Competes.nested_iff_subsumes (h : a.Competes b) (ha : a.caseSensitive = true)
    (hb : b.caseSensitive = true) : a.Nested b ↔ a.Subsumes b ∨ b.Subsumes a := by
  rw [h.subsumes_iff ha hb, h.symm.subsumes_iff hb ha]
  exact Iff.rfl

/-- Without regard to case a value within another one is within it in lower case too, if both are ASCII. -/
theorem Competes.subsumes_of_nested (h : a.Competes b) (ha : a.caseSensitive = false)
    (hb : b.caseSensitive = false) (hascii : IsAscii a.value) (hascii' : IsAscii b.value)
    (hnested : a.Nested b) : a.Subsumes b ∨ b.Subsumes a := by
  obtain hab | hba := hnested
  · exact Or.inl (h.subsumes_of_folded (ha.trans hb.symm)
      (folded_infix_of_ascii ha hb hascii hascii' hab))
  · exact Or.inr (h.symm.subsumes_of_folded (hb.trans ha.symm)
      (folded_infix_of_ascii hb ha hascii' hascii hba))

end RoleRule

namespace Validation

open RoleRule

variable {a b : RoleRule} {c : PatternConfig}

theorem overlap_iff : overlap a b = true ↔ a.Competes b ∧ a.Nested b := by
  rw [overlap, Nested, ← holds_iff, ← holds_iff]
  simp only [Bool.and_eq_true, Bool.or_eq_true, bne_iff_ne, beq_iff_eq, Bool.not_eq_true']
  constructor
  · rintro ⟨⟨⟨⟨⟨hrole, ha⟩, hb⟩, ha'⟩, hb'⟩, hholds⟩
    exact ⟨⟨hrole, ha, hb, ha', hb'⟩, hholds.symm⟩
  · rintro ⟨⟨hrole, ha, hb, ha', hb'⟩, hholds⟩
    exact ⟨⟨⟨⟨⟨hrole, ha⟩, hb⟩, ha'⟩, hb'⟩, hholds.symm⟩

theorem overlap_comm (a b : RoleRule) : overlap a b = overlap b a := by
  rw [Bool.eq_iff_iff, overlap_iff, overlap_iff]
  exact ⟨fun h => ⟨h.1.symm, h.2.symm⟩, fun h => ⟨h.1.symm, h.2.symm⟩⟩

/-- The positions of the rules that overlap, the first before the second. -/
def overlaps (rules : List RoleRule) : List (Fin rules.length × Fin rules.length) :=
  (pairs (List.finRange rules.length)).filter fun p => overlap rules[p.1] rules[p.2]

theorem mem_overlaps {rules : List RoleRule} {i j : Fin rules.length} :
    (i, j) ∈ overlaps rules ↔ i < j ∧ rules[i].Competes rules[j] ∧ rules[i].Nested rules[j] := by
  rw [overlaps, List.mem_filter, mem_pairs_finRange, overlap_iff]

theorem nodup_overlaps (rules : List RoleRule) : (overlaps rules).Nodup :=
  (nodup_pairs (List.nodup_finRange _)).filter _

/-- There is one warning for each pair of rules that overlap, also where no rules are looked at: then there
are none. -/
theorem warnings_roleRulesCheck (c : PatternConfig) :
    (roleRulesCheck c).warnings =
      (overlaps c.roleRules).map fun p => overlapWarning c.roleRules[p.1] c.roleRules[p.2] := by
  have hpairs : (roleRulesCheck c).warnings =
      ((pairs c.roleRules).filter fun p => overlap p.1 p.2).map fun p => overlapWarning p.1 p.2 := by
    rw [roleRulesCheck]
    split
    · rename_i hnone
      rw [Bool.and_eq_true, List.isEmpty_iff] at hnone
      rw [hnone.2]
      rfl
    · dsimp only
      rw [← List.filterMap_eq_map', List.filterMap_filter]
  rw [hpairs, pairs_eq_map_finRange, List.filter_map, List.map_map]
  rfl

/-- All warnings about rules are about rules that overlap. -/
theorem countP_warnings (c : PatternConfig) :
    (roleRulesCheck c).warnings.countP (·.kind = .overlappingRules) = (overlaps c.roleRules).length := by
  have hall : ∀ w ∈ (roleRulesCheck c).warnings, decide (w.kind = .overlappingRules) = true := by
    rw [warnings_roleRulesCheck, List.forall_mem_map]
    exact fun _ _ => decide_eq_true rfl
  rw [List.countP_eq_length.mpr hall, warnings_roleRulesCheck, List.length_map]

theorem length_overlaps_eq_card (rules : List RoleRule) :
    (overlaps rules).length = (Finset.univ.filter fun p : Fin rules.length × Fin rules.length =>
      p.1 < p.2 ∧ rules[p.1].Competes rules[p.2] ∧ rules[p.1].Nested rules[p.2]).card := by
  rw [← List.toFinset_card_of_nodup (nodup_overlaps rules)]
  congr 1
  ext p
  rw [List.mem_toFinset, mem_overlaps, Finset.mem_filter, and_iff_right (Finset.mem_univ p)]

/-- Which of two rules comes first makes no difference to their overlapping. -/
theorem length_overlaps_perm {rules rules' : List RoleRule} (h : rules.Perm rules') :
    (overlaps rules).length = (overlaps rules').length := by
  have hpairs : ∀ rules : List RoleRule,
      (overlaps rules).length = (pairs rules).countP fun p => overlap p.1 p.2 := by
    intro rules
    rw [pairs_eq_map_finRange, List.countP_map, overlaps, ← List.countP_eq_length_filter]
    rfl
  rw [hpairs, hpairs]
  exact countP_pairs_perm overlap_comm h

/-- Rules for different roles that look within filenames are warned about exactly once for each two of them
of which the value of one stands within that of the other, in whatever order the rules are. Among
case-sensitive rules these are the ones of which one matches all filenames that the other does; among
rules without regard to case, with values in ASCII, they are such. -/
theorem overlaps_subsume (c : PatternConfig) :
    let rules := c.roleRules
    let warnings := (roleRulesCheck c).warnings
    ∃ reported : List (Fin rules.length × Fin rules.length),
      warnings = reported.map (fun p => overlapWarning rules[p.1] rules[p.2]) ∧ reported.Nodup ∧
      (∀ i j, (i, j) ∈ reported ↔
        i < j ∧ rules[i].Competes rules[j] ∧ rules[i].Nested rules[j]) ∧
      (∀ i j, i < j → rules[i].Competes rules[j] →
        rules[i].caseSensitive = true → rules[j].caseSensitive = true →
        ((i, j) ∈ reported ↔ rules[i].Subsumes rules[j] ∨ rules[j].Subsumes rules[i])) ∧
      (∀ i j, (i, j) ∈ reported →
        rules[i].caseSensitive = false → rules[j].caseSensitive = false →
        IsAscii rules[i].value → IsAscii rules[j].value →
        rules[i].Subsumes rules[j] ∨ rules[j].Subsumes rules[i]) ∧
      warnings.countP (·.kind = .overlappingRules) = (Finset.univ.filter fun p : Fin _ × Fin _ =>
        p.1 < p.2 ∧ rules[p.1].Competes rules[p.2] ∧ rules[p.1].Nested rules[p.2]).card ∧
      ∀ c' : PatternConfig, c'.roleRules.Perm rules →
        (roleRulesCheck c').warnings.countP (·.kind = .overlappingRules) =
          warnings.countP (·.kind = .overlappingRules) := by
  intro rules warnings
  refine ⟨overlaps rules, warnings_roleRulesCheck c, nodup_overlaps rules, fun _ _ => mem_overlaps,
    ?_, ?_, ?_, ?_⟩
  · intro i j hij hcompetes hi hj
    rw [mem_overlaps, ← hcompetes.nested_iff_subsumes hi hj]
    exact ⟨fun h => h.2.2, fun h => ⟨hij, hcompetes, h⟩⟩
  · intro i j hmem hi hj hascii hascii'
    obtain ⟨-, hcompetes, hnested⟩ := mem_overlaps.mp hmem
    exact hcompetes.subsumes_of_nested hi hj hascii hascii' hnested
  · exact (countP_warnings c).trans (length_overlaps_eq_card rules)
  · intro c' hperm
    rw [countP_warnings, countP_warnings]
    exact length_overlaps_perm hperm

/-- Two pairs of these rules overlap, one where case counts and one where it does not. -/
theorem overlaps_subsume_full :
    let front : RoleRule := { role := .front, type := .contains, value := "f", caseSensitive := true }
    let full : RoleRule := { role := .overview, type := .contains, value := "full", caseSensitive := true }
    let rear : RoleRule := { role := .rear, type := .contains, value := "ull_", caseSensitive := true }
    let anyFull : RoleRule := { role := .rear, type := .contains, value := "FULL" }
    let anyView : RoleRule := { role := .front, type := .contains, value := "_FULL_view" }
    let c : PatternConfig := { roleRules := [front, full, rear, anyFull, anyView] }
    (roleRulesCheck c).warnings.countP (·.kind = .overlappingRules) = 2 ∧
      (front.Subsumes full ∨ full.Subsumes front) ∧ ¬ (full.Subsumes rear ∨ rear.Subsumes full) ∧
      (anyFull.Subsumes anyView ∨ anyView.Subsumes anyFull) := by
  intro front full rear anyFull anyView c
  obtain ⟨reported, -, -, hmem, hsensitive, hcaseless, hcount, -⟩ := overlaps_subsume c
  refine ⟨?_, ?_, ?_, ?_⟩
  · rw [hcount]
    decide
  · apply (hsensitive ⟨0, by decide⟩ ⟨1, by decide⟩ (by decide) (by decide) rfl rfl).mp
    rw [hmem]
    decide
  · apply (hsensitive ⟨1, by decide⟩ ⟨2, by decide⟩ (by decide) (by decide) rfl rfl).not.mp
    rw [hmem]
    decide
  · refine hcaseless ⟨3, by decide⟩ ⟨4, by decide⟩ ?_ rfl rfl (by decide) (by decide)
    rw [hmem]
    decide

end Validation

end PhotoGrouping
