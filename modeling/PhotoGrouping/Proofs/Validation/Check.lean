import PhotoGrouping.CommandLine.Group
import PhotoGrouping.CommandLine.Validate
import PhotoGrouping.Proofs.GroupPattern.Validity
import PhotoGrouping.Proofs.Grouping.Candidates
import PhotoGrouping.Proofs.Listing.Pairs
import PhotoGrouping.Proofs.Regex.Shape

namespace PhotoGrouping

namespace Grouping

theorem groupIdOf_ne_invalidPattern (regex : Regex) (file report : String) :
    groupIdOf regex file ≠ .error (.invalidPattern report) := by
  unfold groupIdOf
  dsimp only
  split
  · simp
  · split
    · simp
    · split
      · simp
      · simp

/-- Where the group pattern is readable, it is no reason against a file. -/
theorem reason_valid {files : List String} {pattern : String} {rules : List RoleRule}
    (hreads : (Regex.parse pattern true).isOk = true) {e : String × String}
    (he : e ∈ (ofFiles files pattern rules).unmatchedReasons) :
    ¬ "Invalid group pattern".toList <+: e.2.toList := by
  have hmessages : ∀ u ∈ [Unmatched.noMatch, .emptyGroupId, .noRole],
      ¬ "Invalid group pattern".toList <+: u.message.toList := by decide
  unfold ofFiles at he
  dsimp only at he
  split at he
  · rename_i hparse
    rw [hparse] at hreads
    cases hreads
  · rename_i regex _
    obtain ⟨u, hu, rfl⟩ := List.mem_map.mp (mem_of_mem_sortedMap _ he)
    apply hmessages
    rcases List.mem_append.mp hu with hu | hu
    · have hgroup := ((mem_rejected regex _ u.1 u.2).mp hu).2
      cases hreason : u.2 with
      | invalidPattern report =>
        rw [hreason] at hgroup
        exact absurd hgroup (groupIdOf_ne_invalidPattern regex u.1 report)
      | noMatch | emptyGroupId | noRole => simp
    · obtain ⟨f, -, rfl⟩ := List.mem_map.mp hu
      simp

end Grouping

/-- What a configuration needs to be used: a readable group pattern with one capturing group, role
patterns that are readable and not all absent, and rules that can match and agree with each other. -/
structure Config.Usable (c : Config) : Prop where
  group_pattern : ∃ pattern, nonBlank c.groupPattern = some pattern ∧
    (Regex.parse pattern false).isOk = true ∧ PatternScan.captureCount pattern = 1
  some_role : ∃ role pattern, c.patternConfig.rolePattern? role = some pattern
  roles_readable : ∀ role pattern, c.patternConfig.rolePattern? role = some pattern →
    (Regex.parse pattern false).isOk = true
  rules_not_blank : ∀ r ∈ c.effectiveRules, r.isBlank = false
  overrides_readable : ∀ r ∈ c.effectiveRules, r.type = .override →
    (Regex.parse r.value false).isOk = true
  rules_agree : ∀ a ∈ c.effectiveRules, ∀ b ∈ c.effectiveRules, a.type = b.type →
    a.caseSensitive = b.caseSensitive → a.folded = b.folded → a.role = b.role

/-- What a configuration can be relied on for: a grouping under it comes to its end, the group pattern
is no reason against a file, and no rule is dead when files are matched. -/
structure Config.Dependable (c : Config) : Prop where
  groups : ∀ (r : CommandLine.GroupRequest) (json : Bool) (file : CommandLine.ConfigFile),
    file.load r.config = .ok c → (r.reply json file).succeeded = true
  reasons_valid : ∀ (files : List String) (pattern : String),
    nonBlank c.groupPattern = some pattern →
    ∀ e ∈ (Grouping.ofFiles files pattern c.effectiveRules).unmatchedReasons,
      ¬ "Invalid group pattern".toList <+: e.2.toList
  rules_alive : ∀ r ∈ c.effectiveRules, r.isBlank = false ∧
    (r.type = .override → r.regex.isOk = true)

namespace Validation

section

variable {c : PatternConfig} {pattern : String}

theorem errors_captureCheck :
    (captureCheck pattern).errors = [] ↔ PatternScan.captureCount pattern = 1 := by
  unfold captureCheck
  split
  · rename_i h
    simp [h]
  · rename_i h
    simp [h]
  · rename_i h
    exact iff_of_false (List.cons_ne_nil _ _) h

theorem errors_groupPatternCheck :
    (groupPatternCheck c).errors = [] ↔
      ∃ pattern, c.groupPattern? = some pattern ∧ PatternScan.captureCount pattern = 1 := by
  unfold groupPatternCheck
  cases hp : c.groupPattern? with
  | some pattern => simp [errors_captureCheck]
  | none =>
    dsimp only
    split
    · simp
    · simp

theorem any_rolePattern_iff :
    (Role.all.any fun role => (c.rolePattern? role).isSome) = true ↔
      ∃ role pattern, c.rolePattern? role = some pattern := by
  rw [List.any_eq_true]
  constructor
  · rintro ⟨role, -, hsome⟩
    exact ⟨role, Option.isSome_iff_exists.mp hsome⟩
  · rintro ⟨role, hsome⟩
    exact ⟨role, by cases role <;> decide, Option.isSome_iff_exists.mpr hsome⟩

theorem errors_rolePatternsCheck :
    (rolePatternsCheck c).errors = [] ↔ ∃ role pattern, c.rolePattern? role = some pattern := by
  rw [← any_rolePattern_iff, rolePatternsCheck]
  dsimp only
  split
  · rename_i h
    exact iff_of_true rfl h
  · rename_i h
    exact iff_of_false (List.cons_ne_nil _ _) h

/-- Where some role has a pattern, only blank rules are wrong. -/
theorem errors_roleRulesCheck (h : ∃ role pattern, c.rolePattern? role = some pattern) :
    (roleRulesCheck c).errors = [] ↔ ∀ r ∈ c.roleRules, r.isBlank = false := by
  rw [roleRulesCheck, any_rolePattern_iff.mpr h]
  simp

theorem syntaxError?_eq_none_iff {name : String} :
    syntaxError? name pattern = none ↔ (Regex.parse pattern false).isOk = true := by
  unfold syntaxError?
  split
  · rename_i h
    simp [h, Except.isOk, Except.toBool]
  · rename_i h
    simp [h, Except.isOk, Except.toBool]

theorem bind_syntaxError?_eq_none_iff {name : String} {pattern : Option String} :
    pattern.bind (syntaxError? name) = none ↔
      ∀ p, pattern = some p → (Regex.parse p false).isOk = true := by
  rw [Option.bind_eq_none_iff]
  simp only [syntaxError?_eq_none_iff]

theorem errors_syntaxCheck_eq_nil_iff :
    (syntaxCheck c).errors = [] ↔
      (∀ p, c.groupPattern? = some p → (Regex.parse p false).isOk = true) ∧
        ∀ role p, c.rolePattern? role = some p → (Regex.parse p false).isOk = true := by
  rw [errors_syntaxCheck, List.append_eq_nil_iff, Option.toList_eq_nil_iff,
    bind_syntaxError?_eq_none_iff]
  apply and_congr_right'
  unfold roleSyntaxErrors
  rw [List.filterMap_eq_nil_iff]
  simp only [List.forall_mem_cons, List.not_mem_nil, false_implies, implies_true, and_true,
    bind_syntaxError?_eq_none_iff]
  constructor
  · rintro ⟨hfront, hrear, hoverview⟩ role
    cases role with
    | front => exact hfront
    | rear => exact hrear
    | overview => exact hoverview
  · intro h
    exact ⟨h .front, h .rear, h .overview⟩

theorem errors_breadthCheck (c : PatternConfig) : (breadthCheck c).errors = [] := by
  unfold breadthCheck
  split
  · rfl
  · split
    · rfl
    · split
      · rfl
      · rfl

end

section

variable {rs : List RoleRule} {a b : RoleRule}

theorem errors_ruleCheck (h : a.isBlank = false) :
    (ruleCheck a).errors = [] ↔
      (a.type = .override → (Regex.parse a.value false).isOk = true) := by
  unfold ruleCheck
  rw [h, if_neg Bool.false_ne_true]
  split
  · rename_i htype
    unfold overrideError?
    split
    · rename_i hparse
      simp [hparse, Except.isOk, Except.toBool]
    · rename_i hparse
      simp [htype, hparse, Except.isOk, Except.toBool]
  · rename_i htype
    split
    · simp [htype]
    · simp [htype]

theorem contradict_iff (h : a.isBlank = false) :
    contradict a b = true ↔
      a.role ≠ b.role ∧ a.type = b.type ∧ a.caseSensitive = b.caseSensitive ∧
        a.folded = b.folded := by
  simp only [contradict, h, Condition.of, Bool.and_eq_true, bne_iff_ne, beq_iff_eq,
    Condition.mk.injEq, Bool.not_false, and_true]
  tauto

theorem distinctOn_eq_nil_iff {α β : Type} [DecidableEq β] {key : α → β} {xs : List α} :
    distinctOn key xs = [] ↔ xs = [] := by
  cases xs with
  | nil => simp [distinctOn]
  | cons x xs => simp [distinctOn]

theorem contradictions_eq_nil_iff (h : ∀ r ∈ rs, r.isBlank = false) :
    contradictions rs = [] ↔
      ∀ a ∈ rs, ∀ b ∈ rs, a.type = b.type → a.caseSensitive = b.caseSensitive →
        a.folded = b.folded → a.role = b.role := by
  rw [contradictions, distinctOn_eq_nil_iff, List.filter_eq_nil_iff]
  constructor
  · intro hpairs a ha b hb htype hcase hfolded
    by_contra hrole
    rcases mem_pairs_or_mem_pairs ha hb (fun he => hrole (congrArg RoleRule.role he)) with
      hab | hba
    · exact hpairs (a, b) hab ((contradict_iff (h a ha)).mpr ⟨hrole, htype, hcase, hfolded⟩)
    · exact hpairs (b, a) hba ((contradict_iff (h b hb)).mpr
        ⟨Ne.symm hrole, htype.symm, hcase.symm, hfolded.symm⟩)
  · rintro hagree ⟨a, b⟩ hab hcontra
    obtain ⟨ha, hb⟩ := mem_of_mem_pairs hab
    obtain ⟨hrole, htype, hcase, hfolded⟩ := (contradict_iff (h a ha)).mp hcontra
    exact hrole (hagree a ha b hb htype hcase hfolded)

/-- Rules that are not blank pass their checks if their overrides are readable and no two of them
contradict each other. -/
theorem errors_rules (h : ∀ r ∈ rs, r.isBlank = false) :
    (rules rs).errors = [] ↔
      (∀ r ∈ rs, r.type = .override → (Regex.parse r.value false).isOk = true) ∧
        ∀ a ∈ rs, ∀ b ∈ rs, a.type = b.type → a.caseSensitive = b.caseSensitive →
          a.folded = b.folded → a.role = b.role := by
  rw [rules, ← contradictions_eq_nil_iff h]
  dsimp only
  rw [List.append_eq_nil_iff, List.map_eq_nil_iff, Report.errors_collect, List.flatMap_eq_nil_iff,
    List.forall_mem_map]
  apply and_congr_left'
  exact forall₂_congr fun r hr => errors_ruleCheck (h r hr)

end

end Validation

namespace Config

open Validation

theorem isConsistent_check (c : Config) : c.check.IsConsistent := by
  have hcapture : ∀ pattern, (captureCheck pattern).IsConsistent := by
    intro pattern
    unfold captureCheck
    split <;> rfl
  have hpatterns : (patterns c.patternConfig).IsConsistent := by
    refine Report.isConsistent_collect ?_
    simp only [List.forall_mem_cons, List.not_mem_nil, false_implies, implies_true, and_true]
    refine ⟨?_, rfl, ?_, rfl, ?_⟩
    · unfold groupPatternCheck
      split
      · exact hcapture _
      · split <;> rfl
    · unfold roleRulesCheck
      split <;> rfl
    · unfold breadthCheck
      split
      · rfl
      · split
        · rfl
        · split <;> rfl
  exact hpatterns.combine rfl

/-- The check of a configuration finds no error exactly if the configuration is usable. -/
theorem isValid_check_iff (c : Config) : c.check.isValid = true ↔ c.Usable := by
  have hrules : c.patternConfig.roleRules = c.effectiveRules := rfl
  have hgroup : c.patternConfig.groupPattern? = nonBlank c.groupPattern := rfl
  have hvalid : c.check.isValid = c.check.errors.isEmpty := isConsistent_check c
  rw [hvalid, List.isEmpty_iff, check, Report.errors_combine, errors_patterns, hrules]
  simp only [List.append_eq_nil_iff, errors_breadthCheck, and_true, errors_syntaxCheck_eq_nil_iff,
    errors_groupPatternCheck, errors_rolePatternsCheck, hgroup]
  constructor
  · rintro ⟨⟨⟨⟨⟨pattern, hpattern, hcount⟩, hsome⟩, hblank⟩, hreads, hroles⟩, hrest⟩
    rw [errors_roleRulesCheck hsome, hrules] at hblank
    obtain ⟨hoverrides, hagree⟩ := (errors_rules hblank).mp hrest
    exact ⟨⟨pattern, hpattern, hreads pattern hpattern, hcount⟩, hsome, hroles, hblank, hoverrides,
      hagree⟩
  · rintro ⟨⟨pattern, hpattern, hreads, hcount⟩, hsome, hroles, hblank, hoverrides, hagree⟩
    refine ⟨⟨⟨⟨⟨pattern, hpattern, hcount⟩, hsome⟩, ?_⟩, ?_, hroles⟩, ?_⟩
    · rw [errors_roleRulesCheck hsome, hrules]
      exact hblank
    · intro p hp
      rw [hpattern] at hp
      rw [← Option.some.inj hp]
      exact hreads
    · exact (errors_rules hblank).mpr ⟨hoverrides, hagree⟩

/-- A pattern that is readable where case counts is readable as files are matched. -/
theorem Usable.dependable {c : Config} (h : c.Usable) : c.Dependable := by
  obtain ⟨pattern, hpattern, hreads, -⟩ := h.group_pattern
  refine ⟨?_, ?_, ?_⟩
  · intro r json file hload
    unfold CommandLine.GroupRequest.reply
    rw [hload]
    dsimp only
    rw [hpattern]
    rfl
  · intro files p hp e he
    rw [hpattern] at hp
    rw [← Option.some.inj hp] at he
    exact Grouping.reason_valid (by rwa [Regex.parse_isOk pattern true false]) he
  · intro r hr
    refine ⟨h.rules_not_blank r hr, ?_⟩
    intro htype
    rw [RoleRule.regex, Regex.parse_isOk r.value _ false]
    exact h.overrides_readable r hr htype

/-- The check of a configuration without samples finds no error exactly if the configuration is
usable, and then files can be grouped under it. -/
theorem check_clean_iff (c : Config) :
    (c.check.isValid = true ↔ c.Usable) ∧ (c.check.isValid = true → c.Dependable) :=
  ⟨isValid_check_iff c, fun h => ((isValid_check_iff c).mp h).dependable⟩

theorem check_clean_vehicles :
    Config.Dependable
      { groupPattern := some "^(\\w+)_", frontPattern := some "(?i)front|^f\\d",
        roleRules := [⟨.rear, .contains, "back", false, 1⟩,
          ⟨.overview, .override, "all|v\\d+$", false, 2⟩] } :=
  (check_clean_iff _).2 (by decide +kernel)

end Config

end PhotoGrouping
