import PhotoGrouping.Proofs.RolePattern.Matching

namespace PhotoGrouping.Role

open Regex Text

/-- The pattern of a role says what its rules say: it is empty if all of them are blank, and else it is
read as an expression that matches a filename exactly if one of the rules does. The filename and the
values of rules in which case does not count are of ASCII characters, unless case counts in all
rules. -/
theorem pattern_means_rules (rules : List RoleRule) (role : Role) (filename : String)
    (hplain : ∀ r ∈ rules, r.type ≠ .override)
    (hcase : (∀ r ∈ rules, r.role = role → r.caseSensitive = true) ∨
      (IsAscii filename ∧
        ∀ r ∈ rules, r.role = role → r.caseSensitive = false → IsAscii r.value)) :
    (pattern rules role = "" ↔ ∀ r ∈ rules, r.role = role → r.isBlank = true) ∧
      (pattern rules role ≠ "" → ∃ regex, Regex.read (pattern rules role) false = .ok regex ∧
        Regex.parse (pattern rules role) false =
          (if regex.fits then .ok regex else .error .tooLarge) ∧
        (regex.isMatch filename = true ↔
          ∃ r ∈ rules, r.role = role ∧ r.isMatch filename = true)) := by
  have hplain' : ∀ r ∈ RoleRule.live rules role, r.type ≠ .override :=
    fun r hr => hplain r (RoleRule.mem_live.mp hr).1
  have hcase' : ∀ r ∈ RoleRule.live rules role, r.Comparable filename := by
    intro r hr hinsensitive
    obtain ⟨hmem, hrole, -⟩ := RoleRule.mem_live.mp hr
    rcases hcase with hsensitive | ⟨hascii, hvalues⟩
    · rw [hsensitive r hmem hrole] at hinsensitive
      cases hinsensitive
    · exact ⟨hascii, hvalues r hmem hrole hinsensitive⟩
  rw [ne_eq, pattern_eq_empty_iff hplain']
  constructor
  · simp only [List.eq_nil_iff_forall_not_mem, RoleRule.mem_live, not_and, Bool.not_eq_false]
  · intro hne
    have hread := read_pattern hplain' hne
    refine ⟨_, hread, ?_, isMatch_altOf_iff hplain' hcase' hne⟩
    rw [Regex.parse, hread]

theorem pattern_means_rules_front :
    ∃ regex, Regex.read (pattern [⟨.front, .startsWith, "Front.", false, 2⟩,
        ⟨.front, .equals, "a+b", true, 1⟩, ⟨.front, .endsWith, " ", true, 0⟩,
        ⟨.rear, .contains, "back", false, 0⟩] .front) false = .ok regex ∧
      regex.isMatch "FRONT.jpg" = true := by
  obtain ⟨hempty, hmeans⟩ := pattern_means_rules [⟨.front, .startsWith, "Front.", false, 2⟩,
    ⟨.front, .equals, "a+b", true, 1⟩, ⟨.front, .endsWith, " ", true, 0⟩,
    ⟨.rear, .contains, "back", false, 0⟩] .front "FRONT.jpg" (by decide) (Or.inr (by decide))
  have hblank : ¬ RoleRule.isBlank ⟨.front, .startsWith, "Front.", false, 2⟩ = true := by decide
  obtain ⟨regex, hread, -, hmatch⟩ :=
    hmeans fun he => hblank (hempty.mp he _ List.mem_cons_self rfl)
  exact ⟨regex, hread, hmatch.mpr ⟨_, List.mem_cons_self, rfl, by decide +kernel⟩⟩

/-- A rule that asks for one letter many times. -/
def lettersRule (n : Nat) : RoleRule :=
  ⟨.front, .contains, String.ofList (List.replicate n 'a'), true, 0⟩

theorem live_lettersRule (n : Nat) :
    RoleRule.live [lettersRule (n + 1)] .front = [lettersRule (n + 1)] := by
  have hblank : (lettersRule (n + 1)).isBlank = false := by
    rw [RoleRule.isBlank, isBlankText, lettersRule, String.toList_ofList, List.replicate_succ]
    rfl
  have hrole : (lettersRule (n + 1)).role = .front := rfl
  simp [RoleRule.live, RoleRule.forRole, hblank, hrole]

/-- The pattern for a rule of many letters is too large to be searched for. -/
theorem parse_pattern_letters {n : Nat} (h : maxWeight < n + 1) :
    Regex.parse (pattern [lettersRule (n + 1)] .front) false = .error .tooLarge := by
  have hlive := live_lettersRule n
  have hplain : ∀ r ∈ RoleRule.live [lettersRule (n + 1)] .front, r.type ≠ .override := by
    rw [hlive]
    intro r hr
    rw [List.mem_singleton.mp hr]
    exact RuleType.noConfusion
  have hread := read_pattern hplain (by rw [hlive]; exact List.cons_ne_nil _ _)
  rw [hlive] at hread
  have hweight : (lettersRule (n + 1)).expr.weight = n + 1 := by
    have hexprs : (lettersRule (n + 1)).bodyExprs (folding !(lettersRule (n + 1)).caseSensitive) =
        (List.replicate (n + 1) 'a').map (folding false).literal := by
      simp [RoleRule.bodyExprs, lettersRule, RuleType.fromStart, RuleType.toEnd]
    rw [RoleRule.expr, hexprs, Expr.weight_catOf, List.map_map, List.map_replicate,
      List.sum_replicate_nat]
    simp [Flags.literal, Expr.weight]
  have hfits : Regex.fits ⟨Expr.altOf ([lettersRule (n + 1)].map RoleRule.expr)⟩ = false := by
    rw [Regex.fits, decide_eq_false_iff_not]
    change ¬ (lettersRule (n + 1)).expr.weight ≤ maxWeight
    omega
  rw [Regex.parse, hread]
  simp only [hfits, Bool.false_eq_true, if_false]

/-- Plain rules can have a pattern that is too large to be searched for. -/
theorem not_parse_pattern_letters :
    ¬ ∀ (rules : List RoleRule) (role : Role) (filename : String),
      (∀ r ∈ rules, r.type ≠ .override) →
      ((∀ r ∈ rules, r.role = role → r.caseSensitive = true) ∨
        (IsAscii filename ∧
          ∀ r ∈ rules, r.role = role → r.caseSensitive = false → IsAscii r.value)) →
      (pattern rules role = "" ↔ ∀ r ∈ rules, r.role = role → r.isBlank = true) ∧
        (pattern rules role ≠ "" → ∃ regex,
          Regex.parse (pattern rules role) false = .ok regex ∧
          (regex.isMatch filename = true ↔
            ∃ r ∈ rules, r.role = role ∧ r.isMatch filename = true)) := by
  intro hall
  have hlarge := parse_pattern_letters (n := 499999) (by decide)
  obtain ⟨hempty, hmeans⟩ := hall [lettersRule 500000] .front "a.jpg"
    (List.forall_mem_singleton.mpr RuleType.noConfusion)
    (Or.inl (List.forall_mem_singleton.mpr fun _ => rfl))
  have hne : pattern [lettersRule 500000] .front ≠ "" := by
    intro he
    have hblank := hempty.mp he _ List.mem_cons_self rfl
    have hmem : lettersRule 500000 ∈ RoleRule.live [lettersRule 500000] .front := by
      rw [live_lettersRule 499999]
      exact List.mem_cons_self
    rw [(RoleRule.mem_live.mp hmem).2.2] at hblank
    cases hblank
  obtain ⟨regex, hparse, -⟩ := hmeans hne
  rw [hlarge] at hparse
  cases hparse

end PhotoGrouping.Role
