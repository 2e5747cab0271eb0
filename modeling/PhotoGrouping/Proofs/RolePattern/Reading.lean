import PhotoGrouping.Proofs.GroupPattern.Fragments
import PhotoGrouping.Proofs.Grouping.Passes
import PhotoGrouping.RolePattern

namespace PhotoGrouping

open Regex GroupPattern

namespace RuleType

/-- Whether the value has to stand at the front of a name. -/
def fromStart : RuleType → Bool
  | .equals | .startsWith => true
  | .contains | .endsWith | .override => false

/-- Whether the value has to stand at the end of a name. -/
def toEnd : RuleType → Bool
  | .equals | .endsWith => true
  | .contains | .startsWith | .override => false

end RuleType

namespace RoleRule

/-- The expressions of what a rule matches: its value between the ends that it is held to. -/
def bodyExprs (f : Flags) (r : RoleRule) : List Expr :=
  (if r.type.fromStart then [.look .textStart] else []) ++ r.value.toList.map f.literal ++
    if r.type.toEnd then [.look .textEnd] else []

/-- The expression of a rule, read as the rule says of case. -/
def expr (r : RoleRule) : Expr :=
  Expr.catOf (r.bodyExprs (folding !r.caseSensitive))

/-- The expressions that the pattern of a rule stands for; a group of its own makes case not count. -/
def exprs (r : RoleRule) : List Expr :=
  if r.caseSensitive then r.bodyExprs (folding false) else [r.expr]

/-- The pattern of a rule, blank or not. -/
def patternText (r : RoleRule) : String :=
  if r.caseSensitive then r.body else caseless r.body

/-- The rules for a role that are not blank, by ascending priority. -/
def live (rules : List RoleRule) (role : Role) : List RoleRule :=
  (forRole rules role).filter (!·.isBlank)

theorem mem_live {rules : List RoleRule} {role : Role} {r : RoleRule} :
    r ∈ live rules role ↔ r ∈ rules ∧ r.role = role ∧ r.isBlank = false := by
  rw [live, List.mem_filter, mem_forRole, Bool.not_eq_true', and_assoc]

variable {b : Bool} {n : Nat} {r : RoleRule}

theorem reads_body (h : r.type ≠ .override) :
    Reads b n r.body.toList (r.bodyExprs (folding b)) n 0 := by
  have hvalue : Reads b n (escape r.value).toList (r.value.toList.map (folding b).literal) n 0 := by
    rw [escape, String.toList_ofList]
    exact reads_escapeChars b n r.value.toList
  have hcaret : Reads b n ['^'] [.look .textStart] n 0 := readsItem_caret.reads
  have hdollar : Reads b n ['$'] [.look .textEnd] n 0 := readsItem_dollar.reads
  unfold body bodyExprs
  cases htype : r.type with
  | equals =>
    rw [String.toList_append, String.toList_append]
    exact (hcaret.append hvalue).append hdollar
  | contains => simpa [RuleType.fromStart, RuleType.toEnd] using hvalue
  | startsWith =>
    rw [String.toList_append]
    simpa [RuleType.fromStart, RuleType.toEnd] using hcaret.append hvalue
  | endsWith =>
    rw [String.toList_append]
    exact hvalue.append hdollar
  | override => exact absurd htype h

theorem catOf_exprs (r : RoleRule) : Expr.catOf r.exprs = r.expr := by
  unfold exprs
  split
  · rename_i hcase
    rw [expr, hcase]
    rfl
  · rfl

/-- The pattern of a rule stands for the expressions of the rule. -/
theorem reads_patternText (h : r.type ≠ .override) :
    Reads false n r.patternText.toList r.exprs n 3 := by
  unfold patternText exprs
  cases hcase : r.caseSensitive with
  | true => exact (reads_body h).mono (by decide)
  | false =>
    have heach : ReadsEach true n [r.body.toList] [r.bodyExprs (folding true)] 0 :=
      List.Forall₂.cons (reads_body h) List.Forall₂.nil
    have hgroup := readsItem_caselessGroup (b := false) heach (by simp)
    rw [List.intercalate_singleton] at hgroup
    have hexpr : r.expr = Expr.altOf ([r.bodyExprs (folding true)].map Expr.catOf) := by
      rw [expr, hcase]
      rfl
    rw [if_neg Bool.false_ne_true, if_neg Bool.false_ne_true, hexpr, caseless,
      String.toList_append, String.toList_append]
    exact hgroup.reads

/-- Only a blank rule would have the empty pattern. -/
theorem patternText_ne_empty (h : r.type ≠ .override) (hblank : r.isBlank = false) :
    r.patternText ≠ "" := by
  intro hempty
  have hreads := reads_patternText (n := 0) h
  rw [hempty] at hreads
  have hnone : r.exprs = [] := hreads.unique (Reads.nil (d := 3))
  have hbody : ∀ f : Flags, r.value.toList.map f.literal ≠ [] := by
    intro f hvalue
    have hvalue : r.value.toList = [] := List.map_eq_nil_iff.mp hvalue
    rw [isBlank, Text.isBlankText, hvalue] at hblank
    cases hblank
  unfold exprs at hnone
  split at hnone
  · rw [bodyExprs, List.append_eq_nil_iff, List.append_eq_nil_iff] at hnone
    exact hbody _ hnone.1.2
  · cases hnone

theorem filterMap_pattern? (rules : List RoleRule) :
    rules.filterMap pattern? = (rules.filter (!·.isBlank)).map patternText := by
  induction rules with
  | nil => rfl
  | cons r rules ih =>
    cases hblank : r.isBlank with
    | true =>
      have hnone : r.pattern? = none := by rw [pattern?, hblank, if_pos rfl]
      rw [List.filterMap_cons_none hnone, ih]
      simp [hblank]
    | false =>
      have hsome : r.pattern? = some r.patternText := by
        rw [pattern?, hblank, if_neg Bool.false_ne_true]
        rfl
      rw [List.filterMap_cons_some hsome, ih]
      simp [hblank]

end RoleRule

namespace Role

variable {rules : List RoleRule} {role : Role}

theorem pattern_eq (rules : List RoleRule) (role : Role) :
    pattern rules role =
      match (RoleRule.live rules role).map RoleRule.patternText with
      | [] => ""
      | [p] => p
      | ps => "(?:" ++ alternatives ps ++ ")" := by
  rw [pattern, RoleRule.filterMap_pattern?]
  rfl

theorem pattern_eq_empty_iff (h : ∀ r ∈ RoleRule.live rules role, r.type ≠ .override) :
    pattern rules role = "" ↔ RoleRule.live rules role = [] := by
  rw [pattern_eq]
  rcases hlive : RoleRule.live rules role with _ | ⟨r, _ | ⟨r', rest⟩⟩
  · simp
  · have hr : r ∈ RoleRule.live rules role := by simp [hlive]
    have hblank := (RoleRule.mem_live.mp hr).2.2
    exact iff_of_false (RoleRule.patternText_ne_empty (h r hr) hblank) (List.cons_ne_nil _ _)
  · refine iff_of_false ?_ (List.cons_ne_nil _ _)
    intro hempty
    have htext := congrArg String.toList hempty
    simp only [List.map_cons, String.toList_append] at htext
    cases htext

/-- The pattern of a role is read as the choice between the expressions of its rules. -/
theorem read_pattern (h : ∀ r ∈ RoleRule.live rules role, r.type ≠ .override)
    (hne : RoleRule.live rules role ≠ []) :
    Regex.read (pattern rules role) false =
      .ok ⟨Expr.altOf ((RoleRule.live rules role).map RoleRule.expr)⟩ := by
  rw [pattern_eq]
  have heach : ReadsEach false 0
      (((RoleRule.live rules role).map RoleRule.patternText).map String.toList)
      ((RoleRule.live rules role).map RoleRule.exprs) 3 := by
    unfold ReadsEach
    rw [List.map_map, List.forall₂_map_left_iff, List.forall₂_map_right_iff, List.forall₂_same]
    intro r hr
    exact RoleRule.reads_patternText (h r hr)
  have hgroup := (readsItem_plainGroup (b := false) heach (by simpa using hne)).reads
  have hexprs : ((RoleRule.live rules role).map RoleRule.exprs).map Expr.catOf =
      (RoleRule.live rules role).map RoleRule.expr := by
    rw [List.map_map]
    exact List.map_congr_left fun r _ => RoleRule.catOf_exprs r
  rw [hexprs, ← toList_alternatives] at hgroup
  have hchoice : Reads false 0
      ("(?:" ++ alternatives ((RoleRule.live rules role).map RoleRule.patternText) ++ ")").toList
      [Expr.altOf ((RoleRule.live rules role).map RoleRule.expr)] 0 6 := by
    rw [String.toList_append, String.toList_append]
    exact hgroup
  have hread := read_of_reads hchoice (by decide)
  -- One pattern alone is not put into a group, but the choice between one expression is that one.
  rcases hlive : RoleRule.live rules role with _ | ⟨r, _ | ⟨r', rest⟩⟩
  · exact absurd hlive hne
  · have hr : r ∈ RoleRule.live rules role := by simp [hlive]
    have hsingle := read_of_reads (RoleRule.reads_patternText (n := 0) (h r hr)) (by decide)
    rw [RoleRule.catOf_exprs] at hsingle
    exact hsingle
  · rw [hlive] at hread
    exact hread

end Role

end PhotoGrouping
