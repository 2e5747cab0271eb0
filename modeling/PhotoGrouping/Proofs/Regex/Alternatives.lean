import PhotoGrouping.Proofs.GroupPattern.Fragments
import PhotoGrouping.Proofs.Regex.Refusal

namespace PhotoGrouping.Regex

/-- Whether a pattern is read to its end and ends under the settings that it began with. -/
def KeepsSettings (text : String) : Prop :=
  (parseFrom { flags := folding false } text.toList).map (·.flags) = .ok (folding false)

/-- Whether a comment is open at the end of a pattern, so that a further branch makes no difference.
-/
def EndsInComment (text : String) : Prop :=
  parseFrom { flags := folding false } (text.toList ++ ['|']) =
    parseFrom { flags := folding false } text.toList

/-- The names of the groups of a pattern. -/
def groupNames (text : String) : List (List Char) :=
  match parseFrom { flags := folding false } text.toList with
  | .error _ => []
  | .ok st => st.names

/-- How deep the deepest alternative of a pattern nests. -/
def nesting (text : String) : Nat :=
  match parseFrom { flags := folding false } text.toList with
  | .error _ => 0
  | .ok st => (st.alternatives.map (·.depth)).foldl max 0

/-- How many single characters a pattern spells out. -/
def weightOf (text : String) : Nat :=
  match parseFrom { flags := folding false } text.toList with
  | .error _ => 0
  | .ok st => st.groupNode.expr.weight

instance (text : String) : Decidable (KeepsSettings text) :=
  inferInstanceAs (Decidable (_ = _))

instance (text : String) : Decidable (EndsInComment text) :=
  inferInstanceAs (Decidable (_ = _))

theorem any_isMatch_iff {text filename : String} :
    ((Regex.parse text false).toOption.any (·.isMatch filename)) = true ↔
      ∃ own, Regex.parse text false = .ok own ∧ own.isMatch filename = true := by
  cases Regex.parse text false with
  | error e => simp [Except.toOption]
  | ok own => simp [Except.toOption]

/-- What patterns need to be put side by side as text: no settings that reach beyond the pattern
that makes them, no comment that hides what comes next, and no name that two of them share. -/
structure JoinsCleanly (texts : List String) : Prop where
  keepsSettings : ∀ text ∈ texts.dropLast, KeepsSettings text
  uncommented : ∀ text ∈ texts, ¬ EndsInComment text
  namesApart : texts.Pairwise fun a b => ∀ name ∈ groupNames b, name ∉ groupNames a

/-- Whether a pattern that can be searched for is read to a state, without a comment at its end. -/
structure ReadsAlone (text : String) (st : ParseState) : Prop
    extends Completes (folding false) text.toList st where
  parse : Regex.parse text false = .ok ⟨st.groupNode.expr⟩

section

variable {text : String} {texts before : List String} {st : ParseState} {sts : List ParseState}
  {ps qs : List (List Char)}

theorem ReadsAlone.flags_eq (h : ReadsAlone text st) (hkeep : KeepsSettings text) :
    st.flags = folding false := by
  rw [KeepsSettings, h.own] at hkeep
  exact Except.ok.inj hkeep

/-- A pattern that can be searched for is not too large. -/
theorem weightOf_le (hok : (Regex.parse text false).isOk = true) : weightOf text ≤ maxWeight := by
  obtain ⟨own, hparse⟩ := exists_of_isOk hok
  obtain ⟨st, hread, hclosed, -⟩ := exists_of_read (read_of_parse hparse)
  rw [parse_of_closed hread hclosed] at hparse
  rw [weightOf, hread]
  split at hparse
  · cases hparse
  · split at hparse
    · assumption
    · cases hparse

theorem exists_readsAlone
    (hok : (Regex.parse text false).isOk = true) (hend : ¬ EndsInComment text) :
    ∃ st, ReadsAlone text st := by
  obtain ⟨own, hparse⟩ := exists_of_isOk hok
  obtain ⟨st, hread, hclosed, rfl⟩ := exists_of_read (read_of_parse hparse)
  refine ⟨st, ⟨hread, hclosed, fun hbar => hend ?_⟩, hparse⟩
  rw [EndsInComment, hbar, hread]

theorem exists_forall₂_readsAlone (hok : ∀ text ∈ texts, (Regex.parse text false).isOk = true)
    (hend : ∀ text ∈ texts, ¬ EndsInComment text) : ∃ sts, List.Forall₂ ReadsAlone texts sts := by
  induction texts with
  | nil => exact ⟨[], List.Forall₂.nil⟩
  | cons text texts ih =>
    obtain ⟨hok, hoks⟩ := List.forall_mem_cons.mp hok
    obtain ⟨hend, hends⟩ := List.forall_mem_cons.mp hend
    obtain ⟨st, hst⟩ := exists_readsAlone hok hend
    obtain ⟨sts, hsts⟩ := ih hoks hends
    exact ⟨st :: sts, List.Forall₂.cons hst hsts⟩

theorem intercalate_bar_cons (q : List Char) (qs : List (List Char)) :
    ['|'].intercalate (q :: qs) = q ++ qs.flatMap ('|' :: ·) := by
  induction qs generalizing q with
  | nil => simp
  | cons q' qs ih =>
    rw [List.intercalate_cons_cons, ih]
    simp

/-- Texts with `|` between them, those before one of them and those after it. -/
theorem intercalate_bar (ps qs : List (List Char)) (q : List Char) :
    ['|'].intercalate (ps ++ q :: qs) =
      ps.flatMap (· ++ ['|']) ++ (q ++ qs.flatMap ('|' :: ·)) := by
  induction ps with
  | nil => exact intercalate_bar_cons q qs
  | cons p ps ih =>
    obtain ⟨r, rs, hcons⟩ := List.exists_cons_of_ne_nil
      (List.append_ne_nil_of_right_ne_nil ps (List.cons_ne_nil q qs))
    rw [List.cons_append, hcons, List.intercalate_cons_cons, ← hcons, ih]
    simp

theorem toList_group (texts : List String) :
    ("(?:" ++ PhotoGrouping.alternatives texts ++ ")").toList =
      '(' :: '?' :: ':' :: (['|'].intercalate (texts.map String.toList) ++ [')']) := by
  rw [String.toList_append, String.toList_append, GroupPattern.toList_alternatives]
  rfl

theorem forall₂_concat {α β : Type} {R : α → β → Prop} {xs : List α} {x : α} {ys : List β}
    (h : List.Forall₂ R (xs ++ [x]) ys) : ∃ zs y, ys = zs ++ [y] ∧ List.Forall₂ R xs zs ∧ R x y := by
  induction xs generalizing ys with
  | nil =>
    cases h with
    | cons hxy hnil =>
      cases hnil
      exact ⟨[], _, rfl, List.Forall₂.nil, hxy⟩
  | cons x' xs ih =>
    cases h with
    | cons hxy hrest =>
      obtain ⟨zs, y, rfl, hinit, hlast⟩ := ih hrest
      exact ⟨_ :: zs, y, rfl, List.Forall₂.cons hxy hinit, hlast⟩

end

section

variable {texts : List String} {sts : List ParseState} (hsts : List.Forall₂ ReadsAlone texts sts)

include hsts

theorem completes_of_readsAlone :
    List.Forall₂ (Completes (folding false)) (texts.map String.toList) sts :=
  List.forall₂_map_left_iff.mpr (hsts.imp fun _ _ h => h.toCompletes)

theorem flags_of_readsAlone (hkeep : ∀ text ∈ texts, KeepsSettings text) :
    ∀ st ∈ sts, st.flags = folding false := by
  induction hsts with
  | nil => exact List.forall_mem_nil _
  | cons hst _ ih =>
    obtain ⟨hkeep, hkeeps⟩ := List.forall_mem_cons.mp hkeep
    exact List.forall_mem_cons.mpr ⟨hst.flags_eq hkeep, ih hkeeps⟩

theorem JoinsCleanly.pairwise_not_clashes (hjoin : JoinsCleanly texts) :
    sts.Pairwise fun a b => ¬ a.Clashes b := by
  have hnames : texts.map groupNames = sts.map (·.names) := by
    refine map_eq_map_of_forall₂ hsts fun text st hst => ?_
    rw [groupNames, hst.own]
  have hapart : (texts.map groupNames).Pairwise fun a b => ∀ name ∈ b, name ∉ a :=
    List.pairwise_map.mpr hjoin.namesApart
  rw [hnames, List.pairwise_map] at hapart
  exact hapart.imp fun hab ⟨name, hb, ha⟩ => hab name hb ha

theorem forall_nesting_iff {d : Nat} : (∀ text ∈ texts, nesting text ≤ d) ↔
    ∀ st ∈ sts, (st.alternatives.map (·.depth)).foldl max 0 ≤ d := by
  have hnestings : texts.map nesting =
      sts.map fun st => (st.alternatives.map (·.depth)).foldl max 0 := by
    refine map_eq_map_of_forall₂ hsts fun text st hst => ?_
    rw [nesting, hst.own]
  rw [← List.forall_mem_map (f := nesting) (P := (· ≤ d)), hnestings, List.forall_mem_map]

theorem map_weightOf : texts.map weightOf = sts.map (·.groupNode.expr.weight) := by
  refine map_eq_map_of_forall₂ hsts fun text st hst => ?_
  rw [weightOf, hst.own]

theorem exists_isMatch_iff (filename : String) :
    (∃ text ∈ texts, ∃ own, Regex.parse text false = .ok own ∧ own.isMatch filename = true) ↔
      ∃ st ∈ sts, st.groupNode.expr.Occurs filename.toList := by
  induction hsts with
  | nil => simp
  | cons hst _ ih => simp [hst.parse, isMatch_iff_occurs, ih]

/-- Patterns that join cleanly are read in a group to a choice between their branches. -/
theorem JoinsCleanly.exists_group (hjoin : JoinsCleanly texts) (hne : texts ≠ []) :
    ∃ fin ns, parseFrom { flags := folding false }
        ("(?:" ++ PhotoGrouping.alternatives texts ++ ")").toList = .ok fin ∧
      fin.outer = [] ∧ fin.groupNode = ⟨(groupOf ns).expr, (groupOf ns).depth + 1⟩ ∧
      List.Forall₂ Node.IsRenumbered ns (sts.flatMap ParseState.alternatives) := by
  have hapart := hjoin.pairwise_not_clashes hsts
  obtain rfl | ⟨before, last, rfl⟩ := texts.eq_nil_or_concat'
  · exact absurd rfl hne
  obtain ⟨sts, st, rfl, hbefore, hlast⟩ := forall₂_concat hsts
  have hkeep := hjoin.keepsSettings
  rw [List.dropLast_concat] at hkeep
  rw [toList_group, List.map_append, List.map_singleton, intercalate_bar, List.flatMap_nil,
    List.append_nil, List.append_assoc]
  exact parseFrom_joined (completes_of_readsAlone hbefore) hlast.toCompletes
    (flags_of_readsAlone hbefore hkeep) hapart

end

section

variable {texts before : List String}

/-- Two patterns or more that can be searched for and join cleanly are read as alternatives in a
group, unless the group nests too deep or is too large. -/
theorem parse_joined (hok : ∀ text ∈ texts, (Regex.parse text false).isOk = true)
    (hjoin : JoinsCleanly texts) (hmany : 2 ≤ texts.length) :
    ∃ regex : Regex, Regex.parse ("(?:" ++ PhotoGrouping.alternatives texts ++ ")") false =
        (if ∀ text ∈ texts, nesting text + 2 ≤ maxDepth then
          if (texts.map weightOf).sum ≤ maxWeight then .ok regex else .error .tooLarge
        else .error .tooDeep) ∧
      ∀ filename, regex.isMatch filename = true ↔
        ∃ text ∈ texts, ∃ own, Regex.parse text false = .ok own ∧ own.isMatch filename = true := by
  obtain ⟨sts, hsts⟩ := exists_forall₂_readsAlone hok hjoin.uncommented
  have hcount : 2 ≤ sts.length := by rwa [← hsts.length_eq]
  obtain ⟨fin, ns, hread, hclosed, hnode, hrenumbered⟩ :=
    hjoin.exists_group hsts (List.ne_nil_of_length_pos (Nat.lt_of_succ_lt hmany))
  have hdepth : ¬ maxDepth < fin.groupNode.depth ↔ ∀ text ∈ texts, nesting text + 2 ≤ maxDepth := by
    have hgroup := depth_groupOf_le_iff hrenumbered hcount (d := maxDepth - 2)
    rw [← forall_nesting_iff hsts] at hgroup
    have hroom : ∀ n, n + 2 ≤ maxDepth ↔ n ≤ maxDepth - 2 := by
      intro n
      rw [maxDepth]
      omega
    simp only [hnode, hroom, ← hgroup]
    rw [maxDepth]
    omega
  have hweight : fin.groupNode.expr.weight = (texts.map weightOf).sum := by
    rw [hnode, weight_groupOf hrenumbered, map_weightOf hsts]
  refine ⟨⟨fin.groupNode.expr⟩, ?_, fun filename => ?_⟩
  · rw [parse_of_closed hread hclosed, ← hweight, ← ite_not]
    simp only [hdepth]
  · rw [exists_isMatch_iff hsts, isMatch_iff_occurs, hnode]
    exact occurs_groupOf hrenumbered (List.ne_nil_of_length_pos (Nat.lt_of_succ_lt hcount))

/-- What comes after patterns with `|` behind them is refused if it is refused at the front of a
branch. -/
theorem overgrown_of_before {s fin : ParseState} {rest : List Char} (hs : s.flags = folding false)
    (hfront : s.branch = [])
    (hbefore : ∀ text ∈ before, (Regex.parse text false).isOk = true ∧ KeepsSettings text ∧
      ¬ EndsInComment text)
    (hrest : ∀ t : ParseState, t.flags = folding false → t.branch = [] → ∀ fin,
      parseFrom t rest = .ok fin → fin.Overgrown)
    (hread : parseFrom s ((before.map String.toList).flatMap (· ++ ['|']) ++ rest) = .ok fin) :
    fin.Overgrown := by
  obtain ⟨sts, hsts⟩ := exists_forall₂_readsAlone (fun text hmem => (hbefore text hmem).1)
    fun text hmem => (hbefore text hmem).2.2
  have hcompletes := completes_of_readsAlone hsts
  have hflags := flags_of_readsAlone hsts fun text hmem => (hbefore text hmem).2.1
  have hrun := parseFrom_flatMap_bar (s := s) hcompletes hs hfront hflags rest
  rw [hread] at hrun
  obtain heq | ⟨-, e, he⟩ := hrun
  · obtain ⟨hfront', hflags', -⟩ := ParseState.alongside_front hfront fun st hmem =>
      ⟨closed_of_completes hcompletes st hmem, (hflags st hmem).trans hs.symm⟩
    exact hrest _ (hflags'.trans hs) hfront' fin heq.symm
  · cases he

end

end PhotoGrouping.Regex
