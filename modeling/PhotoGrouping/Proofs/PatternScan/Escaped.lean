import PhotoGrouping.Proofs.PatternScan.Quantifiers
import PhotoGrouping.Proofs.RolePattern.Matching

namespace PhotoGrouping.PatternScan

open Regex Text

theorem isMute_of_not_isMeta {c : Char} (h : isMeta c = false) : isMute c = true :=
  isMute_of (p := fun c => !isMeta c) (by decide) (by rw [h]; rfl)

/-- Escaped text repeats nothing. -/
theorem quantifiedFrom_escapeChars (before : Option Char) (cs : List Char) :
    quantifiedFrom {} before (escapeChars cs) = false := by
  induction cs generalizing before with
  | nil => rfl
  | cons c cs ih =>
    rw [escapeChars_cons]
    cases hc : isMeta c with
    | true =>
      have ht : escapeChars [c] = ['\\', c] := by simp [escapeChars, hc]
      rw [ht, List.cons_append, List.cons_append, List.nil_append,
        quantifiedFrom_eq_none fun _ => by simp]
      exact (quantified_escape c _).trans (ih (some c))
    | false =>
      have ht : escapeChars [c] = [c] := by simp [escapeChars, hc]
      rw [ht, List.singleton_append, quantifiedFrom_mute (isMute_of_not_isMeta hc)]
      exact ih none

theorem escapeChars_eq_nil_iff {cs : List Char} : escapeChars cs = [] ↔ cs = [] := by
  cases cs with
  | nil => simp [escapeChars]
  | cons c cs =>
    cases hc : isMeta c with
    | true => simp [escapeChars, hc]
    | false => simp [escapeChars, hc]

def stateAfter (text : String) : State :=
  text.toList.foldl State.step {}

theorem State.eq_of_isPlain {s : State} (h : s.isPlain = true) : s = {} := by
  obtain ⟨escaped, inClass⟩ := s
  cases escaped with
  | true => cases h
  | false =>
    cases inClass with
    | true => cases h
    | false => rfl

/-- Escaped text opens no group between two texts, and does not change what these open. -/
theorem captureCount_escape {p t q : String} (hp : (stateAfter p).isPlain = true)
    (hopen : ¬ (t = "" ∧ p.toList.getLast? = some '(' ∧ q.toList.head? = some '?')) :
    captureCount (p ++ escape t ++ q) = captureCount p + captureCount q := by
  have hfragment := fragment_escapeChars t.toList
  have hhead : p.toList.getLast? = some '(' → (escapeChars t.toList ++ q.toList).head? ≠ some '?' := by
    intro hlast
    cases ht : escapeChars t.toList with
    | nil =>
      have hempty : t = "" := String.toList_eq_nil_iff.mp (escapeChars_eq_nil_iff.mp ht)
      exact fun hquestion => hopen ⟨hempty, hlast, hquestion⟩
    | cons c cs =>
      have hne := hfragment.head_ne_question
      rw [ht] at hne
      exact hne
  have hstate : p.toList.foldl State.step {} = {} := State.eq_of_isPlain hp
  have htext : (p ++ escape t ++ q).toList = p.toList ++ (escapeChars t.toList ++ q.toList) := by
    rw [String.toList_append, String.toList_append, escape, String.toList_ofList, List.append_assoc]
  rw [captureCount, htext, countFrom_append hhead, hstate, hfragment.countFrom_append, Nat.zero_add]
  rfl

/-- The rule for the filenames that are one text. -/
def exactRule (t : String) : RoleRule :=
  ⟨.front, .equals, t, true, 0⟩

/-- The expression of exactly one text. -/
def exactExpr (t : String) : Expr :=
  Expr.catOf ((exactRule t).bodyExprs (folding false))

/-- Escaped text between the two ends is read as an expression. -/
theorem read_escape (t : String) : Regex.read ("^" ++ escape t ++ "$") false = .ok ⟨exactExpr t⟩ :=
  read_of_reads (RoleRule.reads_body (r := exactRule t) RuleType.noConfusion) (by decide)

theorem isMatch_exactExpr {t text : String} : Regex.isMatch ⟨exactExpr t⟩ text = true ↔ text = t := by
  have hword {w : List Char} :
      w ∈ (Expr.catOf (t.toList.map (folding false).literal)).language ↔ w = t.toList := by
    have hkey : caseKey false = id := rfl
    rw [mem_language_literals_iff Bool.noConfusion, hkey, List.map_id, List.map_id]
  have hplace : RuleType.equals.Places t.toList text.toList ↔ text = t := by
    rw [← RuleType.compare_iff RuleType.noConfusion, RuleType.compare, beq_iff_eq]
  rw [Regex.isMatch, @search_isSome_iff _ _ (Slots.none 0), ← hplace]
  refine RoleRule.exists_spans_bodyExprs.trans ?_
  change (∃ w ∈ (Expr.catOf (t.toList.map (folding false).literal)).language,
    RuleType.equals.Places w text.toList) ↔ _
  simp only [hword, exists_eq_left]

/-- Escaped text is inert for scans and literal for searches. Between two texts, the first of which
leaves a scan outside of classes and backslash sequences, it opens no group; it repeats nothing; and
between the two ends it is read as an expression that matches the text and no other, which can be
searched for if it is not too large. -/
theorem escape_inert_literal (p t q : String) (hp : (stateAfter p).isPlain = true)
    (hopen : ¬ (t = "" ∧ p.toList.getLast? = some '(' ∧ q.toList.head? = some '?')) :
    captureCount (p ++ escape t ++ q) = captureCount p + captureCount q ∧
      hasQuantifier (escape t) = false ∧
      ∃ regex, Regex.read ("^" ++ escape t ++ "$") false = .ok regex ∧
        Regex.parse ("^" ++ escape t ++ "$") false =
          (if regex.fits then .ok regex else .error .tooLarge) ∧
        ∀ text, regex.isMatch text = true ↔ text = t := by
  refine ⟨captureCount_escape hp hopen, ?_, ⟨exactExpr t⟩, read_escape t, ?_, ?_⟩
  · rw [hasQuantifier, escape, String.toList_ofList]
    exact quantifiedFrom_escapeChars none t.toList
  · rw [Regex.parse, read_escape]
  · intro text
    exact isMatch_exactExpr

/-- Signs of all kinds, behind an opening bracket and in front of what would keep it from capturing. -/
theorem escape_inert_literal_signs :
    (stateAfter "[(]x(").isPlain = true ∧
      captureCount ("[(]x(" ++ escape "?:[(é\\" ++ "?)(y)") = 2 ∧
      hasQuantifier (escape "?:[(é\\") = false ∧
      ∃ regex, Regex.read ("^" ++ escape "?:[(é\\" ++ "$") false = .ok regex ∧
        regex.isMatch "?:[(é\\" = true ∧ regex.isMatch "?:[(É\\" = false := by
  have hplain : (stateAfter "[(]x(").isPlain = true := by decide
  obtain ⟨hcount, hquantifier, regex, hread, -, hmatch⟩ :=
    escape_inert_literal "[(]x(" "?:[(é\\" "?)(y)" hplain (by decide)
  have hother : ¬ regex.isMatch "?:[(É\\" = true := fun h => absurd ((hmatch _).mp h) (by decide)
  refine ⟨hplain, hcount.trans (by decide), hquantifier, regex, hread, (hmatch _).mpr rfl, ?_⟩
  exact Bool.eq_false_iff.mpr hother

theorem weight_exactExpr (t : String) : (exactExpr t).weight = t.toList.length := by
  rw [exactExpr, Expr.weight_catOf, RoleRule.bodyExprs]
  simp [exactRule, RuleType.fromStart, RuleType.toEnd, Flags.literal, Expr.weight, Function.comp_def]

/-- A long text is too large to be searched for, escaped as it is. -/
theorem parse_escape_of_lt {t : String} (h : maxWeight < t.toList.length) :
    Regex.parse ("^" ++ escape t ++ "$") false = .error .tooLarge := by
  have hfits : Regex.fits ⟨exactExpr t⟩ = false := by
    rw [Regex.fits, weight_exactExpr, decide_eq_false_iff_not]
    exact Nat.not_le_of_lt h
  rw [Regex.parse, read_escape]
  simp only [hfits, Bool.false_eq_true, if_false]

/-- Not every text can be searched for when it is escaped. -/
theorem not_parse_escape_letters :
    ¬ ∀ p t q : String, (stateAfter p).isPlain = true →
      ¬ (t = "" ∧ p.toList.getLast? = some '(' ∧ q.toList.head? = some '?') →
      captureCount (p ++ escape t ++ q) = captureCount p + captureCount q ∧
        hasQuantifier (escape t) = false ∧
        ∃ regex, Regex.parse ("^" ++ escape t ++ "$") false = .ok regex ∧
          ∀ text, regex.isMatch text = true ↔ text = t := by
  intro hall
  have hlength : maxWeight < (String.ofList (List.replicate 450000 'a')).toList.length := by
    rw [String.toList_ofList, List.length_replicate]
    decide
  have hopen : ¬ (String.ofList (List.replicate 450000 'a') = "" ∧ "".toList.getLast? = some '(' ∧
      "".toList.head? = some '?') := fun h => by cases h.2.1
  obtain ⟨-, -, regex, hparse, -⟩ := hall "" _ "" (by decide) hopen
  rw [parse_escape_of_lt hlength] at hparse
  cases hparse

end PhotoGrouping.PatternScan
