import Mathlib.Data.List.Chain
import PhotoGrouping.GroupPattern
import PhotoGrouping.PatternScan
import PhotoGrouping.Proofs.Regex.Items

namespace PhotoGrouping.PatternScan

open Regex

/-- Texts one after the other are scanned one after the other, unless the first one ends in an opening
bracket and the second one says that it does not capture. -/
theorem countFrom_append {s : State} {t rest : List Char}
    (h : t.getLast? = some '(' → rest.head? ≠ some '?') :
    countFrom s (t ++ rest) = countFrom s t + countFrom (t.foldl State.step s) rest := by
  induction t generalizing s with
  | nil => simp [countFrom]
  | cons c t ih =>
    -- The next character counts for an opening bracket only, and is another one only behind the last.
    have hnext : (c == '(' && (t ++ rest).head? != some '?') = (c == '(' && t.head? != some '?') := by
      cases t with
      | nil =>
        by_cases hc : c = '('
        · have hrest : (rest.head? != some '?') = true := bne_iff_ne.mpr (h (congrArg some hc))
          rw [List.nil_append, hrest]
          rfl
        · rw [beq_false_of_ne hc, Bool.false_and, Bool.false_and]
      | cons d t => rfl
    have htail : t.getLast? = some '(' → rest.head? ≠ some '?' := by
      intro hlast
      exact h (by rw [List.getLast?_cons, hlast]; rfl)
    rw [List.cons_append, countFrom, countFrom, ih htail, Bool.and_assoc, hnext, ← Bool.and_assoc,
      Nat.add_assoc]
    rfl

/-- Two characters that may stand one after the other without opening a group on any text. -/
def Apart (c d : Char) : Prop :=
  ¬ (c = '(' ∧ d = '.')

instance : DecidableRel Apart := fun c d => inferInstanceAs (Decidable (¬ (c = '(' ∧ d = '.')))

/-- A text that a scan leaves as it came to it, with so many groups opened on the way, and that
neither goes on with nor holds the front of a group on any text. -/
structure Fragment (t : List Char) (count : Nat) : Prop where
  countFrom_append : ∀ rest, countFrom {} (t ++ rest) = count + countFrom {} rest
  head_ne_question : t.head? ≠ some '?'
  head_ne_dot : t.head? ≠ some '.'
  isChain : t.IsChain Apart

variable {t u : List Char} {k m : Nat}

theorem Fragment.nil : Fragment [] 0 := by
  refine ⟨by simp, by simp, by simp, List.isChain_nil⟩

private theorem isChain_append_of_head_ne (ht : t.IsChain Apart) (hu : u.IsChain Apart)
    (hd : u.head? ≠ some '.') : (t ++ u).IsChain Apart := by
  refine ht.append hu ?_
  intro x _ y hy
  rintro ⟨-, rfl⟩
  exact hd hy

theorem Fragment.append (ht : Fragment t k) (hu : Fragment u m) : Fragment (t ++ u) (k + m) := by
  refine ⟨?_, head?_append_ne ht.head_ne_question hu.head_ne_question,
    head?_append_ne ht.head_ne_dot hu.head_ne_dot,
    isChain_append_of_head_ne ht.isChain hu.isChain hu.head_ne_dot⟩
  intro rest
  rw [List.append_assoc, ht.countFrom_append, hu.countFrom_append, Nat.add_assoc]

theorem Fragment.intercalate {α : Type} {sep : List Char} {f : α → List Char} {count : α → Nat}
    (hsep : Fragment sep 0) (xs : List α) (h : ∀ x ∈ xs, Fragment (f x) (count x)) :
    Fragment (sep.intercalate (xs.map f)) (xs.map count).sum := by
  induction xs with
  | nil => exact Fragment.nil
  | cons x xs ih =>
    cases xs with
    | nil => simpa using h x (by simp)
    | cons y ys =>
      have hrest := ih fun z hz => h z (List.mem_cons_of_mem x hz)
      have hall := ((h x (by simp)).append hsep).append hrest
      simpa only [List.map_cons, List.intercalate_cons_cons, List.sum_cons, Nat.add_zero] using hall

/-- A group that captures. -/
theorem Fragment.capture (h : Fragment t k) : Fragment ('(' :: t ++ [')']) (k + 1) := by
  have hclose : (t ++ [')']).IsChain Apart :=
    isChain_append_of_head_ne h.isChain (List.isChain_singleton _) (by decide)
  have hdot := head?_append_ne h.head_ne_dot (u := [')']) (by decide)
  refine ⟨?_, by simp, by simp, ?_⟩
  · intro rest
    have hq := head?_append_ne h.head_ne_question (u := ')' :: rest) (by simp)
    have hstep : ∀ cs : List Char, cs.head? ≠ some '?' →
        countFrom {} ('(' :: cs) = 1 + countFrom {} cs := by
      intro cs hcs
      simp [countFrom, State.isPlain, State.step, hcs]
    have hend : countFrom {} (')' :: rest) = countFrom {} rest := by
      simp [countFrom, State.step]
    calc countFrom {} ('(' :: t ++ [')'] ++ rest)
        = countFrom {} ('(' :: (t ++ ')' :: rest)) := by simp
      _ = 1 + (k + countFrom {} rest) := by rw [hstep _ hq, h.countFrom_append, hend]
      _ = k + 1 + countFrom {} rest := by omega
  · exact isChain_append_of_head_ne (t := ['(']) (List.isChain_singleton _) hclose hdot

/-- A group that does not capture; its front holds neither brackets nor backslashes. -/
theorem Fragment.group (front : List Char) (h : Fragment t k)
    (hf : ∀ rest, countFrom {} ('(' :: '?' :: front ++ rest) = countFrom {} rest)
    (hc : ('(' :: '?' :: front).IsChain Apart) :
    Fragment ('(' :: '?' :: front ++ t ++ [')']) k := by
  refine ⟨?_, by simp, by simp, ?_⟩
  · intro rest
    have hend : countFrom {} (')' :: rest) = countFrom {} rest := by
      simp [countFrom, State.step]
    rw [List.append_assoc, List.append_assoc, hf, h.countFrom_append, List.singleton_append, hend]
  · exact isChain_append_of_head_ne (isChain_append_of_head_ne hc h.isChain h.head_ne_dot)
      (List.isChain_singleton _) (by decide)

theorem countFrom_append_of_not_mem (s : State) (rest : List Char) (h : '(' ∉ t) :
    countFrom s (t ++ rest) = countFrom (t.foldl State.step s) rest := by
  induction t generalizing s with
  | nil => rfl
  | cons c t ih =>
    have hc : c ≠ '(' := fun hc => h (by simp [hc])
    rw [List.cons_append, countFrom, ih _ fun ht => h (List.mem_cons_of_mem c ht)]
    simp [hc]

/-- A text without opening brackets that a scan leaves as it came to it. -/
theorem fragment_of_not_mem (h : '(' ∉ t) (hs : t.foldl State.step {} = {})
    (hq : t.head? ≠ some '?') (hd : t.head? ≠ some '.') : Fragment t 0 := by
  refine ⟨?_, hq, hd, ?_⟩
  · intro rest
    rw [countFrom_append_of_not_mem {} rest h, hs, Nat.zero_add]
  · apply List.Pairwise.isChain
    apply List.pairwise_of_forall_mem_list
    rintro x hx y _ ⟨rfl, -⟩
    exact h hx

private theorem fragment_escapeChars_singleton (c : Char) : Fragment (escapeChars [c]) 0 := by
  cases h : isMeta c with
  | true =>
    have ht : escapeChars [c] = ['\\', c] := by simp [escapeChars, h]
    rw [ht]
    refine ⟨?_, by simp, by simp, ?_⟩
    · intro rest
      simp [countFrom, State.step, State.isPlain]
    · simp [Apart]
  | false =>
    have ht : escapeChars [c] = [c] := by simp [escapeChars, h]
    have hne : ∀ d : Char, isMeta d = true → c ≠ d := by
      rintro d hd rfl
      rw [hd] at h
      cases h
    rw [ht]
    refine ⟨?_, by simpa using hne '?' (by decide), by simpa using hne '.' (by decide),
      List.isChain_singleton _⟩
    intro rest
    have hstep : State.step {} c = {} := by
      unfold State.step
      simp only [Bool.false_eq_true, if_false]
      split
      · exact absurd rfl (hne '\\' (by decide))
      · exact absurd rfl (hne '[' (by decide))
      · exact absurd rfl (hne ']' (by decide))
      · rfl
    simp [countFrom, hstep, hne '(' (by decide)]

/-- An escaped text opens no group. -/
theorem fragment_escapeChars (cs : List Char) : Fragment (escapeChars cs) 0 := by
  induction cs with
  | nil => exact Fragment.nil
  | cons c cs ih =>
    rw [escapeChars_cons]
    exact (fragment_escapeChars_singleton c).append ih

end PhotoGrouping.PatternScan
