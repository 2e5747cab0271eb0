import Mathlib.Computability.Language
import PhotoGrouping.Regex

namespace PhotoGrouping.Regex

/-- The character before a position of a text. -/
def charBefore (text : List Char) (i : Nat) : Option Char :=
  (text.take i).getLast?

/-- Whether a repetition with these bounds may make `n` copies. -/
def Allows (least : Nat) (most : Option Nat) (n : Nat) : Prop :=
  least ≤ n ∧ ∀ m ∈ most, n ≤ max least m

/-- `n` steps one after the other, each from a position and groups to others. -/
def Copies (step : Nat → Slots → Nat → Slots → Prop) : Nat → Nat → Slots → Nat → Slots → Prop
  | 0, i, sl, j, sl' => j = i ∧ sl' = sl
  | n + 1, i, sl, j, sl' => ∃ k sl1, step i sl k sl1 ∧ Copies step n k sl1 j sl'

/-- Whether a position of a text holds a character of a set. -/
def TakesAt (text : List Char) (s : CharClass) (i : Nat) : Prop :=
  ∃ c, text[i]? = some c ∧ s.contains c = true

/-- Whether an expression can match a text between two positions, which turns groups into others. -/
def Expr.Spans (text : List Char) : Expr → Nat → Slots → Nat → Slots → Prop
  | .empty, i, sl, j, sl' => j = i ∧ sl' = sl
  | .oneOf s, i, sl, j, sl' => TakesAt text s i ∧ j = i + 1 ∧ sl' = sl
  | .look a, i, sl, j, sl' => a.holds (charBefore text i) text[i]? = true ∧ j = i ∧ sl' = sl
  | .cat r s, i, sl, j, sl' => ∃ k sl1, r.Spans text i sl k sl1 ∧ s.Spans text k sl1 j sl'
  | .alt r s, i, sl, j, sl' => r.Spans text i sl j sl' ∨ s.Spans text i sl j sl'
  | .capture n r, i, sl, j, sl' => ∃ sl1, r.Spans text i (sl.enter n i) j sl1 ∧ sl' = sl1.leave n j
  | .rep least most _ r, i, sl, j, sl' =>
    ∃ n, Allows least most n ∧ Copies (r.Spans text) n i sl j sl'

variable {text : List Char} {r s : Expr} {rs ss : List Expr} {i j k n : Nat} {sl sl' : Slots}

theorem Copies.le {step : Nat → Slots → Nat → Slots → Prop}
    (hstep : ∀ i sl j sl', step i sl j sl' → i ≤ j) (h : Copies step n i sl j sl') : i ≤ j := by
  induction n generalizing i sl with
  | zero => exact Nat.le_of_eq h.1.symm
  | succ n ih =>
    obtain ⟨k, sl1, h1, h2⟩ := h
    exact Nat.le_trans (hstep _ _ _ _ h1) (ih h2)

theorem Expr.Spans.le (h : r.Spans text i sl j sl') : i ≤ j := by
  induction r generalizing i sl j sl' with
  | empty => exact Nat.le_of_eq h.1.symm
  | oneOf s => exact h.2.1 ▸ Nat.le_succ i
  | look a => exact Nat.le_of_eq h.2.1.symm
  | cat r s ihr ihs =>
    obtain ⟨k, sl1, h1, h2⟩ := h
    exact Nat.le_trans (ihr h1) (ihs h2)
  | alt r s ihr ihs => exact h.elim ihr ihs
  | capture n r ih =>
    obtain ⟨sl1, h1, -⟩ := h
    exact ih h1
  | rep least most greedy r ih =>
    obtain ⟨n, -, h⟩ := h
    exact h.le fun _ _ _ _ => ih

theorem Copies.le_length {step : Nat → Slots → Nat → Slots → Prop}
    (hstep : ∀ i sl j sl', step i sl j sl' → i ≤ text.length → j ≤ text.length)
    (h : Copies step n i sl j sl') (hi : i ≤ text.length) : j ≤ text.length := by
  induction n generalizing i sl with
  | zero => exact h.1 ▸ hi
  | succ n ih =>
    obtain ⟨k, sl1, h1, h2⟩ := h
    exact ih h2 (hstep _ _ _ _ h1 hi)

theorem Expr.Spans.le_length (h : r.Spans text i sl j sl') (hi : i ≤ text.length) :
    j ≤ text.length := by
  induction r generalizing i sl j sl' with
  | empty => exact h.1 ▸ hi
  | oneOf s =>
    obtain ⟨⟨c, hc, -⟩, rfl, -⟩ := h
    exact (List.getElem?_eq_some_iff.mp hc).1
  | look a => exact h.2.1 ▸ hi
  | cat r s ihr ihs =>
    obtain ⟨k, sl1, h1, h2⟩ := h
    exact ihs h2 (ihr h1 hi)
  | alt r s ihr ihs => exact h.elim (ihr · hi) (ihs · hi)
  | capture n r ih =>
    obtain ⟨sl1, h1, -⟩ := h
    exact ih h1 hi
  | rep least most greedy r ih =>
    obtain ⟨n, -, h⟩ := h
    exact h.le_length (fun _ _ _ _ => ih) hi

theorem Copies.reslot {step : Nat → Slots → Nat → Slots → Prop}
    (hstep : ∀ i sl j sl', step i sl j sl' → ∀ sl2, ∃ sl2', step i sl2 j sl2')
    (h : Copies step n i sl j sl') (sl2 : Slots) : ∃ sl2', Copies step n i sl2 j sl2' := by
  induction n generalizing i sl sl2 with
  | zero => exact ⟨sl2, h.1, rfl⟩
  | succ n ih =>
    obtain ⟨k, sl1, h1, h2⟩ := h
    obtain ⟨sl3, h3⟩ := hstep _ _ _ _ h1 sl2
    obtain ⟨sl4, h4⟩ := ih h2 sl3
    exact ⟨sl4, k, sl3, h3, h4⟩

/-- Where a match can end does not depend on the groups so far. -/
theorem Expr.Spans.reslot (h : r.Spans text i sl j sl') (sl2 : Slots) :
    ∃ sl2', r.Spans text i sl2 j sl2' := by
  induction r generalizing i sl j sl' sl2 with
  | empty => exact ⟨sl2, h.1, rfl⟩
  | oneOf s => exact ⟨sl2, h.1, h.2.1, rfl⟩
  | look a => exact ⟨sl2, h.1, h.2.1, rfl⟩
  | cat r s ihr ihs =>
    obtain ⟨k, sl1, h1, h2⟩ := h
    obtain ⟨sl3, h3⟩ := ihr h1 sl2
    obtain ⟨sl4, h4⟩ := ihs h2 sl3
    exact ⟨sl4, k, sl3, h3, h4⟩
  | alt r s ihr ihs =>
    rcases h with h | h
    · obtain ⟨sl3, h3⟩ := ihr h sl2
      exact ⟨sl3, Or.inl h3⟩
    · obtain ⟨sl3, h3⟩ := ihs h sl2
      exact ⟨sl3, Or.inr h3⟩
  | capture n r ih =>
    obtain ⟨sl1, h1, -⟩ := h
    obtain ⟨sl3, h3⟩ := ih h1 (sl2.enter n i)
    exact ⟨sl3.leave n j, sl3, h3, rfl⟩
  | rep least most greedy r ih =>
    obtain ⟨n, hn, h⟩ := h
    have hr : ∀ i sl j sl', r.Spans text i sl j sl' → ∀ sl2, ∃ sl2', r.Spans text i sl2 j sl2' :=
      fun _ _ _ _ h => ih h
    obtain ⟨sl3, h3⟩ := h.reslot hr sl2
    exact ⟨sl3, n, hn, h3⟩

/-- The start of a text is only at its front. -/
theorem spans_textStart (hi : i ≤ text.length) :
    (Expr.look .textStart).Spans text i sl j sl' ↔ i = 0 ∧ j = i ∧ sl' = sl := by
  refine and_congr_left' ?_
  rw [Assertion.holds, Option.isNone_iff_eq_none, charBefore, List.getLast?_eq_none_iff,
    List.take_eq_nil_iff, or_iff_left_iff_imp]
  rintro rfl
  exact Nat.le_zero.mp hi

/-- The end of a text is only at its back. -/
theorem spans_textEnd (hi : i ≤ text.length) :
    (Expr.look .textEnd).Spans text i sl j sl' ↔ i = text.length ∧ j = i ∧ sl' = sl := by
  refine and_congr_left' ?_
  rw [Assertion.holds, Option.isNone_iff_eq_none, List.getElem?_eq_none_iff]
  exact ⟨fun h => Nat.le_antisymm hi h, fun h => Nat.le_of_eq h.symm⟩

/-- Expressions one after the other match if each matches where the one before has ended. -/
theorem spans_catOf_cons :
    (Expr.catOf (r :: rs)).Spans text i sl j sl' ↔
      ∃ k sl1, r.Spans text i sl k sl1 ∧ (Expr.catOf rs).Spans text k sl1 j sl' := by
  cases rs with
  | nil =>
    constructor
    · intro h
      exact ⟨j, sl', h, rfl, rfl⟩
    · rintro ⟨k, sl1, h, rfl, rfl⟩
      exact h
  | cons s rs => rfl

theorem spans_catOf_append :
    (Expr.catOf (rs ++ ss)).Spans text i sl j sl' ↔
      ∃ k sl1, (Expr.catOf rs).Spans text i sl k sl1 ∧ (Expr.catOf ss).Spans text k sl1 j sl' := by
  induction rs generalizing i sl with
  | nil =>
    constructor
    · intro h
      exact ⟨i, sl, ⟨rfl, rfl⟩, h⟩
    · rintro ⟨k, sl1, ⟨rfl, rfl⟩, h⟩
      exact h
  | cons r rs ih =>
    rw [List.cons_append, spans_catOf_cons]
    constructor
    · rintro ⟨k, sl1, h1, h2⟩
      obtain ⟨m, sl2, h3, h4⟩ := ih.mp h2
      exact ⟨m, sl2, spans_catOf_cons.mpr ⟨k, sl1, h1, h3⟩, h4⟩
    · rintro ⟨m, sl2, h1, h2⟩
      obtain ⟨k, sl1, h3, h4⟩ := spans_catOf_cons.mp h1
      exact ⟨k, sl1, h3, ih.mpr ⟨m, sl2, h4, h2⟩⟩

/-- One of several expressions matches if some one of them does. -/
theorem spans_altOf (hne : rs ≠ []) :
    (Expr.altOf rs).Spans text i sl j sl' ↔ ∃ r ∈ rs, r.Spans text i sl j sl' := by
  induction rs with
  | nil => exact absurd rfl hne
  | cons r rs ih =>
    cases rs with
    | nil => simp [Expr.altOf]
    | cons s rs =>
      rw [List.exists_mem_cons_iff, ← ih (by simp)]
      rfl

/-- Expressions between the start and the end of a text match nothing but the whole text. -/
theorem spans_anchored (hi : i ≤ text.length) :
    (Expr.catOf (.look .textStart :: (rs ++ [.look .textEnd]))).Spans text i sl j sl' ↔
      i = 0 ∧ j = text.length ∧ (Expr.catOf rs).Spans text i sl j sl' := by
  rw [spans_catOf_cons]
  simp only [spans_catOf_append, spans_textStart hi]
  constructor
  · rintro ⟨i, sl, ⟨rfl, rfl, rfl⟩, j, sl', hspan, hend⟩
    obtain ⟨rfl, rfl, rfl⟩ := (spans_textEnd (hspan.le_length hi)).mp hend
    exact ⟨rfl, rfl, hspan⟩
  · rintro ⟨rfl, rfl, hspan⟩
    exact ⟨0, sl, ⟨rfl, rfl, rfl⟩, text.length, sl', hspan,
      (spans_textEnd (Nat.le_refl _)).mpr ⟨rfl, rfl, rfl⟩⟩

end PhotoGrouping.Regex
