import PhotoGrouping.Proofs.Regex.Search

namespace PhotoGrouping.Regex

variable {text : List Char} {i j : Nat} {sl sl' : Slots} {r : Expr} {rs ss : List Expr}

section Concatenation

theorem andThen_assoc (moves : List Move) (ts us : List Task) (f g : Slots → List Move) :
    Move.andThen (Move.andThen moves ts f) us g =
      Move.andThen moves (ts ++ us) fun sl => Move.andThen (f sl) us g := by
  rw [Move.andThen, Move.andThen, List.flatMap_assoc, Move.andThen]
  apply List.flatMap_congr
  intro m _
  cases m with
  | pass sl => rfl
  | take s rest sl => simp

theorem tasksMoves_append {before after : Option Char} (ts us : List Task) (sl : Slots) :
    tasksMoves i before after (ts ++ us) sl =
      Move.andThen (tasksMoves i before after ts sl) us (tasksMoves i before after us) := by
  induction ts generalizing sl with
  | nil => simp [tasksMoves, Move.andThen]
  | cons t ts ih =>
    rw [List.cons_append, tasksMoves, tasksMoves, andThen_assoc]
    congr 1
    funext sl
    exact ih sl

theorem tasksMoves_singleton {before after : Option Char} (t : Task) (sl : Slots) :
    tasksMoves i before after [t] sl = t.moves i before after sl := by
  calc tasksMoves i before after [t] sl
      = (t.moves i before after sl).flatMap fun m => [m] := by
        rw [tasksMoves, Move.andThen]
        apply List.flatMap_congr
        intro m _
        cases m with
        | pass sl => rfl
        | take s rest sl => simp
    _ = t.moves i before after sl := List.flatMap_singleton' _

/-- Tasks after others go on from each of their ends. -/
theorem outcomes_append (ts us : List Task) (sl : Slots) :
    outcomes text i (ts ++ us) sl =
      (outcomes text i ts sl).flatMap fun e => outcomes text e.1 us e.2 := by
  induction hn : text.length - i using Nat.strongRecOn generalizing i ts sl with
  | _ n ih =>
    rw [outcomes_eq, outcomes_eq, tasksMoves_append, Move.andThen, List.flatMap_assoc,
      List.flatMap_assoc]
    apply List.flatMap_congr
    intro m _
    cases m with
    | pass sl => simp [Move.outcomes, outcomes_eq]
    | take s rest sl =>
      rw [List.flatMap_singleton, Move.outcomes, Move.outcomes]
      by_cases hi : i < text.length
      · rw [dif_pos hi, dif_pos hi]
        by_cases hs : s.contains text[i] = true
        · rw [if_pos hs, if_pos hs]
          exact ih (text.length - (i + 1)) (by omega) rest sl rfl
        · rw [if_neg hs, if_neg hs]
          rfl
      · rw [dif_neg hi, dif_neg hi]
        rfl

theorem outcomes_cat (r s : Expr) (sl : Slots) :
    outcomes text i [.expr (.cat r s)] sl =
      (outcomes text i [.expr r] sl).flatMap fun e => outcomes text e.1 [.expr s] e.2 := by
  rw [← outcomes_append, outcomes_eq, outcomes_eq, tasksMoves_append, tasksMoves_singleton,
    tasksMoves_singleton, funext (tasksMoves_singleton (.expr s))]
  rfl

theorem outcomes_capture (n : Nat) (r : Expr) (sl : Slots) :
    outcomes text i [.expr (.capture n r)] sl =
      (outcomes text i [.expr r] (sl.enter n i)).map fun e => (e.1, e.2.leave n e.1) := by
  have hleave (e : Nat × Slots) : outcomes text e.1 [.leave n] e.2 = [(e.1, e.2.leave n e.1)] := by
    rw [outcomes_eq, tasksMoves_singleton]
    rfl
  have hends : outcomes text i [.expr (.capture n r)] sl =
      outcomes text i ([.expr r] ++ [.leave n]) (sl.enter n i) := by
    rw [outcomes_eq, outcomes_eq, tasksMoves_append, tasksMoves_singleton, tasksMoves_singleton,
      funext (tasksMoves_singleton (.leave n))]
    rfl
  rw [hends, outcomes_append, List.flatMap_congr fun e _ => hleave e]
  exact List.flatMap_pure_eq_map _ _

theorem outcomes_empty (sl : Slots) : outcomes text i [.expr .empty] sl = [(i, sl)] := by
  rw [outcomes_eq, tasksMoves_singleton]
  rfl

theorem outcomes_catOf_cons (r : Expr) (rs : List Expr) (sl : Slots) :
    outcomes text i [.expr (Expr.catOf (r :: rs))] sl =
      (outcomes text i [.expr r] sl).flatMap fun e => outcomes text e.1 [.expr (Expr.catOf rs)] e.2 := by
  cases rs with
  | nil =>
    have hempty (e : Nat × Slots) : outcomes text e.1 [.expr (Expr.catOf [])] e.2 = [e] :=
      outcomes_empty e.2
    rw [List.flatMap_congr fun e _ => hempty e, List.flatMap_singleton']
    rfl
  | cons s rs => exact outcomes_cat r (Expr.catOf (s :: rs)) sl

theorem outcomes_catOf_append (rs ss : List Expr) (sl : Slots) :
    outcomes text i [.expr (Expr.catOf (rs ++ ss))] sl =
      (outcomes text i [.expr (Expr.catOf rs)] sl).flatMap
        fun e => outcomes text e.1 [.expr (Expr.catOf ss)] e.2 := by
  induction rs generalizing i sl with
  | nil =>
    rw [Expr.catOf, outcomes_empty]
    exact (List.flatMap_singleton _ _).symm
  | cons r rs ih =>
    rw [List.cons_append, outcomes_catOf_cons, outcomes_catOf_cons, List.flatMap_assoc]
    exact List.flatMap_congr fun e _ => ih e.2

end Concatenation

section Preferring

/-- Whether the end of a match of an expression from a position is the preferred one. -/
def Expr.Prefers (text : List Char) (r : Expr) (i : Nat) (sl : Slots) (j : Nat) (sl' : Slots) : Prop :=
  (outcomes text i [.expr r] sl).head? = some (j, sl')

theorem spans_of_mem_outcomes (h : (j, sl') ∈ outcomes text i [.expr r] sl) :
    r.Spans text i sl j sl' :=
  tasksSpan_singleton.mp (tasksSpan_of_mem_outcomes h)

theorem exists_mem_outcomes_of_spans (h : r.Spans text i sl j sl') (sl1 : Slots) :
    ∃ sl2, (j, sl2) ∈ outcomes text i [.expr r] sl1 := by
  have htasks : TasksSpan text [.expr r] i sl j sl' := tasksSpan_singleton.mpr h
  exact exists_mem_outcomes htasks sl1

theorem Expr.Prefers.spans (h : r.Prefers text i sl j sl') : r.Spans text i sl j sl' :=
  spans_of_mem_outcomes (List.mem_of_head? h)

/-- Ahead of a preferred end are only dead ends. -/
theorem exists_first {xs : List (Nat × Slots)} {f : Nat × Slots → List (Nat × Slots)}
    {e : Nat × Slots} (h : (xs.flatMap f).head? = some e) :
    ∃ front x back, xs = front ++ x :: back ∧ (∀ y ∈ front, f y = []) ∧ (f x).head? = some e := by
  rw [List.head?_flatMap, List.findSome?_eq_some_iff] at h
  obtain ⟨front, x, back, rfl, hx, hfront⟩ := h
  exact ⟨front, x, back, rfl, fun y hy => List.head?_eq_none_iff.mp (hfront y hy), hx⟩

/-- Whether an expression prefers to take more characters to taking fewer. -/
def Expr.LongestFirst (r : Expr) : Prop :=
  ∀ (text : List Char) (i : Nat) (sl : Slots),
    (outcomes text i [.expr r] sl).Pairwise fun e f => f.1 < e.1

/-- The first ones of several expressions lead to where the rest prefer to go on; if they prefer to take
more characters, they take as many as leave the rest something to match. -/
theorem Expr.Prefers.catOf_append (h : (Expr.catOf (rs ++ ss)).Prefers text i sl j sl') :
    ∃ k sl1, (Expr.catOf rs).Spans text i sl k sl1 ∧ (Expr.catOf ss).Prefers text k sl1 j sl' ∧
      ((Expr.catOf rs).LongestFirst → ∀ m sl2, k < m → (Expr.catOf rs).Spans text i sl m sl2 →
        ∀ n sl3, ¬ (Expr.catOf ss).Spans text m sl2 n sl3) := by
  rw [Expr.Prefers, outcomes_catOf_append] at h
  obtain ⟨front, x, back, hends, hfront, hx⟩ := exists_first h
  have hmem : x ∈ outcomes text i [.expr (Expr.catOf rs)] sl := by simp [hends]
  refine ⟨x.1, x.2, spans_of_mem_outcomes hmem, hx, ?_⟩
  intro hlongest m sl2 hlt hspan n sl3 hrest
  obtain ⟨sl4, hm⟩ := exists_mem_outcomes_of_spans hspan sl
  obtain ⟨sl5, hn⟩ := exists_mem_outcomes_of_spans hrest sl4
  have hsorted := hlongest text i sl
  rw [hends] at hm hsorted
  -- A longer match comes earlier, but nothing that comes earlier goes on to an end.
  obtain hm | hm := List.mem_append.mp hm
  · have hnil := hfront _ hm
    rw [hnil] at hn
    cases hn
  · obtain hm | hm := List.mem_cons.mp hm
    · rw [← hm] at hlt
      exact absurd hlt (Nat.lt_irrefl m)
    · have hback := List.rel_of_pairwise_cons (List.pairwise_append.mp hsorted).2.1 hm
      exact absurd hlt (Nat.lt_asymm hback)

theorem Expr.Prefers.catOf_cons (h : (Expr.catOf (r :: rs)).Prefers text i sl j sl') :
    ∃ k sl1, r.Spans text i sl k sl1 ∧ (Expr.catOf rs).Prefers text k sl1 j sl' ∧
      (r.LongestFirst → ∀ m sl2, k < m → r.Spans text i sl m sl2 →
        ∀ n sl3, ¬ (Expr.catOf rs).Spans text m sl2 n sl3) := by
  have happend : (Expr.catOf ([r] ++ rs)).Prefers text i sl j sl' := h
  exact happend.catOf_append

theorem Expr.LongestFirst.capture (h : r.LongestFirst) (n : Nat) :
    (Expr.capture n r).LongestFirst := by
  intro text i sl
  rw [outcomes_capture, List.pairwise_map]
  exact h text i (sl.enter n i)

variable {chars : CharClass}

theorem outcomes_again (chars : CharClass) (sl : Slots) :
    outcomes text i [.again true (.oneOf chars)] sl =
      (Move.take chars [.again true (.oneOf chars)] sl).outcomes text i ++ [(i, sl)] := by
  rw [outcomes_eq, tasksMoves_singleton]
  rfl

theorem outcomes_run (chars : CharClass) (sl : Slots) :
    outcomes text i [.expr (.rep 1 none true (.oneOf chars))] sl =
      (Move.take chars [.again true (.oneOf chars)] sl).outcomes text i := by
  rw [outcomes_eq, tasksMoves_singleton]
  exact List.flatMap_singleton _ _

/-- More copies of a set are preferred to fewer. -/
theorem pairwise_outcomes_again (text : List Char) (i : Nat) (chars : CharClass) (sl : Slots) :
    (outcomes text i [.again true (.oneOf chars)] sl).Pairwise fun e f => f.1 < e.1 := by
  induction hn : text.length - i using Nat.strongRecOn generalizing i with
  | _ n ih =>
    rw [outcomes_again, Move.outcomes]
    by_cases hi : i < text.length
    · rw [dif_pos hi]
      by_cases hs : chars.contains text[i] = true
      · rw [if_pos hs, List.pairwise_append]
        refine ⟨ih (text.length - (i + 1)) (by omega) (i + 1) rfl, List.pairwise_singleton _ _, ?_⟩
        intro e he f hf
        rw [List.mem_singleton.mp hf]
        exact (tasksSpan_of_mem_outcomes he).le
      · rw [if_neg hs]
        exact List.pairwise_singleton _ _
    · rw [dif_neg hi]
      exact List.pairwise_singleton _ _

theorem longestFirst_some (chars : CharClass) :
    (Expr.rep 1 none true (.oneOf chars)).LongestFirst := by
  intro text i sl
  have hagain := pairwise_outcomes_again text i chars sl
  rw [outcomes_again, List.pairwise_append] at hagain
  rw [outcomes_run]
  exact hagain.1

theorem longestFirst_any (chars : CharClass) :
    (Expr.rep 0 none true (.oneOf chars)).LongestFirst := by
  intro text i sl
  have hagain : outcomes text i [.expr (.rep 0 none true (.oneOf chars))] sl =
      outcomes text i [.again true (.oneOf chars)] sl := by
    rw [outcomes_eq, outcomes_eq, tasksMoves_singleton, tasksMoves_singleton]
    rfl
  rw [hagain]
  exact pairwise_outcomes_again text i chars sl

/-- What a search finds is the preferred match of the whole expression, with its start and end as
group 0. -/
theorem search_prefers {regex : Regex} (h : regex.search text = some sl) :
    ∃ i j sl1, i ≤ text.length ∧
      regex.expr.Prefers text i ((Slots.none (regex.captureCount + 1)).enter 0 i) j sl1 ∧
      sl = sl1.leave 0 j := by
  rw [search_eq_first] at h
  obtain ⟨i, hi, hfirst⟩ := List.exists_of_findSome?_eq_some h
  rw [firstSlots, outcomes_capture, List.head?_map, Option.map_map, Option.map_eq_some_iff] at hfirst
  obtain ⟨e, he, rfl⟩ := hfirst
  have hi := (List.mem_range'_1.mp hi).2
  exact ⟨i, e.1, e.2, by omega, he, rfl⟩

end Preferring

end PhotoGrouping.Regex
