import PhotoGrouping.Proofs.Regex.Moves

namespace PhotoGrouping.Regex

/-- The ends that tasks can come to from a position of a text, with the groups there, in order of
preference. -/
def outcomes (text : List Char) (i : Nat) (ts : List Task) (sl : Slots) : List (Nat × Slots) :=
  (tasksMoves i (charBefore text i) text[i]? ts sl).flatMap fun
    | .pass sl' => [(i, sl')]
    | .take s rest sl' =>
      if h : i < text.length then
        if s.contains text[i] then outcomes text (i + 1) rest sl' else []
      else []
  termination_by text.length - i

/-- The ends that a move at a position can lead to, in order of preference. -/
def Move.outcomes (text : List Char) (i : Nat) : Move → List (Nat × Slots)
  | .pass sl' => [(i, sl')]
  | .take s rest sl' =>
    if h : i < text.length then
      if s.contains text[i] then Regex.outcomes text (i + 1) rest sl' else []
    else []

/-- The groups at the first one of some ends. -/
def firstSlots (ends : List (Nat × Slots)) : Option Slots :=
  ends.head?.map (·.2)

variable {text : List Char} {i j : Nat} {sl sl' : Slots} {ts : List Task} {moves : List Move}
variable {threads : List Thread} {c : Char}

theorem outcomes_eq (text : List Char) (i : Nat) (ts : List Task) (sl : Slots) :
    outcomes text i ts sl =
      (tasksMoves i (charBefore text i) text[i]? ts sl).flatMap (Move.outcomes text i) := by
  rw [outcomes]
  apply List.flatMap_congr
  intro m _
  cases m with
  | pass sl => rfl
  | take s rest sl => rfl

theorem leads_of_mem_outcomes {m : Move}
    (hnext : ∀ rest sl, i < text.length → (j, sl') ∈ outcomes text (i + 1) rest sl →
      TasksSpan text rest (i + 1) sl j sl')
    (h : (j, sl') ∈ m.outcomes text i) : m.Leads text i j sl' := by
  cases m with
  | pass sl => exact Prod.mk.inj (List.mem_singleton.mp h)
  | take s rest sl =>
    rw [Move.outcomes] at h
    split at h
    · rename_i hi
      split at h
      · rename_i hs
        exact ⟨⟨text[i], List.getElem?_eq_getElem hi, hs⟩, hnext rest sl hi h⟩
      · cases h
    · cases h

/-- Tasks come only to ends that they can match up to. -/
theorem tasksSpan_of_mem_outcomes (h : (j, sl') ∈ outcomes text i ts sl) :
    TasksSpan text ts i sl j sl' := by
  induction hn : text.length - i using Nat.strongRecOn generalizing i ts sl with
  | _ n ih =>
    rw [outcomes_eq] at h
    obtain ⟨m, hm, hend⟩ := List.mem_flatMap.mp h
    apply sound_tasksMoves ts sl j sl'
    refine ⟨m, hm, leads_of_mem_outcomes ?_ hend⟩
    intro rest sl hi hrest
    exact ih (text.length - (i + 1)) (by omega) hrest rfl

/-- Tasks come to all ends that they can match up to. -/
theorem exists_mem_outcomes (h : TasksSpan text ts i sl j sl') (sl1 : Slots) :
    ∃ sl2, (j, sl2) ∈ outcomes text i ts sl1 := by
  induction hn : text.length - i using Nat.strongRecOn generalizing i ts sl sl' sl1 with
  | _ n ih =>
    obtain ⟨sl2, m, hm, hl⟩ := complete_tasksMoves ts sl j sl' h sl1
    suffices hend : ∃ sl3, (j, sl3) ∈ m.outcomes text i by
      obtain ⟨sl3, hend⟩ := hend
      rw [outcomes_eq]
      exact ⟨sl3, List.mem_flatMap.mpr ⟨m, hm, hend⟩⟩
    cases m with
    | pass sl3 =>
      obtain ⟨rfl, rfl⟩ := hl
      exact ⟨sl2, List.mem_singleton.mpr rfl⟩
    | take s rest sl3 =>
      obtain ⟨⟨c, hc, hs⟩, hrest⟩ := hl
      obtain ⟨hi, rfl⟩ := List.getElem?_eq_some_iff.mp hc
      obtain ⟨sl4, hend⟩ := ih (text.length - (i + 1)) (by omega) hrest sl3 rfl
      refine ⟨sl4, ?_⟩
      rw [Move.outcomes, dif_pos hi, if_pos hs]
      exact hend

/-- Whether tasks come to an end does not depend on the groups so far. -/
theorem outcomes_eq_nil (h : outcomes text i ts sl = []) (sl1 : Slots) :
    outcomes text i ts sl1 = [] := by
  rw [List.eq_nil_iff_forall_not_mem]
  intro (j, sl2) hend
  obtain ⟨sl3, hend'⟩ := exists_mem_outcomes (tasksSpan_of_mem_outcomes hend) sl
  rw [h] at hend'
  cases hend'

theorem firstSlots_append (xs ys : List (Nat × Slots)) :
    firstSlots (xs ++ ys) = (firstSlots xs).or (firstSlots ys) := by
  cases xs with
  | nil => rfl
  | cons x xs => rfl

/-- Moves after the first pass lead to nothing that is preferred to it. -/
theorem firstSlots_upToPass (moves : List Move) :
    firstSlots (moves.flatMap (Move.outcomes text i)) =
      (firstSlots ((upToPass moves).1.flatMap (Move.outcomes text i))).or (upToPass moves).2 := by
  induction moves with
  | nil => rfl
  | cons m rest ih =>
    cases m with
    | pass sl => rfl
    | take s tasks sl =>
      rw [List.flatMap_cons, firstSlots_append, ih, ← Option.or_assoc, ← firstSlots_append]
      rfl

theorem takes_of_mem_upToPass {m : Move} (h : m ∈ (upToPass moves).1) : m.takes = true := by
  induction moves with
  | nil => cases h
  | cons m' rest ih =>
    cases m' with
    | pass sl => cases h
    | take s tasks sl =>
      obtain rfl | h := List.mem_cons.mp h
      · rfl
      · exact ih h

/-- The threads after a character with those of one more move. -/
def advanceStep (c : Char) (threads : List Thread) : Move → List Thread
  | .take s tasks sl =>
    if s.contains c && !threads.any (fun t => t.tasks == tasks) then threads ++ [⟨tasks, sl⟩]
    else threads
  | .pass _ => threads

theorem advance_eq_foldl (c : Char) (moves : List Move) :
    advance c moves = moves.foldl (advanceStep c) [] := by
  unfold advance
  congr 1

/-- The moves of threads at a position between its neighbours. -/
def threadsMoves (pos : Nat) (before after : Option Char) (threads : List Thread) : List Move :=
  threads.flatMap fun t => tasksMoves pos before after t.tasks t.slots

/-- The ends that threads at a position can come to, in order of preference. -/
def threadsOutcomes (text : List Char) (i : Nat) (threads : List Thread) : List (Nat × Slots) :=
  threads.flatMap fun t => outcomes text i t.tasks t.slots

theorem threadsOutcomes_eq (text : List Char) (i : Nat) (threads : List Thread) :
    threadsOutcomes text i threads =
      (threadsMoves i (charBefore text i) text[i]? threads).flatMap (Move.outcomes text i) := by
  rw [threadsOutcomes, threadsMoves, List.flatMap_assoc]
  apply List.flatMap_congr
  intro t _
  exact outcomes_eq text i t.tasks t.slots

/-- A thread that is left out for one with the same tasks would not come to an end first. -/
theorem firstSlots_advance (hc : text[i]? = some c) (htakes : ∀ m ∈ moves, m.takes = true) :
    firstSlots (threadsOutcomes text (i + 1) (advance c moves)) =
      firstSlots (moves.flatMap (Move.outcomes text i)) := by
  rw [advance_eq_foldl]
  -- The induction is over the moves from any threads that earlier moves have left.
  suffices hacc : ∀ acc : List Thread,
      firstSlots (threadsOutcomes text (i + 1) (moves.foldl (advanceStep c) acc)) =
        (firstSlots (threadsOutcomes text (i + 1) acc)).or
          (firstSlots (moves.flatMap (Move.outcomes text i))) by
    exact hacc []
  obtain ⟨hi, rfl⟩ := List.getElem?_eq_some_iff.mp hc
  induction moves with
  | nil =>
    intro acc
    exact (Option.or_none).symm
  | cons m rest ih =>
    intro acc
    have hrest := ih fun m hm => htakes m (List.mem_cons_of_mem _ hm)
    rw [List.foldl_cons, hrest, List.flatMap_cons, firstSlots_append, ← Option.or_assoc]
    congr 1
    cases m with
    | pass sl => cases htakes (.pass sl) List.mem_cons_self
    | take s tasks sl =>
      have hends : Move.outcomes text i (.take s tasks sl) =
          if s.contains text[i] then outcomes text (i + 1) tasks sl else [] := by
        rw [Move.outcomes, dif_pos hi]
      rw [hends, advanceStep]
      by_cases hs : s.contains text[i] = true
      · rw [if_pos hs, hs, Bool.true_and]
        by_cases hsame : acc.any (fun t => t.tasks == tasks) = true
        · rw [hsame, if_neg (by simp)]
          obtain ⟨t, ht, htasks⟩ := List.any_eq_true.mp hsame
          obtain rfl := eq_of_beq htasks
          cases hfirst : firstSlots (threadsOutcomes text (i + 1) acc) with
          | some sl1 => rfl
          | none =>
            have hnil : threadsOutcomes text (i + 1) acc = [] := by
              rw [firstSlots, Option.map_eq_none_iff, List.head?_eq_none_iff] at hfirst
              exact hfirst
            rw [threadsOutcomes, List.flatMap_eq_nil_iff] at hnil
            rw [outcomes_eq_nil (hnil t ht) sl]
            rfl
        · rw [Bool.not_eq_true] at hsame
          rw [hsame, Bool.not_false, if_pos rfl, threadsOutcomes, List.flatMap_append,
            firstSlots_append]
          simp [threadsOutcomes]
      · rw [if_neg hs, if_neg (by simp [hs])]
        exact (Option.or_none).symm

/-- Where a search stands in a text: at a position with the characters before and after it. -/
structure StandsAt (text : List Char) (pos : Nat) (before : Option Char) (rest : List Char) :
    Prop where
  le_length : pos ≤ text.length
  before_eq : before = charBefore text pos
  rest_eq : rest = text.drop pos

theorem StandsAt.after_eq {pos : Nat} {before : Option Char} {rest : List Char}
    (h : StandsAt text pos before rest) : rest.head? = text[pos]? := by
  rw [h.rest_eq, List.head?_drop]

theorem StandsAt.step {pos : Nat} {before : Option Char} {c : Char} {rest : List Char}
    (h : StandsAt text pos before (c :: rest)) : StandsAt text (pos + 1) (some c) rest := by
  have hc : text[pos]? = some c := h.after_eq.symm
  have hlt : pos < text.length := (List.getElem?_eq_some_iff.mp hc).1
  refine ⟨hlt, ?_, ?_⟩
  · rw [charBefore, List.take_add_one, hc]
    simp
  · rw [← List.drop_drop, ← h.rest_eq]
    rfl

variable {start : Thread} {found : Option Slots} {pos : Nat} {before : Option Char}
  {rest : List Char}

/-- The threads at a position: a match may begin there until one is found. -/
def withStart (start : Thread) (threads : List Thread) (found : Option Slots) : List Thread :=
  if found.isNone then threads ++ [start] else threads

theorem searchFrom_nil :
    searchFrom start before pos [] threads found =
      ((upToPass (threadsMoves pos before none (withStart start threads found))).2 <|> found) := rfl

theorem searchFrom_cons {c : Char} {moves : List Move} {ended : Option Slots}
    (h : upToPass (threadsMoves pos before (some c) (withStart start threads found)) = (moves, ended)) :
    searchFrom start before pos (c :: rest) threads found =
      if (ended <|> found).isSome && (advance c moves).isEmpty then ended <|> found
      else searchFrom start (some c) (pos + 1) rest (advance c moves) (ended <|> found) := by
  unfold threadsMoves withStart at h
  simp only [searchFrom, h]

/-- What a match that begins at a position or a later one finds first. -/
def firstFrom (text : List Char) (start : Thread) (pos count : Nat) : Option Slots :=
  (List.range' pos count).findSome? fun i => firstSlots (outcomes text i start.tasks start.slots)

theorem firstFrom_succ (text : List Char) (start : Thread) (pos count : Nat) :
    firstFrom text start pos (count + 1) =
      (firstSlots (outcomes text pos start.tasks start.slots)).or
        (firstFrom text start (pos + 1) count) := by
  rw [firstFrom, List.range'_succ, List.findSome?_cons]
  cases firstSlots (outcomes text pos start.tasks start.slots) with
  | none => rfl
  | some sl => rfl

theorem firstSlots_withStart (text : List Char) (pos count : Nat) :
    (firstSlots (threadsOutcomes text pos (withStart start threads found))).or
        (found.or (firstFrom text start (pos + 1) count)) =
      (firstSlots (threadsOutcomes text pos threads)).or
        (found.or (firstFrom text start pos (count + 1))) := by
  cases found with
  | some sl => rfl
  | none =>
    have hthreads : threadsOutcomes text pos (withStart start threads none) =
        threadsOutcomes text pos threads ++ outcomes text pos start.tasks start.slots := by
      simp [withStart, threadsOutcomes]
    rw [hthreads, firstSlots_append, firstFrom_succ, Option.none_or, Option.none_or, Option.or_assoc]

/-- A search finds the groups at the end that is preferred: of a thread before those of later threads,
and of a match before those of matches that begin later. -/
theorem searchFrom_eq_first (hat : StandsAt text pos before rest) :
    searchFrom start before pos rest threads found =
      (firstSlots (threadsOutcomes text pos threads)).or
        (found.or (firstFrom text start pos (rest.length + 1))) := by
  induction rest generalizing pos before threads found with
  | nil =>
    have hnone : text[pos]? = none := hat.after_eq.symm
    have hlast : ∀ m ∈ (upToPass (threadsMoves pos before none (withStart start threads found))).1,
        m.outcomes text pos = [] := by
      intro m hm
      cases m with
      | pass sl => cases takes_of_mem_upToPass hm
      | take s tasks sl =>
        rw [Move.outcomes, dif_neg]
        exact Nat.not_lt.mpr (List.getElem?_eq_none_iff.mp hnone)
    rw [List.length_nil, ← firstSlots_withStart, threadsOutcomes_eq, hnone, ← hat.before_eq,
      firstSlots_upToPass, List.flatMap_eq_nil_iff.mpr hlast, searchFrom_nil]
    simp [firstSlots, firstFrom]
  | cons c rest ih =>
    have hc : text[pos]? = some c := hat.after_eq.symm
    rw [List.length_cons, ← firstSlots_withStart, threadsOutcomes_eq, hc, ← hat.before_eq,
      firstSlots_upToPass]
    cases hu : upToPass (threadsMoves pos before (some c) (withStart start threads found)) with
    | mk ms ended =>
      have htakes : ∀ m ∈ ms, m.takes = true := by
        intro m hm
        rw [show ms = _ from (congrArg Prod.fst hu).symm] at hm
        exact takes_of_mem_upToPass hm
      have hor : (ended <|> found) = ended.or found := Option.orElse_eq_or
      rw [searchFrom_cons hu, ← firstSlots_advance hc htakes, ih hat.step, hor]
      simp only [Option.or_assoc]
      split
      · -- No thread is left, and what has been found is not given up for a later match.
        rename_i hdone
        obtain ⟨hfound, hempty⟩ := Bool.and_eq_true_iff.mp hdone
        rw [List.isEmpty_iff.mp hempty]
        cases ended with
        | some sl => rfl
        | none =>
          cases found with
          | some sl => rfl
          | none => cases hfound
      · rfl

/-- A search finds the groups at the preferred end of the first match. -/
theorem search_eq_first (regex : Regex) (text : List Char) :
    regex.search text = firstFrom text
      ⟨[.expr (.capture 0 regex.expr)], .none (regex.captureCount + 1)⟩ 0 (text.length + 1) := by
  have hat : StandsAt text 0 none text := ⟨Nat.zero_le _, by simp [charBefore], by simp⟩
  exact searchFrom_eq_first hat

/-- What a search finds is a match of the whole expression, with its start and end as group 0. -/
theorem search_sound {regex : Regex} {text : List Char} {sl : Slots}
    (h : regex.search text = some sl) :
    ∃ i j sl1, i ≤ text.length ∧
      regex.expr.Spans text i ((Slots.none (regex.captureCount + 1)).enter 0 i) j sl1 ∧
      sl = sl1.leave 0 j := by
  rw [search_eq_first] at h
  obtain ⟨i, hi, hfirst⟩ := List.exists_of_findSome?_eq_some h
  obtain ⟨e, he, rfl⟩ := Option.map_eq_some_iff.mp hfirst
  have hspan := tasksSpan_of_mem_outcomes (List.mem_of_head? he)
  obtain ⟨sl1, h1, h2⟩ := tasksSpan_singleton.mp hspan
  have hi := (List.mem_range'_1.mp hi).2
  exact ⟨i, e.1, sl1, by omega, h1, h2⟩

/-- A search finds a match if the expression can match anywhere. -/
theorem search_complete {regex : Regex} {text : List Char} {i j : Nat} {sl sl' : Slots}
    (hi : i ≤ text.length) (h : regex.expr.Spans text i sl j sl') :
    (regex.search text).isSome = true := by
  obtain ⟨sl1, h1⟩ := h.reslot ((Slots.none (regex.captureCount + 1)).enter 0 i)
  have hspan : TasksSpan text [.expr (.capture 0 regex.expr)] i (.none (regex.captureCount + 1)) j
      (sl1.leave 0 j) := tasksSpan_singleton.mpr ⟨sl1, h1, rfl⟩
  obtain ⟨sl2, hend⟩ := exists_mem_outcomes hspan (.none (regex.captureCount + 1))
  rw [search_eq_first, firstFrom, List.findSome?_isSome_iff]
  refine ⟨i, List.mem_range'_1.mpr ⟨Nat.zero_le i, by omega⟩, ?_⟩
  rw [firstSlots, Option.isSome_map, List.isSome_head?]
  simpa using List.ne_nil_of_mem hend

/-- A pattern matches a text if and only if its expression can match somewhere in it. -/
theorem search_isSome_iff {regex : Regex} {text : List Char} {sl : Slots} :
    (regex.search text).isSome = true ↔
      ∃ i j sl', i ≤ text.length ∧ regex.expr.Spans text i sl j sl' := by
  constructor
  · intro h
    obtain ⟨sl2, h2⟩ := Option.isSome_iff_exists.mp h
    obtain ⟨i, j, sl1, hi, h1, -⟩ := search_sound h2
    obtain ⟨sl3, h3⟩ := h1.reslot sl
    exact ⟨i, j, sl3, hi, h3⟩
  · rintro ⟨i, j, sl', hi, h⟩
    exact search_complete hi h

end PhotoGrouping.Regex
