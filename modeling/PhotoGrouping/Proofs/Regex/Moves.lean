import PhotoGrouping.Proofs.Regex.Spans

namespace PhotoGrouping.Regex

/-- Whether a task can match a text between two positions. -/
def Task.Spans (text : List Char) : Task → Nat → Slots → Nat → Slots → Prop
  | .expr r, i, sl, j, sl' => r.Spans text i sl j sl'
  | .again _ r, i, sl, j, sl' => ∃ n, Copies (r.Spans text) n i sl j sl'
  | .leave n, i, sl, j, sl' => j = i ∧ sl' = sl.leave n i

/-- Whether tasks one after the other can match a text between two positions. -/
def TasksSpan (text : List Char) : List Task → Nat → Slots → Nat → Slots → Prop
  | [], i, sl, j, sl' => j = i ∧ sl' = sl
  | t :: ts, i, sl, j, sl' => ∃ k sl1, t.Spans text i sl k sl1 ∧ TasksSpan text ts k sl1 j sl'

/-- Whether a move at a position can lead to the end of a match. -/
def Move.Leads (text : List Char) (i : Nat) : Move → Nat → Slots → Prop
  | .pass sl, j, sl' => j = i ∧ sl' = sl
  | .take s tasks sl, j, sl' => TakesAt text s i ∧ TasksSpan text tasks (i + 1) sl j sl'

/-- Whether some of the moves at a position can lead to the end of a match. -/
def Lead (text : List Char) (i : Nat) (moves : List Move) (j : Nat) (sl' : Slots) : Prop :=
  ∃ m ∈ moves, m.Leads text i j sl'

/-- Moves lead only to ends that a relation allows from some groups. -/
def Sound (text : List Char) (i : Nat) (part : Slots → List Move)
    (rel : Nat → Slots → Nat → Slots → Prop) : Prop :=
  ∀ sl j sl', Lead text i (part sl) j sl' → rel i sl j sl'

/-- Moves lead to all ends that a relation allows. -/
def Complete (text : List Char) (i : Nat) (part : Slots → List Move)
    (rel : Nat → Slots → Nat → Slots → Prop) : Prop :=
  ∀ sl j sl', rel i sl j sl' → ∀ sl2, ∃ sl2', Lead text i (part sl2) j sl2'

variable {text : List Char} {i j k n : Nat} {sl sl' sl1 : Slots} {r : Expr}
  {moves : List Move} {tasks ts us : List Task} {next part : Slots → List Move}
  {rel : Nat → Slots → Nat → Slots → Prop}

theorem tasksSpan_singleton {t : Task} :
    TasksSpan text [t] i sl j sl' ↔ t.Spans text i sl j sl' := by
  constructor
  · rintro ⟨k, sl1, h, rfl, rfl⟩
    exact h
  · intro h
    exact ⟨j, sl', h, rfl, rfl⟩

theorem tasksSpan_append :
    TasksSpan text (ts ++ us) i sl j sl' ↔
      ∃ k sl1, TasksSpan text ts i sl k sl1 ∧ TasksSpan text us k sl1 j sl' := by
  induction ts generalizing i sl with
  | nil =>
    constructor
    · intro h
      exact ⟨i, sl, ⟨rfl, rfl⟩, h⟩
    · rintro ⟨k, sl1, ⟨rfl, rfl⟩, h⟩
      exact h
  | cons t ts ih =>
    constructor
    · rintro ⟨k, sl1, h1, h2⟩
      obtain ⟨m, sl2, h3, h4⟩ := ih.mp h2
      exact ⟨m, sl2, ⟨k, sl1, h1, h3⟩, h4⟩
    · rintro ⟨m, sl2, ⟨k, sl1, h1, h3⟩, h4⟩
      exact ⟨k, sl1, h1, ih.mpr ⟨m, sl2, h3, h4⟩⟩

theorem Task.Spans.le {t : Task} (h : t.Spans text i sl j sl') : i ≤ j := by
  cases t with
  | expr r => exact Expr.Spans.le h
  | again greedy r =>
    obtain ⟨n, h⟩ := h
    exact h.le fun _ _ _ _ h => h.le
  | leave n => exact Nat.le_of_eq h.1.symm

theorem TasksSpan.le (h : TasksSpan text ts i sl j sl') : i ≤ j := by
  induction ts generalizing i sl with
  | nil => exact Nat.le_of_eq h.1.symm
  | cons t ts ih =>
    obtain ⟨k, sl1, h1, h2⟩ := h
    exact Nat.le_trans h1.le (ih h2)

theorem Task.Spans.reslot {t : Task} (h : t.Spans text i sl j sl') (sl2 : Slots) :
    ∃ sl2', t.Spans text i sl2 j sl2' := by
  cases t with
  | expr r => exact Expr.Spans.reslot h sl2
  | again greedy r =>
    obtain ⟨n, h⟩ := h
    obtain ⟨sl3, h3⟩ := h.reslot (fun _ _ _ _ h => h.reslot) sl2
    exact ⟨sl3, n, h3⟩
  | leave n => exact ⟨sl2.leave n i, h.1, rfl⟩

theorem TasksSpan.reslot (h : TasksSpan text ts i sl j sl') (sl2 : Slots) :
    ∃ sl2', TasksSpan text ts i sl2 j sl2' := by
  induction ts generalizing i sl sl2 with
  | nil => exact ⟨sl2, h.1, rfl⟩
  | cons t ts ih =>
    obtain ⟨k, sl1, h1, h2⟩ := h
    obtain ⟨sl3, h3⟩ := h1.reslot sl2
    obtain ⟨sl4, h4⟩ := ih h2 sl3
    exact ⟨sl4, k, sl3, h3, h4⟩

theorem Lead.of_onePass (h : Lead text i (Move.onePass moves) j sl') :
    Lead text i moves j sl' := by
  induction moves with
  | nil => exact h
  | cons m rest ih =>
    obtain ⟨m', hm, hl⟩ := h
    cases m with
    | pass sl =>
      rcases List.mem_cons.mp hm with rfl | hm
      · exact ⟨_, List.mem_cons_self, hl⟩
      · exact ⟨m', List.mem_cons_of_mem _ (List.mem_of_mem_filter hm), hl⟩
    | take s tasks sl =>
      rcases List.mem_cons.mp hm with rfl | hm
      · exact ⟨_, List.mem_cons_self, hl⟩
      · obtain ⟨m'', hm'', hl''⟩ := ih ⟨m', hm, hl⟩
        exact ⟨m'', List.mem_cons_of_mem _ hm'', hl''⟩

/-- Without its later passes a list of moves still leads to the same ends. -/
theorem Lead.onePass (h : Lead text i moves j sl') :
    ∃ sl2, Lead text i (Move.onePass moves) j sl2 := by
  induction moves with
  | nil => exact ⟨sl', h⟩
  | cons m rest ih =>
    obtain ⟨m', hm, hl⟩ := h
    cases m with
    | pass sl =>
      rcases List.mem_cons.mp hm with rfl | hm
      · exact ⟨sl', _, List.mem_cons_self, hl⟩
      · cases m' with
        | pass sl3 => exact ⟨sl, .pass sl, List.mem_cons_self, hl.1, rfl⟩
        | take s tasks sl3 =>
          exact ⟨sl', _, List.mem_cons_of_mem _ (List.mem_filter.mpr ⟨hm, rfl⟩), hl⟩
    | take s tasks sl =>
      rcases List.mem_cons.mp hm with rfl | hm
      · exact ⟨sl', _, List.mem_cons_self, hl⟩
      · obtain ⟨sl2, m'', hm'', hl''⟩ := ih ⟨m', hm, hl⟩
        exact ⟨sl2, m'', List.mem_cons_of_mem _ hm'', hl''⟩

/-- Moves of a first part followed by tasks lead where the tasks lead from an end of the part. -/
theorem Lead.of_andThen (hnext : Sound text i next (TasksSpan text tasks))
    (h : Lead text i (Move.andThen moves tasks next) j sl') :
    ∃ k sl1, Lead text i moves k sl1 ∧ TasksSpan text tasks k sl1 j sl' := by
  obtain ⟨m', hm', hl⟩ := h
  obtain ⟨m, hm, hm'⟩ := List.mem_flatMap.mp hm'
  cases m with
  | pass sl1 => exact ⟨i, sl1, ⟨_, hm, rfl, rfl⟩, hnext sl1 j sl' ⟨m', hm', hl⟩⟩
  | take s rest sl1 =>
    obtain rfl := List.mem_singleton.mp hm'
    obtain ⟨k, sl2, h1, h2⟩ := tasksSpan_append.mp hl.2
    exact ⟨k, sl2, ⟨_, hm, hl.1, h1⟩, h2⟩

theorem Lead.andThen (hnext : k = i → ∀ sl, ∃ sl2, Lead text i (next sl) j sl2)
    (hm : Lead text i moves k sl1) (ht : TasksSpan text tasks k sl1 j sl') :
    ∃ sl2, Lead text i (Move.andThen moves tasks next) j sl2 := by
  obtain ⟨m, hm, hl⟩ := hm
  cases m with
  | pass sl2 =>
    obtain ⟨sl3, m', hm', hl'⟩ := hnext hl.1 sl2
    exact ⟨sl3, m', List.mem_flatMap.mpr ⟨_, hm, hm'⟩, hl'⟩
  | take s rest sl2 =>
    refine ⟨sl', .take s (rest ++ tasks) sl2, List.mem_flatMap.mpr ⟨_, hm, by simp⟩, hl.1, ?_⟩
    exact tasksSpan_append.mpr ⟨k, sl1, hl.2, ht⟩

theorem Lead.of_optionalMoves {greedy : Bool} (h : Lead text i (optionalMoves greedy sl moves) j sl') :
    Lead text i moves j sl' ∨ (j = i ∧ sl' = sl) := by
  obtain ⟨m, hm, hl⟩ := h.of_onePass
  have hm : m ∈ moves ∨ m = .pass sl := by
    cases greedy with
    | true => simpa using hm
    | false => simpa [or_comm] using hm
  rcases hm with hm | rfl
  · exact Or.inl ⟨m, hm, hl⟩
  · exact Or.inr hl

theorem Lead.optionalMoves {greedy : Bool} (h : (∃ sl', Lead text i moves j sl') ∨ j = i)
    (sl : Slots) :
    ∃ sl2, Lead text i (optionalMoves greedy sl moves) j sl2 := by
  have hall : ∃ sl3, Lead text i (if greedy then moves ++ [.pass sl] else .pass sl :: moves) j sl3 := by
    rcases h with ⟨sl', m, hm, hl⟩ | rfl
    · refine ⟨sl', m, ?_, hl⟩
      cases greedy with
      | true => exact List.mem_append_left _ hm
      | false => exact List.mem_cons_of_mem _ hm
    · refine ⟨sl, .pass sl, ?_, rfl, rfl⟩
      cases greedy with
      | true => simp
      | false => simp
  obtain ⟨sl3, h3⟩ := hall
  exact h3.onePass

theorem allows_succ {least : Nat} {most : Option Nat} :
    Allows (least + 1) most (n + 1) ↔ Allows least (most.map (· - 1)) n := by
  cases most with
  | none => simp [Allows]
  | some m =>
    simp only [Allows, Option.mem_def, Option.some.injEq, forall_eq', Option.map_some]
    omega

theorem spans_rep_succ {least : Nat} {most : Option Nat} {greedy : Bool} :
    (Expr.rep (least + 1) most greedy r).Spans text i sl j sl' ↔
      ∃ k sl1, r.Spans text i sl k sl1 ∧
        (Expr.rep least (most.map (· - 1)) greedy r).Spans text k sl1 j sl' := by
  constructor
  · rintro ⟨n, hn, h⟩
    cases n with
    | zero => exact absurd hn.1 (by omega)
    | succ n =>
      obtain ⟨k, sl1, h1, h2⟩ := h
      exact ⟨k, sl1, h1, n, allows_succ.mp hn, h2⟩
  · rintro ⟨k, sl1, h1, n, hn, h2⟩
    exact ⟨n + 1, allows_succ.mpr hn, k, sl1, h1, h2⟩

/-- A repetition that takes characters has a copy that does, at its front. -/
theorem Copies.exists_taking (h : Copies (r.Spans text) n i sl j sl') (hij : i < j) :
    ∃ m sl0 k sl1 sl2, i < k ∧ r.Spans text i sl0 k sl1 ∧ Copies (r.Spans text) m k sl1 j sl2 := by
  induction n generalizing sl with
  | zero => exact absurd h.1 (Nat.ne_of_gt hij)
  | succ n ih =>
    obtain ⟨k, sl1, h1, h2⟩ := h
    by_cases hk : i < k
    · exact ⟨n, sl, k, sl1, sl', hk, h1, h2⟩
    · obtain rfl : k = i := Nat.le_antisymm (Nat.le_of_not_lt hk) h1.le
      exact ih h2

section Repetition

variable {least : Nat} {most : Option Nat} {greedy : Bool}

theorem sound_someMoves (hs : Sound text i part (r.Spans text)) :
    Sound text i (someMoves part r greedy) ((Expr.rep 1 none greedy r).Spans text) := by
  intro sl j sl' h
  have hnext : Sound text i (fun sl => [.pass sl]) (TasksSpan text [.again greedy r]) := by
    rintro sl j sl' ⟨m, hm, hl⟩
    obtain rfl := List.mem_singleton.mp hm
    exact tasksSpan_singleton.mpr ⟨0, hl⟩
  obtain ⟨k, sl1, h1, h2⟩ := Lead.of_andThen hnext h
  obtain ⟨n, hn⟩ := tasksSpan_singleton.mp h2
  exact ⟨n + 1, ⟨by omega, by simp⟩, k, sl1, hs _ _ _ h1, hn⟩

theorem complete_someMoves (hc : Complete text i part (r.Spans text)) :
    Complete text i (someMoves part r greedy) ((Expr.rep 1 none greedy r).Spans text) := by
  rintro sl j sl' ⟨n, hn, h⟩ sl2
  cases n with
  | zero => exact absurd hn.1 (by omega)
  | succ n =>
    obtain ⟨k, sl1, h1, h2⟩ := h
    -- Copies after the first must take characters, so empty copies at the front are left out.
    by_cases hij : i < j
    · obtain ⟨m, sl0, k, sl1, sl3, hk, h3, h4⟩ :=
        Copies.exists_taking (show Copies (r.Spans text) (n + 1) i sl j sl' from ⟨k, sl1, h1, h2⟩) hij
      obtain ⟨sl4, h5⟩ := hc _ _ _ h3 sl2
      obtain ⟨sl5, h6⟩ := h4.reslot (fun _ _ _ _ h => h.reslot) sl4
      exact Lead.andThen (fun he => absurd he (Nat.ne_of_gt hk)) h5
        (tasksSpan_singleton.mpr ⟨m, h6⟩)
    · have hkj := h2.le fun _ _ _ _ h => h.le
      have hik := h1.le
      obtain rfl : j = i := by omega
      obtain rfl : k = j := by omega
      obtain ⟨sl4, h5⟩ := hc _ _ _ h1 sl2
      have ht : TasksSpan text [.again greedy r] k sl4 k sl4 :=
        tasksSpan_singleton.mpr ⟨0, rfl, rfl⟩
      exact Lead.andThen (fun _ sl => ⟨sl, .pass sl, by simp, rfl, rfl⟩) h5 ht

theorem sound_atMostMoves (hs : Sound text i part (r.Spans text)) (n : Nat) :
    Sound text i (atMostMoves part r greedy n) ((Expr.rep 0 (some n) greedy r).Spans text) := by
  induction n with
  | zero =>
    rintro sl j sl' ⟨m, hm, hl⟩
    obtain rfl := List.mem_singleton.mp hm
    exact ⟨0, ⟨Nat.le_refl 0, by simp⟩, hl⟩
  | succ n ih =>
    intro sl j sl' h
    rcases h.of_optionalMoves with h | h
    · have hnext : Sound text i (atMostMoves part r greedy n)
          (TasksSpan text [.expr (.rep 0 (some n) greedy r)]) :=
        fun sl j sl' h => tasksSpan_singleton.mpr (ih sl j sl' h)
      obtain ⟨k, sl1, h1, h2⟩ := Lead.of_andThen hnext h
      obtain ⟨m, hm, h2⟩ := tasksSpan_singleton.mp h2
      have hmn := hm.2 n rfl
      exact ⟨m + 1, ⟨by omega, by simp; omega⟩, k, sl1, hs _ _ _ h1, h2⟩
    · exact ⟨0, ⟨Nat.le_refl 0, by simp⟩, h⟩

theorem complete_atMostMoves (hc : Complete text i part (r.Spans text)) (n : Nat) :
    Complete text i (atMostMoves part r greedy n) ((Expr.rep 0 (some n) greedy r).Spans text) := by
  induction n with
  | zero =>
    rintro sl j sl' ⟨m, hm, h⟩ sl2
    have hm0 := hm.2 0 rfl
    obtain rfl : m = 0 := by omega
    exact ⟨sl2, .pass sl2, List.mem_singleton_self _, h.1, rfl⟩
  | succ n ih =>
    rintro sl j sl' ⟨m, hm, h⟩ sl2
    cases m with
    | zero => exact Lead.optionalMoves (Or.inr h.1) sl2
    | succ m =>
      obtain ⟨k, sl1, h1, h2⟩ := h
      have hmn := hm.2 (n + 1) rfl
      have hrest : (Expr.rep 0 (some n) greedy r).Spans text k sl1 j sl' :=
        ⟨m, ⟨Nat.zero_le m, by simp; omega⟩, h2⟩
      obtain ⟨sl3, h3⟩ := hc _ _ _ h1 sl2
      obtain ⟨sl4, h4⟩ := hrest.reslot sl3
      have ht : TasksSpan text [.expr (.rep 0 (some n) greedy r)] k sl3 j sl4 :=
        tasksSpan_singleton.mpr h4
      have hnext : k = i → ∀ sl, ∃ sl2, Lead text i (atMostMoves part r greedy n sl) j sl2 := by
        rintro rfl
        exact ih _ _ _ hrest
      exact Lead.optionalMoves (Or.inl (Lead.andThen hnext h3 ht)) sl2

theorem sound_repMoves (hs : Sound text i part (r.Spans text)) (least : Nat) (most : Option Nat) :
    Sound text i (repMoves part r greedy least most) ((Expr.rep least most greedy r).Spans text) := by
  induction least generalizing most with
  | zero =>
    cases most with
    | none =>
      intro sl j sl' h
      rcases Lead.of_optionalMoves h with h | h
      · obtain ⟨n, hn, h⟩ := sound_someMoves hs _ _ _ h
        exact ⟨n, ⟨Nat.zero_le n, by simp⟩, h⟩
      · exact ⟨0, ⟨Nat.le_refl 0, by simp⟩, h⟩
    | some most => exact sound_atMostMoves hs most
  | succ least ih =>
    -- One copy or more has moves of its own; of every other repetition the first copy is split off.
    by_cases h1 : least = 0 ∧ most = none
    · obtain ⟨rfl, rfl⟩ := h1
      exact sound_someMoves hs
    · intro sl j sl' h
      have he : repMoves part r greedy (least + 1) most sl =
          Move.andThen (part sl) [.expr (.rep least (most.map (· - 1)) greedy r)]
            (repMoves part r greedy least (most.map (· - 1))) := by
        rw [repMoves]
        intro hmost hleast
        exact h1 ⟨hleast, hmost⟩
      rw [he] at h
      have hnext : Sound text i (repMoves part r greedy least (most.map (· - 1)))
          (TasksSpan text [.expr (.rep least (most.map (· - 1)) greedy r)]) :=
        fun sl j sl' h => tasksSpan_singleton.mpr (ih _ sl j sl' h)
      obtain ⟨k, sl1, h1, h2⟩ := Lead.of_andThen hnext h
      exact spans_rep_succ.mpr ⟨k, sl1, hs _ _ _ h1, tasksSpan_singleton.mp h2⟩

theorem complete_repMoves (hc : Complete text i part (r.Spans text)) (least : Nat)
    (most : Option Nat) :
    Complete text i (repMoves part r greedy least most)
      ((Expr.rep least most greedy r).Spans text) := by
  induction least generalizing most with
  | zero =>
    cases most with
    | none =>
      rintro sl j sl' ⟨n, hn, h⟩ sl2
      apply Lead.optionalMoves
      cases n with
      | zero => exact Or.inr h.1
      | succ n =>
        exact Or.inl (complete_someMoves hc sl j sl' ⟨n + 1, ⟨by omega, by simp⟩, h⟩ sl2)
    | some most => exact complete_atMostMoves hc most
  | succ least ih =>
    by_cases h1 : least = 0 ∧ most = none
    · obtain ⟨rfl, rfl⟩ := h1
      exact complete_someMoves hc
    · intro sl j sl' h sl2
      have he : repMoves part r greedy (least + 1) most sl2 =
          Move.andThen (part sl2) [.expr (.rep least (most.map (· - 1)) greedy r)]
            (repMoves part r greedy least (most.map (· - 1))) := by
        rw [repMoves]
        intro hmost hleast
        exact h1 ⟨hleast, hmost⟩
      rw [he]
      obtain ⟨k, sl1, h1, h2⟩ := spans_rep_succ.mp h
      obtain ⟨sl3, h3⟩ := hc _ _ _ h1 sl2
      obtain ⟨sl4, h4⟩ := h2.reslot sl3
      have ht : TasksSpan text [.expr (.rep least (most.map (· - 1)) greedy r)] k sl3 j sl4 :=
        tasksSpan_singleton.mpr h4
      refine Lead.andThen ?_ h3 ht
      rintro rfl
      exact ih _ _ _ _ h2

end Repetition

/-- The moves of an expression at a position of a text. -/
def movesAt (text : List Char) (i : Nat) (r : Expr) (sl : Slots) : List Move :=
  r.moves i (charBefore text i) text[i]? sl

/-- The moves of an expression lead only where the expression can match. -/
theorem sound_moves (r : Expr) : Sound text i (movesAt text i r) (r.Spans text) := by
  induction r with
  | empty =>
    rintro sl j sl' ⟨m, hm, hl⟩
    obtain rfl := List.mem_singleton.mp hm
    exact hl
  | oneOf s =>
    rintro sl j sl' ⟨m, hm, hl⟩
    obtain rfl := List.mem_singleton.mp hm
    exact ⟨hl.1, hl.2⟩
  | look a =>
    rintro sl j sl' ⟨m, hm, hl⟩
    rw [movesAt, Expr.moves] at hm
    split at hm
    · rename_i ha
      obtain rfl := List.mem_singleton.mp hm
      exact ⟨ha, hl⟩
    · cases hm
  | cat r s ihr ihs =>
    intro sl j sl' h
    have hnext : Sound text i (movesAt text i s) (TasksSpan text [.expr s]) :=
      fun sl j sl' h => tasksSpan_singleton.mpr (ihs sl j sl' h)
    obtain ⟨k, sl1, h1, h2⟩ := Lead.of_andThen hnext h
    exact ⟨k, sl1, ihr _ _ _ h1, tasksSpan_singleton.mp h2⟩
  | alt r s ihr ihs =>
    intro sl j sl' h
    obtain ⟨m, hm, hl⟩ := Lead.of_onePass h
    rcases List.mem_append.mp hm with hm | hm
    · exact Or.inl (ihr _ _ _ ⟨m, hm, hl⟩)
    · exact Or.inr (ihs _ _ _ ⟨m, hm, hl⟩)
  | capture n r ih =>
    intro sl j sl' h
    have hnext : Sound text i (fun sl => [.pass (sl.leave n i)]) (TasksSpan text [.leave n]) := by
      rintro sl j sl' ⟨m, hm, hl⟩
      obtain rfl := List.mem_singleton.mp hm
      exact tasksSpan_singleton.mpr hl
    obtain ⟨k, sl1, h1, h2⟩ := Lead.of_andThen hnext h
    obtain ⟨rfl, h2⟩ := tasksSpan_singleton.mp h2
    exact ⟨sl1, ih _ _ _ h1, h2⟩
  | rep least most greedy r ih => exact sound_repMoves ih least most

/-- The moves of an expression lead wherever the expression can match. -/
theorem complete_moves (r : Expr) : Complete text i (movesAt text i r) (r.Spans text) := by
  induction r with
  | empty =>
    rintro sl j sl' ⟨rfl, rfl⟩ sl2
    exact ⟨sl2, .pass sl2, List.mem_singleton_self _, rfl, rfl⟩
  | oneOf s =>
    rintro sl j sl' ⟨hs, rfl, rfl⟩ sl2
    exact ⟨sl2, .take s [] sl2, List.mem_singleton_self _, hs, rfl, rfl⟩
  | look a =>
    rintro sl j sl' ⟨ha, rfl, rfl⟩ sl2
    refine ⟨sl2, .pass sl2, ?_, rfl, rfl⟩
    simp [movesAt, Expr.moves, ha]
  | cat r s ihr ihs =>
    rintro sl j sl' ⟨k, sl1, h1, h2⟩ sl2
    obtain ⟨sl3, h3⟩ := ihr _ _ _ h1 sl2
    obtain ⟨sl4, h4⟩ := h2.reslot sl3
    have ht : TasksSpan text [.expr s] k sl3 j sl4 := tasksSpan_singleton.mpr h4
    refine Lead.andThen ?_ h3 ht
    rintro rfl
    exact ihs _ _ _ h2
  | alt r s ihr ihs =>
    intro sl j sl' h sl2
    have hall : ∃ sl3, Lead text i (movesAt text i r sl2 ++ movesAt text i s sl2) j sl3 := by
      rcases h with h | h
      · obtain ⟨sl3, m, hm, hl⟩ := ihr _ _ _ h sl2
        exact ⟨sl3, m, List.mem_append_left _ hm, hl⟩
      · obtain ⟨sl3, m, hm, hl⟩ := ihs _ _ _ h sl2
        exact ⟨sl3, m, List.mem_append_right _ hm, hl⟩
    obtain ⟨sl3, h3⟩ := hall
    exact h3.onePass
  | capture n r ih =>
    rintro sl j sl' ⟨sl1, h1, -⟩ sl2
    obtain ⟨sl3, h3⟩ := ih _ _ _ h1 (sl2.enter n i)
    have ht : TasksSpan text [.leave n] j sl3 j (sl3.leave n j) :=
      tasksSpan_singleton.mpr ⟨rfl, rfl⟩
    exact Lead.andThen (fun hj sl => ⟨sl.leave n i, .pass (sl.leave n i), by simp, hj, rfl⟩) h3 ht
  | rep least most greedy r ih => exact complete_repMoves ih least most

private theorem mem_againMoves {greedy : Bool} {m : Move} :
    m ∈ (Task.again greedy r).moves i (charBefore text i) text[i]? sl ↔
      m ∈ (someMoves (movesAt text i r) r greedy sl).filter Move.takes ∨ m = .pass sl := by
  change m ∈ (if greedy then (someMoves (movesAt text i r) r greedy sl).filter Move.takes ++ [.pass sl]
    else .pass sl :: (someMoves (movesAt text i r) r greedy sl).filter Move.takes) ↔ _
  cases greedy with
  | true => simp
  | false => simp [or_comm]

theorem sound_taskMoves (t : Task) :
    Sound text i (t.moves i (charBefore text i) text[i]?) (t.Spans text) := by
  cases t with
  | expr r => exact sound_moves r
  | leave n =>
    rintro sl j sl' ⟨m, hm, hl⟩
    obtain rfl := List.mem_singleton.mp hm
    exact hl
  | again greedy r =>
    rintro sl j sl' ⟨m, hm, hl⟩
    rcases mem_againMoves.mp hm with hm | rfl
    · obtain ⟨n, -, h⟩ := sound_someMoves (sound_moves r) _ _ _ ⟨m, List.mem_of_mem_filter hm, hl⟩
      exact ⟨n, h⟩
    · exact ⟨0, hl⟩

theorem complete_taskMoves (t : Task) :
    Complete text i (t.moves i (charBefore text i) text[i]?) (t.Spans text) := by
  cases t with
  | expr r => exact complete_moves r
  | leave n =>
    rintro sl j sl' ⟨hj, -⟩ sl2
    exact ⟨sl2.leave n i, .pass (sl2.leave n i), List.mem_singleton_self _, hj, rfl⟩
  | again greedy r =>
    rintro sl j sl' ⟨n, h⟩ sl2
    by_cases hij : i < j
    · have hn : Allows 1 none n := by
        cases n with
        | zero => exact absurd h.1 (Nat.ne_of_gt hij)
        | succ n => exact ⟨by omega, by simp⟩
      have hspan : (Expr.rep 1 none greedy r).Spans text i sl j sl' := ⟨n, hn, h⟩
      obtain ⟨sl3, m, hm, hl⟩ := complete_someMoves (complete_moves r) _ _ _ hspan sl2
      cases m with
      | pass sl4 => exact absurd hl.1 (Nat.ne_of_gt hij)
      | take s tasks sl4 =>
        exact ⟨sl3, _, mem_againMoves.mpr (Or.inl (List.mem_filter.mpr ⟨hm, rfl⟩)), hl⟩
    · have hle := h.le fun _ _ _ _ h => h.le
      exact ⟨sl2, .pass sl2, mem_againMoves.mpr (Or.inr rfl), by omega, rfl⟩

theorem sound_tasksMoves (ts : List Task) :
    Sound text i (tasksMoves i (charBefore text i) text[i]? ts) (TasksSpan text ts) := by
  induction ts with
  | nil =>
    rintro sl j sl' ⟨m, hm, hl⟩
    obtain rfl := List.mem_singleton.mp hm
    exact hl
  | cons t ts ih =>
    intro sl j sl' h
    obtain ⟨k, sl1, h1, h2⟩ := Lead.of_andThen ih h
    exact ⟨k, sl1, sound_taskMoves t _ _ _ h1, h2⟩

theorem complete_tasksMoves (ts : List Task) :
    Complete text i (tasksMoves i (charBefore text i) text[i]? ts) (TasksSpan text ts) := by
  induction ts with
  | nil =>
    rintro sl j sl' ⟨hj, -⟩ sl2
    exact ⟨sl2, .pass sl2, List.mem_singleton_self _, hj, rfl⟩
  | cons t ts ih =>
    rintro sl j sl' ⟨k, sl1, h1, h2⟩ sl2
    obtain ⟨sl3, h3⟩ := complete_taskMoves t _ _ _ h1 sl2
    obtain ⟨sl4, h4⟩ := h2.reslot sl3
    refine Lead.andThen ?_ h3 h4
    rintro rfl
    exact ih _ _ _ h2

end PhotoGrouping.Regex
