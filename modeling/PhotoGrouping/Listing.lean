namespace PhotoGrouping

/-- The items without repetitions, each where it occurs first. -/
def distinct {α : Type} [DecidableEq α] : List α → List α
  | [] => []
  | x :: xs => x :: (distinct xs).filter (· ≠ x)

/-- The items without those whose key has occurred before. -/
def distinctOn {α β : Type} [DecidableEq β] (key : α → β) : List α → List α
  | [] => []
  | x :: xs => x :: (distinctOn key xs).filter fun y => key y ≠ key x

/-- The texts with one more, in ascending order if they were; nothing changes if it is there. -/
def insertText (x : String) : List String → List String
  | [] => [x]
  | y :: ys => if x < y then x :: y :: ys else if x = y then y :: ys else y :: insertText x ys

def ascending (xs : List String) : List String :=
  xs.foldr insertText []

theorem mem_insertText {x y : String} {ys : List String} :
    x ∈ insertText y ys ↔ x = y ∨ x ∈ ys := by
  induction ys with
  | nil => simp [insertText]
  | cons z zs ih =>
    rw [insertText]
    split
    · simp
    · split
      · rename_i h
        subst h
        simp
      · simp only [List.mem_cons, ih]
        exact or_left_comm

theorem mem_ascending {x : String} {xs : List String} : x ∈ ascending xs ↔ x ∈ xs := by
  unfold ascending
  induction xs with
  | nil => simp
  | cons y ys ih => simp [mem_insertText, ih]

theorem mem_distinct {α : Type} [DecidableEq α] {x : α} {xs : List α} :
    x ∈ distinct xs ↔ x ∈ xs := by
  induction xs with
  | nil => simp [distinct]
  | cons y ys ih =>
    by_cases h : x = y
    · simp [distinct, h]
    · simp [distinct, h, ih]

theorem nodup_distinct {α : Type} [DecidableEq α] (xs : List α) : (distinct xs).Nodup := by
  induction xs with
  | nil => simp [distinct]
  | cons y ys ih =>
    rw [distinct, List.nodup_cons]
    exact ⟨by simp, ih.sublist List.filter_sublist⟩

end PhotoGrouping
