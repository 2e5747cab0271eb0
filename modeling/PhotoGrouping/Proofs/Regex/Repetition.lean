import PhotoGrouping.Proofs.Regex.Shape
import PhotoGrouping.Proofs.Regex.Steps

namespace PhotoGrouping.Regex

/-- Whether a piece of a branch repeats a part. -/
def Piece.hasRepetition : Piece → Bool
  | .node n => n.expr.hasRepetition
  | .setting => false

/-- Whether branches or the pieces after them repeat a part. -/
def branchRepeats (branches : List Node) (branch : List Piece) : Bool :=
  branches.any (·.expr.hasRepetition) || branch.any Piece.hasRepetition

/-- Whether the branches of an open group repeat a part so far. -/
def OpenGroup.hasRepetition (o : OpenGroup) : Bool :=
  branchRepeats o.branches o.branch

/-- Whether a part has been repeated so far. -/
def ParseState.hasRepetition (st : ParseState) : Bool :=
  branchRepeats st.branches st.branch || st.outer.any OpenGroup.hasRepetition

variable {r : Expr} {st st' : ParseState} {c : Char}

namespace Expr

/-- Whether an expression repeats a part does not depend on its sets. -/
theorem hasRepetition_shape (r : Expr) : r.shape.hasRepetition = r.hasRepetition := by
  induction r with
  | empty | oneOf s | look a => rfl
  | cat r s ihr ihs => rw [shape, hasRepetition, ihr, ihs, hasRepetition]
  | alt r s ihr ihs => rw [shape, hasRepetition, ihr, ihs, hasRepetition]
  | capture i r ih => rw [shape, hasRepetition, ih, hasRepetition]
  | rep least most greedy r ih => rfl

theorem IsLeaf.hasRepetition_eq_false (h : r.IsLeaf) : r.hasRepetition = false := by
  cases h with
  | oneOf s => rfl
  | look a => rfl

end Expr

theorem OpenGroup.hasRepetition_closed (o : OpenGroup) (r : Expr) :
    (o.closed r).hasRepetition = r.hasRepetition := by
  unfold closed
  split
  · rfl
  · rfl

namespace ParseState

theorem branchNode_hasRepetition (st : ParseState) :
    st.branchNode.expr.hasRepetition = st.branch.any Piece.hasRepetition := by
  change (Expr.catOf (st.branch.reverse.filterMap Piece.expr?)).hasRepetition = _
  rw [Expr.hasRepetition_catOf, ← List.any_reverse (l := st.branch)]
  induction st.branch.reverse with
  | nil => rfl
  | cons p branch ih =>
    cases p with
    | node n => simp [Piece.expr?, Piece.hasRepetition, ih]
    | setting =>
      rw [List.filterMap_cons_none rfl, ih]
      rfl

/-- The innermost open group repeats a part if its branches do. -/
theorem groupNode_hasRepetition (st : ParseState) :
    st.groupNode.expr.hasRepetition = branchRepeats st.branches st.branch := by
  rw [groupNode_eq_groupOf, groupOf_expr, Expr.hasRepetition_altOf, List.map_append, List.any_append,
    List.map_reverse, List.any_reverse, List.any_map, branchRepeats, ← branchNode_hasRepetition]
  simp [Function.comp_def]

theorem push_hasRepetition {p : Piece} (hp : p.hasRepetition = false) :
    (st.push p).hasRepetition = st.hasRepetition := by
  simp [push, hasRepetition, branchRepeats, hp]

theorem nextBranch_hasRepetition (st : ParseState) :
    st.nextBranch.hasRepetition = st.hasRepetition := by
  rw [hasRepetition, hasRepetition, branchRepeats, branchRepeats, nextBranch, List.any_cons,
    branchNode_hasRepetition, List.any_nil, Bool.or_false, Bool.or_comm (List.any _ _)]

theorem enter_hasRepetition (st : ParseState) (index : Option Nat) (flags : Flags) :
    (st.enter index flags).hasRepetition = st.hasRepetition := by
  simp [enter, hasRepetition, branchRepeats, OpenGroup.hasRepetition]

theorem leave_hasRepetition (h : st.leave = .ok st') : st'.hasRepetition = st.hasRepetition := by
  obtain ⟨o, outer, houter, rfl⟩ := leave_eq_ok h
  simp only [hasRepetition, OpenGroup.hasRepetition, branchRepeats, Piece.hasRepetition,
    OpenGroup.hasRepetition_closed, groupNode_hasRepetition st, List.any_cons, houter]
  ac_rfl

theorem repeatLast_hasRepetition {least : Nat} {most : Option Nat} {greedy : Bool}
    (h : st.repeatLast least most greedy = .ok st') : st'.hasRepetition = true := by
  obtain ⟨n, rest, -, rfl⟩ := repeatLast_eq_ok h
  simp [hasRepetition, branchRepeats, Piece.hasRepetition, Expr.hasRepetition]

/-- An item repeats a part if it begins with one of the signs for it, and only then. -/
theorem Becomes.hasRepetition_eq (h : st.Becomes c st') :
    st'.hasRepetition = (st.hasRepetition || isRepetitionSign c) := by
  have hkept {next : ParseState} (hsign : isRepetitionSign c = false)
      (hnext : next.hasRepetition = st.hasRepetition) :
      next.hasRepetition = (st.hasRepetition || isRepetitionSign c) := by
    rw [hnext, hsign, Bool.or_false]
  cases h with
  | leaf r d hr hc => exact hkept hc (push_hasRepetition hr.hasRepetition_eq_false)
  | setting flags hc =>
    subst hc
    have hsetting : (st.push .setting).hasRepetition = st.hasRepetition := push_hasRepetition rfl
    exact hkept (by decide) hsetting
  | nextBranch hc =>
    subst hc
    exact hkept (by decide) st.nextBranch_hasRepetition
  | enter flags hc =>
    subst hc
    exact hkept (by decide) (st.enter_hasRepetition none flags)
  | capture names hc =>
    subst hc
    exact hkept (by decide) (st.enter_hasRepetition (some (st.captures + 1)) st.flags)
  | leave st' hc h =>
    subst hc
    exact hkept (by decide) (leave_hasRepetition h)
  | repeatLast st' least most greedy hc h => rw [repeatLast_hasRepetition h, hc, Bool.or_true]

end ParseState

/-- A pattern repeats a part if what has been read of it at its end does. -/
theorem hasRepetition_of_read {text : String} {caseless : Bool} {regex : Regex}
    (h : Regex.read text caseless = .ok regex) :
    ∃ st, parseFrom { flags := folding caseless } text.toList = .ok st ∧
      regex.expr.hasRepetition = st.hasRepetition := by
  obtain ⟨st, hparse, houter, rfl⟩ := exists_of_read h
  refine ⟨st, hparse, ?_⟩
  rw [ParseState.groupNode_hasRepetition, ParseState.hasRepetition, houter, List.any_nil,
    Bool.or_false]

end PhotoGrouping.Regex
