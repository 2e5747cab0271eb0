import PhotoGrouping.Proofs.Regex.Steps

namespace PhotoGrouping.Regex

/-- The indices of the capturing groups of an expression, in the order of their opening brackets. -/
def Expr.indices : Expr → List Nat
  | .empty | .oneOf _ | .look _ => []
  | .cat r s | .alt r s => r.indices ++ s.indices
  | .capture i r => i :: r.indices
  | .rep _ _ _ r => r.indices

/-- The indices of the groups of a piece. -/
def Piece.indices : Piece → List Nat
  | .node n => n.expr.indices
  | .setting => []

/-- The indices of the groups of branches and the pieces after them, both from their ends. -/
def branchIndices (branches : List Node) (branch : List Piece) : List Nat :=
  branches.reverse.flatMap (·.expr.indices) ++ branch.reverse.flatMap Piece.indices

/-- The indices of the groups before an open group and of that group. -/
def OpenGroup.indices (g : OpenGroup) : List Nat :=
  branchIndices g.branches g.branch ++ g.index.toList

namespace ParseState

/-- The indices of the groups begun so far. -/
def indices (st : ParseState) : List Nat :=
  st.outer.reverse.flatMap OpenGroup.indices ++ branchIndices st.branches st.branch

/-- Whether the groups begun so far are numbered from one. -/
def Numbered (st : ParseState) : Prop :=
  st.indices = List.range' 1 st.captures

end ParseState

variable {r : Expr} {st st' : ParseState} {c : Char}

theorem Expr.length_indices : r.indices.length = r.captureCount := by
  induction r with
  | empty | oneOf s | look a => rfl
  | cat r s ihr ihs => rw [indices, List.length_append, ihr, ihs, captureCount]
  | alt r s ihr ihs => rw [indices, List.length_append, ihr, ihs, captureCount]
  | capture i r ih => rw [indices, List.length_cons, ih, captureCount]
  | rep least most greedy r ih => exact ih

theorem Expr.indices_catOf : ∀ rs, (catOf rs).indices = rs.flatMap indices :=
  joins_catOf.apply indices (· ++ ·) (fun _ _ => rfl) rfl (fun r => (List.append_nil r.indices).symm)
    fun _ _ _ => rfl

theorem Expr.indices_altOf : ∀ rs, (altOf rs).indices = rs.flatMap indices :=
  joins_altOf.apply indices (· ++ ·) (fun _ _ => rfl) rfl (fun r => (List.append_nil r.indices).symm)
    fun _ _ _ => rfl

theorem Expr.IsLeaf.indices_eq_nil (h : r.IsLeaf) : r.indices = [] := by
  cases h with
  | oneOf s => rfl
  | look a => rfl

theorem OpenGroup.indices_closed (o : OpenGroup) (r : Expr) :
    (o.closed r).indices = o.index.toList ++ r.indices := by
  unfold closed
  split
  · rename_i i hindex
    rw [hindex]
    rfl
  · rename_i hindex
    rw [hindex]
    rfl

namespace ParseState

theorem indices_branchNode : st.branchNode.expr.indices = st.branch.reverse.flatMap Piece.indices := by
  change (Expr.catOf (st.branch.reverse.filterMap Piece.expr?)).indices = _
  rw [Expr.indices_catOf]
  induction st.branch.reverse with
  | nil => rfl
  | cons p branch ih =>
    cases p with
    | node n => simp [Piece.expr?, Piece.indices, ih]
    | setting =>
      rw [List.filterMap_cons_none rfl, ih]
      rfl

/-- The groups of the innermost open group are those of its branches. -/
theorem indices_groupNode : st.groupNode.expr.indices = branchIndices st.branches st.branch := by
  rw [groupNode_eq_groupOf, groupOf_expr, Expr.indices_altOf, List.map_append, List.flatMap_append,
    List.flatMap_map, branchIndices, ← indices_branchNode]
  simp

theorem Numbered.push {p : Piece} (h : st.Numbered) (hp : p.indices = []) : (st.push p).Numbered := by
  have hindices : (st.push p).indices = st.indices := by
    simp [ParseState.push, indices, branchIndices, hp]
  exact hindices.trans h

theorem Numbered.nextBranch (h : st.Numbered) : st.nextBranch.Numbered := by
  have hindices : st.nextBranch.indices = st.indices := by
    simp [ParseState.nextBranch, indices, branchIndices, indices_branchNode]
  exact hindices.trans h

theorem Numbered.enter {flags : Flags} (h : st.Numbered) : (st.enter none flags).Numbered := by
  have hindices : (st.enter none flags).indices = st.indices := by
    simp [ParseState.enter, indices, branchIndices, OpenGroup.indices]
  exact hindices.trans h

/-- A capturing group takes the next number. -/
theorem Numbered.enterCapture (h : st.Numbered) : st.enterCapture.Numbered := by
  have hindices : st.enterCapture.indices = st.indices ++ [st.captures + 1] := by
    simp [ParseState.enterCapture, ParseState.enter, indices, branchIndices, OpenGroup.indices]
  have hcaptures : st.enterCapture.captures = st.captures + 1 := rfl
  rw [Numbered, hindices, hcaptures, h, List.range'_concat, Nat.one_mul, Nat.add_comm 1]

theorem Numbered.leave (h : st.Numbered) (hleave : st.leave = .ok st') : st'.Numbered := by
  obtain ⟨o, outer, houter, rfl⟩ := leave_eq_ok hleave
  rw [Numbered] at h ⊢
  rw [← h]
  simp [indices, branchIndices, OpenGroup.indices, Piece.indices, OpenGroup.indices_closed,
    indices_groupNode, houter]

theorem Numbered.repeatLast {least : Nat} {most : Option Nat} {greedy : Bool} (h : st.Numbered)
    (hrepeat : st.repeatLast least most greedy = .ok st') : st'.Numbered := by
  obtain ⟨n, rest, hbranch, rfl⟩ := repeatLast_eq_ok hrepeat
  rw [Numbered] at h ⊢
  rw [← h]
  simp [indices, branchIndices, hbranch, Piece.indices, Expr.indices]

/-- An item numbers its groups on. -/
theorem Becomes.numbered (hitem : st.Becomes c st') (h : st.Numbered) : st'.Numbered := by
  cases hitem with
  | leaf r d hr hc => exact h.push hr.indices_eq_nil
  | setting flags hc => exact h.push (p := .setting) rfl
  | nextBranch hc => exact h.nextBranch
  | enter flags hc => exact h.enter
  | capture names hc => exact h.enterCapture
  | leave st' hc hleave => exact h.leave hleave
  | repeatLast st' least most greedy hc hrepeat => exact h.repeatLast hrepeat

end ParseState

/-- The groups of a pattern are numbered from one by their opening brackets. -/
theorem indices_of_read {text : String} {b : Bool} {regex : Regex}
    (h : Regex.read text b = .ok regex) :
    ∃ st, parseFrom { flags := folding b } text.toList = .ok st ∧
      regex.expr.indices = List.range' 1 st.captures := by
  obtain ⟨st, hparse, houter, rfl⟩ := exists_of_read h
  refine ⟨st, hparse, ?_⟩
  have hstart : ParseState.Numbered { flags := folding b } := rfl
  have hnumbered := invariant_of_parseFrom ParseState.Becomes.numbered hstart hparse
  rw [ParseState.Numbered, ParseState.indices, houter, List.reverse_nil, List.flatMap_nil,
    List.nil_append] at hnumbered
  rw [ParseState.indices_groupNode, hnumbered]

end PhotoGrouping.Regex
