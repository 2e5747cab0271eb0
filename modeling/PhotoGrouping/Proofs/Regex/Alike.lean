import PhotoGrouping.Proofs.Regex.Reads
import PhotoGrouping.Proofs.Regex.Search
import PhotoGrouping.Proofs.Text.FoldClass

namespace PhotoGrouping.Regex

open Text
open List (Forall₂)

/-- Expressions that differ in how their sets are written only: the sets have the same members. -/
inductive Expr.Alike : Expr → Expr → Prop
  | empty : Alike .empty .empty
  | oneOf {s t : CharClass} (h : ∀ c, s.contains c = t.contains c) : Alike (.oneOf s) (.oneOf t)
  | look (a : Assertion) : Alike (.look a) (.look a)
  | cat {r r' s s' : Expr} : Alike r r' → Alike s s' → Alike (.cat r s) (.cat r' s')
  | alt {r r' s s' : Expr} : Alike r r' → Alike s s' → Alike (.alt r s) (.alt r' s')
  | capture (i : Nat) {r r' : Expr} : Alike r r' → Alike (.capture i r) (.capture i r')
  | rep (least : Nat) (most : Option Nat) (greedy : Bool) {r r' : Expr} :
    Alike r r' → Alike (.rep least most greedy r) (.rep least most greedy r')

/-- Results that are both refused, or both given and related. -/
def Agree {α β : Type} (R : α → β → Prop) : Except ParseError α → Except ParseError β → Prop
  | .ok a, .ok b => R a b
  | .error _, .error _ => True
  | _, _ => False

theorem Agree.cases {α β : Type} {R : α → β → Prop} {x : Except ParseError α} {y : Except ParseError β}
    (h : Agree R x y) :
    (∃ e e', x = .error e ∧ y = .error e') ∨ ∃ a b, x = .ok a ∧ y = .ok b ∧ R a b := by
  cases x with
  | error e =>
    cases y with
    | error e' => exact Or.inl ⟨e, e', rfl, rfl⟩
    | ok b => cases h
  | ok a =>
    cases y with
    | error e' => cases h
    | ok b => exact Or.inr ⟨a, b, rfl, rfl, h⟩

/-- Patterns that are both refused or read to alike expressions. -/
def ReadAlike : Except ParseError Regex → Except ParseError Regex → Prop :=
  Agree fun regex regex' => regex.expr.Alike regex'.expr

namespace Expr

variable {r r' : Expr} {rs rs' : List Expr}

theorem Alike.refl (r : Expr) : r.Alike r := by
  induction r with
  | empty => exact .empty
  | oneOf s => exact .oneOf fun _ => rfl
  | look a => exact .look a
  | cat r s ihr ihs => exact .cat ihr ihs
  | alt r s ihr ihs => exact .alt ihr ihs
  | capture i r ih => exact .capture i ih
  | rep least most greedy r ih => exact .rep least most greedy ih

/-- Alike expressions match the same parts of a text. -/
theorem Alike.spans_eq (h : r.Alike r') (text : List Char) : r.Spans text = r'.Spans text := by
  induction h with
  | empty => rfl
  | oneOf hs =>
    funext i sl j sl'
    simp only [Spans, TakesAt, hs]
  | look a => rfl
  | cat _ _ ihr ihs =>
    funext i sl j sl'
    simp only [Spans, ihr, ihs]
  | alt _ _ ihr ihs =>
    funext i sl j sl'
    simp only [Spans, ihr, ihs]
  | capture i _ ih =>
    funext i sl j sl'
    simp only [Spans, ih]
  | rep least most greedy _ ih =>
    funext i sl j sl'
    simp only [Spans, ih]

theorem Alike.weight_eq (h : r.Alike r') : r.weight = r'.weight := by
  induction h with
  | empty | oneOf _ | look a => rfl
  | cat _ _ ihr ihs => rw [weight, weight, ihr, ihs]
  | alt _ _ ihr ihs => rw [weight, weight, ihr, ihs]
  | capture i _ ih => rw [weight, weight, ih]
  | rep least most greedy _ ih => rw [weight, weight, ih]

theorem alike_catOf (h : Forall₂ Alike rs rs') : (catOf rs).Alike (catOf rs') :=
  joins_catOf.rel .empty .cat h

theorem alike_altOf (h : Forall₂ Alike rs rs') : (altOf rs).Alike (altOf rs') :=
  joins_altOf.rel .empty .alt h

end Expr

theorem ReadAlike.refl (x : Except ParseError Regex) : ReadAlike x x := by
  cases x with
  | error e => trivial
  | ok regex => exact Expr.Alike.refl regex.expr

/-- Alike patterns match the same texts. -/
theorem isMatch_eq_of_alike {regex regex' : Regex} (h : regex.expr.Alike regex'.expr)
    (text : String) : regex.isMatch text = regex'.isMatch text := by
  have hmatch (regex : Regex) : regex.isMatch text = true ↔ ∃ i j sl, i ≤ text.toList.length ∧
      regex.expr.Spans text.toList i (.none 0) j sl := search_isSome_iff
  rw [Bool.eq_iff_iff, hmatch, hmatch, h.spans_eq text.toList]

/-- Expressions that are alike and nest equally deep. -/
structure Node.Alike (n m : Node) : Prop where
  expr : n.expr.Alike m.expr
  depth : n.depth = m.depth

/-- Items of a branch that are alike. -/
inductive Piece.Alike : Piece → Piece → Prop
  | node {n m : Node} (h : n.Alike m) : Alike (.node n) (.node m)
  | setting : Alike .setting .setting

/-- Open groups that are alike, without regard to case around them. -/
structure OpenGroup.Alike (o o' : OpenGroup) : Prop where
  index : o.index = o'.index
  flags : o.flags = folding true ∧ o'.flags = folding true
  branch : Forall₂ Piece.Alike o.branch o'.branch
  branches : Forall₂ Node.Alike o.branches o'.branches

/-- What has been read of two patterns without regard to case, and is alike. -/
structure ParseState.Alike (st st' : ParseState) : Prop where
  flags : st.flags = folding true ∧ st'.flags = folding true
  branch : Forall₂ Piece.Alike st.branch st'.branch
  branches : Forall₂ Node.Alike st.branches st'.branches
  outer : Forall₂ OpenGroup.Alike st.outer st'.outer
  captures : st.captures = st'.captures

variable {st st' : ParseState} {c d : Char} {cs ds : List Char}

theorem depths_of_alike {ps qs : List Piece} (h : Forall₂ Piece.Alike ps qs) :
    ps.map Piece.depth = qs.map Piece.depth := by
  induction h with
  | nil => rfl
  | cons hp _ ih =>
    cases hp with
    | node hn => simp [Piece.depth, hn.depth, ih]
    | setting => simp [Piece.depth, ih]

theorem exprs_of_alike {ps qs : List Piece} (h : Forall₂ Piece.Alike ps qs) :
    Forall₂ Expr.Alike (ps.filterMap Piece.expr?) (qs.filterMap Piece.expr?) := by
  induction h with
  | nil => exact .nil
  | cons hp _ ih =>
    cases hp with
    | node hn => exact .cons hn.expr ih
    | setting => exact ih

namespace ParseState

theorem Alike.branchNode (h : st.Alike st') : st.branchNode.Alike st'.branchNode := by
  have hdepths := depths_of_alike h.branch
  have hlength := h.branch.length_eq
  constructor
  · exact Expr.alike_catOf (exprs_of_alike (List.rel_reverse h.branch))
  · simp only [ParseState.branchNode, hdepths, hlength]

theorem alike_groupOf {ns ms : List Node} (h : Forall₂ Node.Alike ns ms) :
    (groupOf ns).Alike (groupOf ms) := by
  have hexprs : Forall₂ Expr.Alike (ns.map (·.expr)) (ms.map (·.expr)) := by
    rw [List.forall₂_map_left_iff, List.forall₂_map_right_iff]
    exact h.imp fun _ _ hn => hn.expr
  have hdepths : ns.map (·.depth) = ms.map (·.depth) := by
    rw [← List.forall₂_eq_eq_eq, List.forall₂_map_left_iff, List.forall₂_map_right_iff]
    exact h.imp fun _ _ hn => hn.depth
  have hnode : Node.Alike ⟨Expr.altOf (ns.map (·.expr)), (ns.map (·.depth)).foldl max 0 + 1⟩
      ⟨Expr.altOf (ms.map (·.expr)), (ms.map (·.depth)).foldl max 0 + 1⟩ :=
    ⟨Expr.alike_altOf hexprs, by rw [hdepths]⟩
  cases h with
  | nil => exact hnode
  | cons hn hrest =>
    cases hrest with
    | nil => exact hn
    | cons hm hrest => exact hnode

theorem Alike.groupNode (h : st.Alike st') : st.groupNode.Alike st'.groupNode := by
  rw [groupNode_eq_groupOf, groupNode_eq_groupOf]
  exact alike_groupOf (List.rel_append (List.rel_reverse h.branches) (.cons h.branchNode .nil))

theorem Alike.push {p q : Piece} (h : st.Alike st') (hp : p.Alike q) :
    (st.push p).Alike (st'.push q) :=
  { h with branch := .cons hp h.branch }

theorem Alike.pushLeaf {r r' : Expr} (h : st.Alike st') (hr : r.Alike r') :
    (st.pushLeaf r).Alike (st'.pushLeaf r') :=
  h.push (.node ⟨hr, rfl⟩)

theorem Alike.nextBranch (h : st.Alike st') : st.nextBranch.Alike st'.nextBranch :=
  { h with branch := .nil, branches := .cons h.branchNode h.branches }

theorem Alike.enterCapture (h : st.Alike st') : st.enterCapture.Alike st'.enterCapture where
  flags := h.flags
  branch := .nil
  branches := .nil
  outer := .cons ⟨by rw [h.captures], h.flags, h.branch, h.branches⟩ h.outer
  captures := by
    change st.captures + 1 = st'.captures + 1
    rw [h.captures]

theorem Alike.leave (h : st.Alike st') : Agree Alike st.leave st'.leave := by
  have hgroup := h.groupNode
  have houter := h.outer
  unfold ParseState.leave
  cases hst : st.outer with
  | nil =>
    rw [hst, List.forall₂_nil_left_iff] at houter
    rw [houter]
    trivial
  | cons o outer =>
    rw [hst] at houter
    obtain ⟨o', outer', ho, houter, hst'⟩ := List.forall₂_cons_left_iff.mp houter
    simp only [hst']
    rw [← ho.index]
    refine
      { flags := ho.flags
        branch := .cons (.node ⟨?_, by rw [hgroup.depth]⟩) ho.branch
        branches := ho.branches
        outer := houter
        captures := h.captures }
    cases o.index with
    | none => exact hgroup.expr
    | some i => exact .capture i hgroup.expr

theorem Alike.repeatLast (h : st.Alike st') (least : Nat) (most : Option Nat) (greedy : Bool) :
    Agree Alike (st.repeatLast least most greedy) (st'.repeatLast least most greedy) := by
  have hbranch := h.branch
  have hgreed : st.flags.swapGreed = st'.flags.swapGreed := by rw [h.flags.1, h.flags.2]
  unfold ParseState.repeatLast
  cases hst : st.branch with
  | nil =>
    rw [hst, List.forall₂_nil_left_iff] at hbranch
    rw [hbranch]
    trivial
  | cons p rest =>
    rw [hst] at hbranch
    obtain ⟨q, rest', hp, hrest, hst'⟩ := List.forall₂_cons_left_iff.mp hbranch
    rw [hst']
    cases hp with
    | setting => trivial
    | node hn =>
      dsimp only [Agree]
      rw [hgreed, hn.depth]
      exact { h with branch := .cons (.node ⟨.rep least most _ hn.expr, rfl⟩) hrest }

end ParseState

end PhotoGrouping.Regex
