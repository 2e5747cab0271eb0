import Mathlib.Data.List.Perm.Basic
import PhotoGrouping.Proofs.Regex.Numbering

namespace PhotoGrouping.Regex

/-- How many single characters a piece spells out. -/
def Piece.weight : Piece → Nat
  | .node n => n.expr.weight
  | .setting => 0

/-- How many single characters branches and the pieces after them spell out. -/
def branchWeight (branches : List Node) (branch : List Piece) : Nat :=
  (branches.map (·.expr.weight)).sum + (branch.map Piece.weight).sum

/-- How many single characters the branches of an open group spell out so far. -/
def OpenGroup.weight (o : OpenGroup) : Nat :=
  branchWeight o.branches o.branch

/-- The depth of parts side by side, which is one more than the deepest if there are several. -/
def nestDepth (depths : List Nat) : Nat :=
  depths.foldl max 0 + if depths.length < 2 then 0 else 1

/-- The depth of a group by the depths of its branches and of the pieces after them. -/
def groupDepth (branches pieces : List Nat) : Nat :=
  nestDepth (nestDepth pieces :: branches)

/-- The depth of an open group that is closed behind a group of the given depth. -/
def OpenGroup.depthAround (o : OpenGroup) (d : Nat) : Nat :=
  groupDepth (o.branches.map (·.depth)) ((d + 1) :: o.branch.map Piece.depth)

/-- The depth of a pattern whose open groups are all closed, the innermost one having the given
depth. -/
def closedDepth : List OpenGroup → Nat → Nat
  | [], d => d
  | o :: outer, d => closedDepth outer (o.depthAround d)

namespace ParseState

/-- How many single characters have been spelled out so far. -/
def weight (st : ParseState) : Nat :=
  branchWeight st.branches st.branch + (st.outer.map OpenGroup.weight).sum

/-- How deep the pattern nests if it ends here and its groups are closed. -/
def depth (st : ParseState) : Nat :=
  closedDepth st.outer (groupDepth (st.branches.map (·.depth)) (st.branch.map Piece.depth))

/-- What one item of a pattern can make of what has been read, whatever stands in its piece and whatever
character it begins with. -/
inductive Step (st : ParseState) : ParseState → Prop
  | piece (flags : Flags) (p : Piece) : Step st { st with flags := flags, branch := p :: st.branch }
  | nextBranch : Step st st.nextBranch
  | enter (index : Option Nat) (flags : Flags) (captures : Nat) (names : List (List Char)) :
    Step st { st.enter index flags with captures := captures, names := names ++ st.names }
  | leave (st' : ParseState) (h : st.leave = .ok st') : Step st st'
  | repeatLast (st' : ParseState) (least : Nat) (most : Option Nat) (greedy : Bool)
    (h : st.repeatLast least most greedy = .ok st') : Step st st'

end ParseState

section

variable {ds es : List Nat} {d e x : Nat}

theorem foldl_max_le_iff (ds : List Nat) (x : Nat) :
    ds.foldl max x ≤ d ↔ x ≤ d ∧ ∀ y ∈ ds, y ≤ d := by
  induction ds generalizing x with
  | nil => simp
  | cons y ds ih => rw [List.foldl_cons, ih, Nat.max_le, List.forall_mem_cons, and_assoc]

theorem nestDepth_le_iff :
    nestDepth ds ≤ d ↔ ∀ x ∈ ds, x + (if ds.length < 2 then 0 else 1) ≤ d := by
  unfold nestDepth
  split
  · simp [foldl_max_le_iff]
  · rename_i hlength
    cases d with
    | zero =>
      have hne : ds ≠ [] := by
        rintro rfl
        exact hlength Nat.two_pos
      obtain ⟨x, hx⟩ := List.exists_mem_of_ne_nil ds hne
      exact iff_of_false (Nat.not_succ_le_zero _) fun h => Nat.not_succ_le_zero _ (h x hx)
    | succ d => simp [foldl_max_le_iff]

theorem le_nestDepth (h : x ∈ ds) : x ≤ nestDepth ds :=
  Nat.le_trans (Nat.le_add_right x _) (nestDepth_le_iff.mp (Nat.le_refl _) x h)

/-- Further parts and deeper ones make the whole no less deep. -/
theorem nestDepth_mono (hlength : ds.length ≤ es.length) (h : ∀ x ∈ ds, ∃ y ∈ es, x ≤ y) :
    nestDepth ds ≤ nestDepth es := by
  rw [nestDepth_le_iff]
  intro x hx
  obtain ⟨y, hy, hxy⟩ := h x hx
  have hes := nestDepth_le_iff.mp (Nat.le_refl (nestDepth es)) y hy
  split
  · omega
  · rw [if_neg (by omega)] at hes
    omega

theorem nestDepth_cons_mono (h : d ≤ e) : nestDepth (d :: ds) ≤ nestDepth (e :: ds) := by
  refine nestDepth_mono (Nat.le_refl _) (List.forall_mem_cons.mpr ⟨⟨e, List.mem_cons_self, h⟩, ?_⟩)
  exact fun x hx => ⟨x, List.mem_cons_of_mem e hx, Nat.le_refl x⟩

theorem nestDepth_le_cons (d : Nat) (ds : List Nat) : nestDepth ds ≤ nestDepth (d :: ds) :=
  nestDepth_mono (Nat.le_succ _) fun x hx => ⟨x, List.mem_cons_of_mem d hx, Nat.le_refl x⟩

theorem groupDepth_mono {pieces pieces' : List Nat} (h : nestDepth pieces ≤ nestDepth pieces') :
    groupDepth ds pieces ≤ groupDepth ds pieces' :=
  nestDepth_cons_mono h

theorem le_groupDepth (h : x ∈ es) : x ≤ groupDepth ds es :=
  Nat.le_trans (le_nestDepth h) (le_nestDepth List.mem_cons_self)

end

namespace OpenGroup

variable {o : OpenGroup} {d e : Nat}

/-- A group is no smaller closed than what is in it. -/
theorem weight_le_closed (o : OpenGroup) (r : Expr) : r.weight ≤ (o.closed r).weight := by
  unfold closed
  split
  · exact Nat.le_add_right r.weight 2
  · exact Nat.le_refl r.weight

theorem lt_depthAround (o : OpenGroup) (d : Nat) : d < o.depthAround d :=
  le_groupDepth List.mem_cons_self

theorem depthAround_mono (o : OpenGroup) (h : d ≤ e) : o.depthAround d ≤ o.depthAround e :=
  groupDepth_mono (nestDepth_cons_mono (Nat.succ_le_succ h))

end OpenGroup

theorem le_closedDepth (outer : List OpenGroup) (d : Nat) : d ≤ closedDepth outer d := by
  induction outer generalizing d with
  | nil => exact Nat.le_refl d
  | cons o outer ih => exact Nat.le_trans (Nat.le_of_lt (o.lt_depthAround d)) (ih _)

theorem closedDepth_mono (outer : List OpenGroup) {d e : Nat} (h : d ≤ e) :
    closedDepth outer d ≤ closedDepth outer e := by
  induction outer generalizing d e with
  | nil => exact h
  | cons o outer ih => exact ih (o.depthAround_mono h)

theorem Expr.weight_le_rep (least : Nat) (most : Option Nat) (greedy : Bool) (r : Expr) :
    r.weight ≤ (Expr.rep least most greedy r).weight := by
  have hcopies : 1 * (r.weight + 1) ≤ max 1 (most.getD least) * (r.weight + 1) :=
    Nat.mul_le_mul_right _ (Nat.le_max_left _ _)
  rw [Expr.weight]
  omega

namespace ParseState

variable {st st' : ParseState} {c : Char}

theorem branchNode_weight (st : ParseState) :
    st.branchNode.expr.weight = (st.branch.map Piece.weight).sum := by
  change (Expr.catOf (st.branch.reverse.filterMap Piece.expr?)).weight = _
  rw [Expr.weight_catOf, ← List.sum_reverse (st.branch.map Piece.weight), ← List.map_reverse]
  induction st.branch.reverse with
  | nil => rfl
  | cons p branch ih =>
    cases p with
    | node n => simp [Piece.expr?, Piece.weight, ih]
    | setting =>
      rw [List.filterMap_cons_none rfl, ih]
      simp [Piece.weight]

/-- The size of the innermost open group is that of its branches. -/
theorem groupNode_weight (st : ParseState) :
    st.groupNode.expr.weight = branchWeight st.branches st.branch := by
  rw [groupNode_eq_groupOf, groupOf_expr, Expr.weight_altOf, List.map_map, List.map_append,
    List.sum_append, List.map_reverse, List.sum_reverse, branchWeight, ← branchNode_weight]
  simp [Function.comp_def]

theorem branchNode_depth (st : ParseState) :
    st.branchNode.depth = nestDepth (st.branch.map Piece.depth) := by
  rw [nestDepth, List.length_map, branchNode]
  dsimp only
  split <;> rfl

theorem groupNode_depth (st : ParseState) :
    st.groupNode.depth = groupDepth (st.branches.map (·.depth)) (st.branch.map Piece.depth) := by
  rw [groupDepth, ← branchNode_depth]
  unfold groupNode
  split
  · rename_i hb
    simp [hb, nestDepth]
  · rename_i n rest hb
    have hperm : ((n :: rest).reverse ++ [st.branchNode]).Perm (st.branchNode :: n :: rest) :=
      (List.perm_append_singleton _ _).trans ((List.reverse_perm _).cons _)
    have hdeepest : (((n :: rest).reverse ++ [st.branchNode]).map (·.depth)).foldl max 0 =
        ((st.branchNode :: n :: rest).map (·.depth)).foldl max 0 :=
      (hperm.map (·.depth)).foldl_eq 0
    simp only [hb, nestDepth, hdeepest]
    rfl

/-- An item makes a pattern no smaller. -/
theorem Step.weight_le (h : st.Step st') : st.weight ≤ st'.weight := by
  cases h with
  | piece flags p => simp [weight, branchWeight]
  | nextBranch => simp [weight, branchWeight, ParseState.nextBranch, branchNode_weight]; omega
  | enter index flags captures names =>
    simp [weight, branchWeight, ParseState.enter, OpenGroup.weight]
  | leave st' h =>
    obtain ⟨o, outer, houter, rfl⟩ := leave_eq_ok h
    have hr := o.weight_le_closed st.groupNode.expr
    rw [groupNode_weight] at hr
    simp only [weight, houter, List.map_cons, List.sum_cons, OpenGroup.weight, branchWeight,
      Piece.weight] at hr ⊢
    omega
  | repeatLast st' least most greedy h =>
    obtain ⟨n, rest, hbranch, rfl⟩ := repeatLast_eq_ok h
    have hrep := Expr.weight_le_rep least most (greedy != st.flags.swapGreed) n.expr
    simp only [weight, branchWeight, hbranch, List.map_cons, List.sum_cons, Piece.weight]
    omega

/-- An item makes a pattern nest no less deep. -/
theorem Step.depth_le (h : st.Step st') : st.depth ≤ st'.depth := by
  cases h with
  | piece flags p => exact closedDepth_mono st.outer (groupDepth_mono (nestDepth_le_cons _ _))
  | nextBranch =>
    apply closedDepth_mono st.outer
    change _ ≤ nestDepth (0 :: st.branchNode.depth :: _)
    rw [branchNode_depth]
    exact nestDepth_le_cons _ _
  | enter index flags captures names =>
    exact closedDepth_mono st.outer (groupDepth_mono (nestDepth_le_cons _ _))
  | leave st' h =>
    obtain ⟨o, outer, houter, rfl⟩ := leave_eq_ok h
    apply Nat.le_of_eq
    rw [depth, houter, ← groupNode_depth]
    rfl
  | repeatLast st' least most greedy h =>
    obtain ⟨n, rest, hbranch, rfl⟩ := repeatLast_eq_ok h
    apply closedDepth_mono st.outer
    rw [hbranch]
    exact groupDepth_mono (nestDepth_cons_mono (Nat.le_succ _))

/-- An item forgets no name. -/
theorem Step.names_subset (h : st.Step st') : st.names ⊆ st'.names := by
  cases h with
  | piece flags p => exact List.Subset.refl _
  | nextBranch => exact List.Subset.refl _
  | enter index flags captures names => exact List.subset_append_right _ _
  | leave st' h =>
    obtain ⟨o, outer, -, rfl⟩ := leave_eq_ok h
    exact List.Subset.refl _
  | repeatLast st' least most greedy h =>
    obtain ⟨n, rest, -, rfl⟩ := repeatLast_eq_ok h
    exact List.Subset.refl _

/-- Every item is a step, whatever character it begins with. -/
theorem Becomes.step (h : st.Becomes c st') : st.Step st' := by
  cases h with
  | leaf r d hr hc => exact .piece st.flags _
  | setting flags hc => exact .piece flags .setting
  | nextBranch hc => exact .nextBranch
  | enter flags hc => exact .enter none flags st.captures []
  | capture names hc => exact .enter _ _ _ names
  | leave st' hc h => exact .leave st' h
  | repeatLast st' least most greedy hc h => exact .repeatLast st' least most greedy h

end ParseState

/-- Reading a pattern on makes it neither smaller nor less deep, and forgets no name. -/
theorem grows_of_parseFrom {st st' : ParseState} {cs : List Char}
    (h : parseFrom st cs = .ok st') :
    st.weight ≤ st'.weight ∧ st.depth ≤ st'.depth ∧ st.names ⊆ st'.names := by
  refine invariant_of_parseFrom
    (P := fun next => st.weight ≤ next.weight ∧ st.depth ≤ next.depth ∧ st.names ⊆ next.names)
    (fun hitem ⟨hweight, hdepth, hnames⟩ => ?_)
    ⟨Nat.le_refl _, Nat.le_refl _, List.Subset.refl _⟩ h
  have hstep := hitem.step
  exact ⟨Nat.le_trans hweight hstep.weight_le, Nat.le_trans hdepth hstep.depth_le,
    List.Subset.trans hnames hstep.names_subset⟩

end PhotoGrouping.Regex
