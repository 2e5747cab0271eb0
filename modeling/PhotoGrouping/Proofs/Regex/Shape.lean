import PhotoGrouping.Proofs.Regex.ClassShape
import PhotoGrouping.Proofs.Regex.Parts

namespace PhotoGrouping.Regex

open Text

/-- An expression whatever its sets are. -/
def Expr.shape : Expr → Expr
  | .empty => .empty
  | .oneOf _ => .oneOf .never
  | .look a => .look a
  | .cat r s => .cat r.shape s.shape
  | .alt r s => .alt r.shape s.shape
  | .capture i r => .capture i r.shape
  | .rep least most greedy r => .rep least most greedy r.shape

/-- An expression with its depth, whatever its sets are. -/
def Node.shape (n : Node) : Node :=
  ⟨n.expr.shape, n.depth⟩

/-- An item of a branch whatever its sets are. -/
def Piece.shape : Piece → Piece
  | .node n => .node n.shape
  | .setting => .setting

/-- An open group whatever its sets are and its settings say of case. -/
def OpenGroup.shape (g : OpenGroup) : OpenGroup :=
  ⟨g.index, g.flags.shape, g.branch.map Piece.shape, g.branches.map Node.shape⟩

/-- What has been read of a pattern, whatever the sets are and the settings say of case. -/
def ParseState.shape (st : ParseState) : ParseState :=
  { st with
    flags := st.flags.shape, branch := st.branch.map Piece.shape,
    branches := st.branches.map Node.shape, outer := st.outer.map OpenGroup.shape }

/-- Letters of settings whatever they say of case. -/
def FlagProgress.shape (p : FlagProgress) : FlagProgress :=
  { p with flags := p.flags.shape }

namespace Expr

theorem shape_catOf : ∀ rs, (catOf rs).shape = catOf (rs.map shape) :=
  joins_catOf.apply shape cat (fun _ _ => rfl) rfl (fun _ => rfl) fun _ _ _ => rfl

theorem shape_altOf : ∀ rs, (altOf rs).shape = altOf (rs.map shape) :=
  joins_altOf.apply shape alt (fun _ _ => rfl) rfl (fun _ => rfl) fun _ _ _ => rfl

/-- The size of an expression does not depend on its sets. -/
theorem weight_shape (r : Expr) : r.shape.weight = r.weight := by
  induction r with
  | empty => rfl
  | oneOf s => rfl
  | look a => rfl
  | cat r s ihr ihs | alt r s ihr ihs => simp only [shape, weight, ihr, ihs]
  | capture i r ih => simp only [shape, weight, ih]
  | rep least most greedy r ih => simp only [shape, weight, ih]

end Expr

theorem Piece.expr?_shape (p : Piece) : p.shape.expr? = p.expr?.map Expr.shape := by
  cases p with
  | node n => rfl
  | setting => rfl

theorem Piece.depth_shape (p : Piece) : p.shape.depth = p.depth := by
  cases p with
  | node n => rfl
  | setting => rfl

namespace ParseState

variable {st st' : ParseState}

theorem branchNode_shape (st : ParseState) : st.shape.branchNode = st.branchNode.shape := by
  have hexprs : (st.shape.branch.reverse.filterMap Piece.expr?) =
      (st.branch.reverse.filterMap Piece.expr?).map Expr.shape := by
    simp only [shape, ← List.map_reverse, List.filterMap_map, List.map_filterMap,
      Function.comp_def, Piece.expr?_shape]
  have hdepths : st.shape.branch.map Piece.depth = st.branch.map Piece.depth := by
    simp only [shape, List.map_map, Function.comp_def, Piece.depth_shape]
  have hlength : st.shape.branch.length = st.branch.length := List.length_map _
  simp only [branchNode, hexprs, hdepths, hlength, Node.shape, Expr.shape_catOf]

theorem groupNode_shape (st : ParseState) : st.shape.groupNode = st.groupNode.shape := by
  unfold groupNode
  cases hb : st.branches with
  | nil =>
    have hbranches : st.shape.branches = [] := by simp [shape, hb]
    simp only [hbranches, branchNode_shape]
  | cons n rest =>
    have hbranches : st.shape.branches = n.shape :: rest.map Node.shape := by simp [shape, hb]
    simp [hbranches, branchNode_shape, Node.shape, Expr.shape_altOf, Function.comp_def]

theorem nextBranch_shape (st : ParseState) : st.shape.nextBranch = st.nextBranch.shape := by
  rw [nextBranch, nextBranch, branchNode_shape]
  rfl

theorem leave_shape (st : ParseState) : st.shape.leave = st.leave.map shape := by
  unfold leave
  cases ho : st.outer with
  | nil => simp [shape, ho, Except.map]
  | cons g outer =>
    have houter : st.shape.outer = g.shape :: outer.map OpenGroup.shape := by simp [shape, ho]
    simp only [houter, groupNode_shape]
    cases hi : g.index with
    | none => simp [hi, OpenGroup.shape, Except.map, shape, Piece.shape, Node.shape]
    | some i => simp [hi, OpenGroup.shape, Except.map, shape, Piece.shape, Node.shape, Expr.shape]

theorem repeatLast_shape (st : ParseState) (least : Nat) (most : Option Nat) (greedy : Bool) :
    st.shape.repeatLast least most greedy = (st.repeatLast least most greedy).map shape := by
  unfold repeatLast
  rcases hb : st.branch with _ | ⟨_ | _, rest⟩
  all_goals simp [shape, hb, Piece.shape, Node.shape, Expr.shape, Except.map, Flags.shape]

/-- The depth of a whole pattern and its groups do not depend on its sets. -/
theorem finish_shape (st : ParseState) : st.shape.finish = st.finish.map Expr.shape := by
  unfold finish
  cases ho : st.outer with
  | cons g outer => simp [shape, ho, Except.map]
  | nil =>
    have houter : st.shape.outer = [] := by simp [shape, ho]
    simp only [houter, groupNode_shape]
    change (if st.groupNode.depth > maxDepth then _ else _) = _
    split
    · rfl
    · rfl

end ParseState

theorem switch?_shape (f : Flags) (on : Bool) (c : Char) :
    (f.shape.switch? on c).map Flags.shape = (f.switch? on c).map Flags.shape := by
  unfold Flags.switch?
  split
  all_goals rfl

theorem readFlags_shape {p q : FlagProgress} (h : p.shape = q.shape) (cs : List Char) :
    (readFlags p cs).through (Prod.map FlagProgress.shape id) =
      (readFlags q cs).through (Prod.map FlagProgress.shape id) := by
  induction cs generalizing p q with
  | nil => rfl
  | cons c cs ih =>
    obtain ⟨hflags, hletters, hoff, hdangling⟩ := FlagProgress.mk.inj h
    have hswitch : (p.flags.switch? (!q.off) c).map Flags.shape =
        (q.flags.switch? (!q.off) c).map Flags.shape := by
      rw [← switch?_shape, hflags, switch?_shape]
    rw [readFlags, readFlags, hletters, hoff, hdangling]
    split
    · split
      · rfl
      · exact Reading.through_ok (congrArg (·, c == ':') h) cs
    · split
      · split
        · rfl
        · apply ih
          simp only [FlagProgress.shape, hflags]
      · cases hp : p.flags.switch? (!q.off) c with
        | none =>
          rw [hp, Option.map_none, eq_comm, Option.map_eq_none_iff] at hswitch
          rw [hswitch]
        | some f =>
          rw [hp, Option.map_some, eq_comm, Option.map_eq_some_iff] at hswitch
          obtain ⟨g, hg, hgf⟩ := hswitch
          rw [hg]
          dsimp only
          split
          · rfl
          · apply ih
            simp only [FlagProgress.shape, hgf]

theorem readBounds_shape (f : Flags) (cs : List Char) :
    readBounds f.shape cs = readBounds f cs := by
  simp only [readBounds, readMost, readUpper, readCount_shape, Flags.skip_shape]

section

variable {st st' : ParseState}

theorem skip_eq_of_shape (h : st.shape = st'.shape) (cs : List Char) :
    st.flags.skip cs = st'.flags.skip cs := by
  change st.shape.flags.skip cs = st'.shape.flags.skip cs
  rw [h]

theorem readRepeat_shape (h : st.shape = st'.shape) (least : Nat) (most : Option Nat)
    (cs : List Char) :
    (readRepeat st least most cs).through ParseState.shape =
      (readRepeat st' least most cs).through ParseState.shape := by
  apply Reading.through_map
  rw [← ParseState.repeatLast_shape, h, ParseState.repeatLast_shape]

theorem ParseState.canRepeat_shape (st : ParseState) : st.shape.canRepeat = st.canRepeat := by
  unfold canRepeat
  rcases hb : st.branch with _ | ⟨_ | _, rest⟩
  all_goals simp [shape, hb, Piece.shape]

theorem readCounted_shape (h : st.shape = st'.shape) (cs : List Char) :
    (readCounted st cs).through ParseState.shape =
    (readCounted st' cs).through ParseState.shape := by
  have hflags : st.flags.shape = st'.flags.shape := congrArg ParseState.flags h
  have hbounds : readBounds st.flags cs = readBounds st'.flags cs := by
    rw [← readBounds_shape, hflags, readBounds_shape]
  have hrepeat : st.canRepeat = st'.canRepeat := by
    rw [← ParseState.canRepeat_shape, h, ParseState.canRepeat_shape]
  simp only [readCounted, skip_eq_of_shape h, hbounds, hrepeat]
  split
  · split
    · rfl
    · exact readRepeat_shape h _ _ _
  · rfl

theorem enter_shape {f g : Flags} (h : st.shape = st'.shape) (hf : f.shape = g.shape)
    (index : Option Nat) : (st.enter index f).shape = (st'.enter index g).shape := by
  change st.shape.enter index f.shape = st'.shape.enter index g.shape
  rw [h, hf]

theorem enterCapture_shape (h : st.shape = st'.shape) :
    st.enterCapture.shape = st'.enterCapture.shape := by
  change st.shape.enterCapture = st'.shape.enterCapture
  rw [h]

theorem openNamed_shape (h : st.shape = st'.shape) (cs : List Char) :
    (openNamed st cs).through ParseState.shape = (openNamed st' cs).through ParseState.shape := by
  obtain ⟨-, -, -, -, -, hnames⟩ := ParseState.mk.inj h
  unfold openNamed
  split
  · rfl
  · rename_i name rest _
    rw [hnames]
    split
    · rfl
    · split
      · rfl
      · have henter : { st.enterCapture with names := name :: st'.names }.shape =
            { st'.enterCapture with names := name :: st'.names }.shape :=
          congrArg (fun s : ParseState => { s with names := name :: st'.names })
            (enterCapture_shape h)
        exact Reading.through_ok henter rest

theorem openGroup_shape (h : st.shape = st'.shape) (cs : List Char) :
    (openGroup st cs).through ParseState.shape = (openGroup st' cs).through ParseState.shape := by
  have hflags : st.flags.shape = st'.flags.shape := congrArg ParseState.flags h
  have hprogress : FlagProgress.shape { flags := st.flags } =
      FlagProgress.shape { flags := st'.flags } := by
    simp only [FlagProgress.shape, hflags]
  unfold openGroup
  rw [skip_eq_of_shape h]
  split
  case h_5 | h_6 => exact openNamed_shape h _
  case h_8 rest _ _ _ _ _ _ _ _ =>
    rcases Reading.cases_of_through_eq (readFlags_shape hprogress rest) with
      ⟨e, hp, hq⟩ | ⟨⟨p, b⟩, ⟨q, b'⟩, rest', hp, hq, hpq⟩
    · rw [hp, hq]
    · obtain ⟨hshape, rfl⟩ := Prod.mk.inj hpq
      obtain ⟨hflags', hletters, -, -⟩ := FlagProgress.mk.inj hshape
      rw [hp, hq]
      cases b with
      | true => exact Reading.through_ok (enter_shape h hflags' none) rest'
      | false =>
        dsimp only [id]
        rw [hletters]
        split
        · rfl
        · have hsetting : { st with flags := p.flags, branch := .setting :: st.branch }.shape =
              { st' with flags := q.flags, branch := .setting :: st'.branch }.shape := by
            change { st.shape with flags := p.flags.shape, branch := .setting :: st.shape.branch } =
              { st'.shape with flags := q.flags.shape, branch := .setting :: st'.shape.branch }
            rw [h, hflags']
          exact Reading.through_ok hsetting rest'
  case h_9 => exact Reading.through_ok (enterCapture_shape h) _
  all_goals rfl

theorem push_shape {p q : Piece} (h : st.shape = st'.shape) (hp : p.shape = q.shape) :
    (st.push p).shape = (st'.push q).shape := by
  change st.shape.push p.shape = st'.shape.push q.shape
  rw [h, hp]

theorem pushLeaf_shape {r s : Expr} (h : st.shape = st'.shape) (hr : r.shape = s.shape) :
    (st.pushLeaf r).shape = (st'.pushLeaf s).shape :=
  push_shape h (congrArg (fun t => Piece.node ⟨t, 0⟩) hr)

theorem escaped_shape {f g : Flags} {e e' : EscapeSequence} (h : e.shape = e'.shape) :
    (f.escaped e).shape = (g.escaped e').shape := by
  rcases EscapeSequence.cases_of_shape_eq h with ⟨c, rfl, rfl⟩ | ⟨s, s', rfl, rfl⟩ | ⟨a, rfl, rfl⟩
  · rfl
  · rfl
  · rfl

/-- An item of a pattern does the same to states that differ in sets and case only, but for sets and
case. -/
theorem readItem_shape (h : st.shape = st'.shape) (c : Char) (cs : List Char) :
    (readItem st c cs).through ParseState.shape = (readItem st' c cs).through ParseState.shape := by
  have hflags : st.flags.shape = st'.flags.shape := congrArg ParseState.flags h
  have hdot : st.flags.dot = st'.flags.dot := by
    change st.flags.shape.dot = st'.flags.shape.dot
    rw [hflags]
  have hcaret : st.flags.caret = st'.flags.caret := by
    change st.flags.shape.caret = st'.flags.shape.caret
    rw [hflags]
  have hdollar : st.flags.dollar = st'.flags.dollar := by
    change st.flags.shape.dollar = st'.flags.shape.dollar
    rw [hflags]
  have hclass : (readClass st.flags cs).through (·.depth) =
      (readClass st'.flags cs).through (·.depth) := by
    rw [← readClass_shape, hflags, readClass_shape]
  have hescape : (readEscape st.flags cs).through EscapeSequence.shape =
      (readEscape st'.flags cs).through EscapeSequence.shape := by
    rw [← readEscape_shape, hflags, readEscape_shape]
  unfold readItem
  split
  case h_1 => exact openGroup_shape h cs
  case h_2 =>
    apply Reading.through_map
    rw [← ParseState.leave_shape, h, ParseState.leave_shape]
  case h_3 =>
    have hnext : st.nextBranch.shape = st'.nextBranch.shape := by
      rw [← ParseState.nextBranch_shape, h, ParseState.nextBranch_shape]
    exact Reading.through_ok hnext cs
  case h_4 =>
    rcases Reading.cases_of_through_eq hclass with ⟨e, hx, hy⟩ | ⟨m, m', rest, hx, hy, hdepth⟩
    · rw [hx, hy]
    · rw [hx, hy]
      have hpush := push_shape (p := .node ⟨.oneOf m.set, m.depth⟩)
        (q := .node ⟨.oneOf m'.set, m'.depth⟩) h
        (congrArg (fun d => Piece.node ⟨.oneOf .never, d⟩) hdepth)
      exact Reading.through_ok hpush rest
  case h_5 | h_6 | h_7 => exact readRepeat_shape h _ _ cs
  case h_8 => exact readCounted_shape h cs
  case h_9 =>
    rcases Reading.cases_of_through_eq hescape with ⟨e, hx, hy⟩ | ⟨e, e', rest, hx, hy, he⟩
    · rw [hx, hy]
    · rw [hx, hy]
      exact Reading.through_ok (pushLeaf_shape h (escaped_shape he)) rest
  case h_10 =>
    rw [hdot]
    cases st'.flags.dot with
    | error e => rfl
    | ok r => exact Reading.through_ok (pushLeaf_shape h rfl) cs
  case h_11 =>
    rw [hcaret]
    exact Reading.through_ok (pushLeaf_shape h rfl) cs
  case h_12 =>
    rw [hdollar]
    exact Reading.through_ok (pushLeaf_shape h rfl) cs
  case h_13 => exact Reading.through_ok (pushLeaf_shape h rfl) cs

theorem parseFrom_eq (st : ParseState) (cs : List Char) :
    parseFrom st cs =
      match st.flags.skip cs with
      | [] => .ok st
      | c :: rest =>
        match readItem st c rest with
        | .error e => .error e
        | .ok (st', rest') => parseFrom st' rest' := by
  fun_cases parseFrom st cs
  all_goals simp only [*]

theorem parseFrom_shape (h : st.shape = st'.shape) (cs : List Char) :
    (parseFrom st cs).map ParseState.shape = (parseFrom st' cs).map ParseState.shape := by
  -- The induction is on the reading from the first state; `h` is kept from item to item.
  fun_induction parseFrom st cs generalizing st' with
  | case1 st cs hc =>
    rw [skip_eq_of_shape h] at hc
    simp only [parseFrom_eq st', hc]
    exact congrArg Except.ok h
  | case2 st cs c rest hc e hi =>
    have hitem := readItem_shape h c rest
    rw [hi] at hitem
    rw [skip_eq_of_shape h] at hc
    simp only [parseFrom_eq st', hc, eq_error_of_map_eq hitem]
  | case3 st cs c rest hc next rest' hi ih =>
    have hitem := readItem_shape h c rest
    rw [hi] at hitem
    obtain ⟨next', hi', hnext⟩ := Reading.exists_ok_of_through_eq hitem
    rw [skip_eq_of_shape h] at hc
    simp only [parseFrom_eq st', hc, hi']
    exact ih hnext

end

/-- With or without regard to case, a pattern is read to the same expression but for its sets, or
not at all for the same reason. -/
theorem read_shape (text : String) (caseless caseless' : Bool) :
    (Regex.read text caseless).map (fun r => r.expr.shape) =
      (Regex.read text caseless').map fun r => r.expr.shape := by
  have hstart : ParseState.shape { flags := { caseless := caseless } } =
      ParseState.shape { flags := { caseless := caseless' } } := rfl
  have hparse := parseFrom_shape hstart text.toList
  unfold Regex.read
  rcases cases_of_map_eq hparse with ⟨e, hx, hy⟩ | ⟨st, st', hx, hy, hst⟩
  · rw [hx, hy]
  · rw [hx, hy]
    have hfinish : st.finish.map Expr.shape = st'.finish.map Expr.shape := by
      rw [← ParseState.finish_shape, hst, ParseState.finish_shape]
    dsimp only
    rcases cases_of_map_eq hfinish with ⟨e, hx, hy⟩ | ⟨r, r', hx, hy, hr⟩
    · rw [hx, hy]
    · rw [hx, hy]
      exact congrArg Except.ok hr

theorem exists_read_of_read {text : String} {caseless : Bool} {regex : Regex}
    (h : Regex.read text caseless = .ok regex) (caseless' : Bool) :
    ∃ regex', Regex.read text caseless' = .ok regex' ∧ regex'.expr.shape = regex.expr.shape := by
  have hshape := read_shape text caseless caseless'
  rw [h] at hshape
  obtain ⟨regex', hregex', hsame⟩ := exists_ok_of_map_eq hshape
  exact ⟨regex', hregex', hsame.symm⟩

/-- With or without regard to case, a pattern is refused for the same reason, if it is. -/
theorem parse_shape (text : String) (caseless caseless' : Bool) :
    (Regex.parse text caseless).map (fun r => r.expr.shape) =
      (Regex.parse text caseless').map fun r => r.expr.shape := by
  unfold Regex.parse
  rcases cases_of_map_eq (read_shape text caseless caseless') with
    ⟨e, hx, hy⟩ | ⟨r, r', hx, hy, hr⟩
  · rw [hx, hy]
  · have hfits : r.fits = r'.fits := by
      rw [Regex.fits, Regex.fits, ← Expr.weight_shape, hr, Expr.weight_shape]
    rw [hx, hy]
    dsimp only
    rw [hfits]
    split
    · exact congrArg Except.ok hr
    · rfl

/-- Whether a pattern can be searched for does not depend on regard to case. -/
theorem parse_isOk (text : String) (caseless caseless' : Bool) :
    (Regex.parse text caseless).isOk = (Regex.parse text caseless').isOk := by
  rcases cases_of_map_eq (parse_shape text caseless caseless') with
    ⟨e, hx, hy⟩ | ⟨r, r', hx, hy, -⟩
  · rw [hx, hy]
  · rw [hx, hy]
    rfl

end PhotoGrouping.Regex
