import PhotoGrouping.Proofs.Regex.Followed.Item
import PhotoGrouping.Proofs.Regex.Spans

namespace PhotoGrouping.Regex

/-- An expression whose capturing groups have other numbers. -/
def Expr.renumber (g : Nat → Nat) : Expr → Expr
  | .empty => .empty
  | .oneOf s => .oneOf s
  | .look a => .look a
  | .cat r s => .cat (r.renumber g) (s.renumber g)
  | .alt r s => .alt (r.renumber g) (s.renumber g)
  | .capture i r => .capture (g i) (r.renumber g)
  | .rep least most greedy r => .rep least most greedy (r.renumber g)

/-- An expression with its depth, whose groups have other numbers. -/
def Node.renumber (g : Nat → Nat) (n : Node) : Node :=
  ⟨n.expr.renumber g, n.depth⟩

/-- An item of a branch whose groups have other numbers. -/
def Piece.renumber (g : Nat → Nat) : Piece → Piece
  | .node n => .node (n.renumber g)
  | .setting => .setting

/-- An open group in which the groups have other numbers. -/
def OpenGroup.renumber (g : Nat → Nat) (o : OpenGroup) : OpenGroup :=
  ⟨o.index.map g, o.flags, o.branch.map (Piece.renumber g), o.branches.map (Node.renumber g)⟩

/-- Open groups of which the outermost has further branches before its own. -/
def OpenGroup.onto (base : List Node) : List OpenGroup → List OpenGroup
  | [] => []
  | [o] => [{ o with branches := o.branches ++ base }]
  | o :: o' :: outer => o :: onto base (o' :: outer)

namespace ParseState

/-- What has been read when a text, itself read as far as `st`, stands at the front of a branch
where a pattern has been read as far as `s`. -/
def within (s st : ParseState) : ParseState where
  flags := st.flags
  branch := st.branch.map (Piece.renumber (s.captures + ·))
  branches := st.branches.map (Node.renumber (s.captures + ·)) ++
    if st.outer.isEmpty then s.branches else []
  outer := OpenGroup.onto s.branches (st.outer.map (OpenGroup.renumber (s.captures + ·))) ++ s.outer
  captures := s.captures + st.captures
  names := st.names ++ s.names

/-- Whether a text names a group as the pattern before it does. -/
def Clashes (s st : ParseState) : Prop :=
  ∃ name ∈ st.names, name ∈ s.names

/-- Whether what is read of a text within a pattern is what is read of the text, unless a name of it
clashes. -/
def Carries (s : ParseState) (own joint : Reading ParseState) : Prop :=
  joint = own.through s.within ∨
    ∃ e, joint = .error e ∧ ∀ st rest, own = .ok (st, rest) → s.Clashes st

end ParseState

section

variable {g h : Nat → Nat} {r : Expr} {rs : List Expr} {text : List Char} {i j : Nat} {sl sl' : Slots}

namespace Expr

theorem renumber_renumber (r : Expr) : (r.renumber g).renumber h = r.renumber fun i => h (g i) := by
  induction r with
  | empty | oneOf s | look a => rfl
  | cat r s ihr ihs | alt r s ihr ihs => simp only [renumber, ihr, ihs]
  | capture i r ih | rep least most greedy r ih => simp only [renumber, ih]

theorem renumber_id (r : Expr) : r.renumber (fun i => i) = r := by
  induction r with
  | empty | oneOf s | look a => rfl
  | cat r s ihr ihs | alt r s ihr ihs => simp only [renumber, ihr, ihs]
  | capture i r ih | rep least most greedy r ih => simp only [renumber, ih]

/-- The size of an expression does not depend on the numbers of its groups. -/
theorem weight_renumber (r : Expr) : (r.renumber g).weight = r.weight := by
  induction r with
  | empty | oneOf s | look a => rfl
  | cat r s ihr ihs | alt r s ihr ihs => simp only [renumber, weight, ihr, ihs]
  | capture i r ih | rep least most greedy r ih => simp only [renumber, weight, ih]

theorem renumber_catOf : ∀ rs, (catOf rs).renumber g = catOf (rs.map (renumber g)) :=
  joins_catOf.apply (renumber g) cat (fun _ _ => rfl) rfl (fun _ => rfl) fun _ _ _ => rfl

theorem renumber_altOf : ∀ rs, (altOf rs).renumber g = altOf (rs.map (renumber g)) :=
  joins_altOf.apply (renumber g) alt (fun _ _ => rfl) rfl (fun _ => rfl) fun _ _ _ => rfl

theorem Spans.renumber (hspan : r.Spans text i sl j sl') (g : Nat → Nat) (sl2 : Slots) :
    ∃ sl2', (r.renumber g).Spans text i sl2 j sl2' := by
  induction r generalizing i sl j sl' sl2 with
  | empty => exact ⟨sl2, hspan.1, rfl⟩
  | oneOf s => exact ⟨sl2, hspan.1, hspan.2.1, rfl⟩
  | look a => exact ⟨sl2, hspan.1, hspan.2.1, rfl⟩
  | cat r s ihr ihs =>
    obtain ⟨k, sl1, h1, h2⟩ := hspan
    obtain ⟨sl3, h3⟩ := ihr h1 sl2
    obtain ⟨sl4, h4⟩ := ihs h2 sl3
    exact ⟨sl4, k, sl3, h3, h4⟩
  | alt r s ihr ihs =>
    obtain h | h := hspan
    · obtain ⟨sl3, h3⟩ := ihr h sl2
      exact ⟨sl3, Or.inl h3⟩
    · obtain ⟨sl3, h3⟩ := ihs h sl2
      exact ⟨sl3, Or.inr h3⟩
  | capture n r ih =>
    obtain ⟨sl1, h1, -⟩ := hspan
    obtain ⟨sl3, h3⟩ := ih h1 (sl2.enter (g n) i)
    exact ⟨sl3.leave (g n) j, sl3, h3, rfl⟩
  | rep least most greedy r ih =>
    obtain ⟨n, hn, hcopies⟩ := hspan
    suffices hall : ∃ sl2', Copies ((r.renumber g).Spans text) n i sl2 j sl2' by
      obtain ⟨sl2', h2⟩ := hall
      exact ⟨sl2', n, hn, h2⟩
    clear hn
    induction n generalizing i sl sl2 with
    | zero => exact ⟨sl2, hcopies.1, rfl⟩
    | succ n ihn =>
      obtain ⟨k, sl1, h1, h2⟩ := hcopies
      obtain ⟨sl3, h3⟩ := ih h1 sl2
      obtain ⟨sl4, h4⟩ := ihn sl3 h2
      exact ⟨sl4, k, sl3, h3, h4⟩

/-- Where an expression matches does not depend on the numbers of its groups. -/
theorem exists_spans_renumber (n : Nat) (sl2 : Slots) :
    (∃ sl', (r.renumber (n + ·)).Spans text i sl j sl') ↔ ∃ sl', r.Spans text i sl2 j sl' := by
  constructor
  · rintro ⟨sl', hspan⟩
    have hback := hspan.renumber (· - n) sl2
    rw [renumber_renumber] at hback
    simpa only [Nat.add_sub_cancel_left, renumber_id] using hback
  · rintro ⟨sl', hspan⟩
    exact hspan.renumber (n + ·) sl

end Expr

theorem Piece.expr?_renumber (p : Piece) :
    (p.renumber g).expr? = p.expr?.map (Expr.renumber g) := by
  cases p with
  | node n => rfl
  | setting => rfl

theorem Piece.depth_renumber (p : Piece) : (p.renumber g).depth = p.depth := by
  cases p with
  | node n => rfl
  | setting => rfl

end

namespace OpenGroup

variable {base : List Node} {o : OpenGroup} {outer : List OpenGroup}

/-- A further group that is open inside takes the branches before its own from those outside. -/
theorem onto_cons (o : OpenGroup) (outer : List OpenGroup) (base : List Node) :
    onto base (o :: outer) =
      { o with branches := o.branches ++ if outer.isEmpty then base else [] } :: onto base outer := by
  cases outer with
  | nil => rfl
  | cons o' outer => simp [onto]

end OpenGroup

namespace ParseState

variable {s st : ParseState}

@[simp] theorem within_flags (s st : ParseState) : (s.within st).flags = st.flags := rfl

theorem branchNode_within (s st : ParseState) :
    (s.within st).branchNode = st.branchNode.renumber (s.captures + ·) := by
  have hexprs : (s.within st).branch.reverse.filterMap Piece.expr? =
      (st.branch.reverse.filterMap Piece.expr?).map (Expr.renumber (s.captures + ·)) := by
    simp only [within, ← List.map_reverse, List.filterMap_map, List.map_filterMap,
      Function.comp_def, Piece.expr?_renumber]
  have hdepths : (s.within st).branch.map Piece.depth = st.branch.map Piece.depth := by
    simp only [within, List.map_map, Function.comp_def, Piece.depth_renumber]
  have hlength : (s.within st).branch.length = st.branch.length := List.length_map _
  simp only [branchNode, hexprs, hdepths, hlength, Node.renumber, Expr.renumber_catOf]

/-- A group that the text has opened has the branches that it has in the text. -/
theorem groupNode_within (hopen : st.outer ≠ []) :
    (s.within st).groupNode = st.groupNode.renumber (s.captures + ·) := by
  have hbranches : (s.within st).branches = st.branches.map (Node.renumber (s.captures + ·)) := by
    simp [within, hopen]
  unfold groupNode
  cases hb : st.branches with
  | nil =>
    simp only [hbranches, hb, List.map_nil, branchNode_within]
  | cons n rest =>
    simp [hbranches, hb, branchNode_within, Node.renumber, Expr.renumber_altOf, Function.comp_def]

theorem nextBranch_within (s st : ParseState) :
    (s.within st).nextBranch = s.within st.nextBranch := by
  rw [nextBranch, branchNode_within]
  rfl

theorem enter_within (s st : ParseState) (index : Option Nat) (flags : Flags) :
    (s.within st).enter (index.map (s.captures + ·)) flags = s.within (st.enter index flags) := by
  simp [enter, within, OpenGroup.onto_cons, OpenGroup.renumber]

theorem enterCapture_within (s st : ParseState) :
    (s.within st).enterCapture = s.within st.enterCapture := by
  have henter := enter_within s st (some (st.captures + 1)) st.flags
  exact congrArg (fun t : ParseState => { t with captures := s.captures + (st.captures + 1) }) henter

theorem leave_within (hopen : st.outer ≠ []) : (s.within st).leave = st.leave.map s.within := by
  unfold leave
  cases houter : st.outer with
  | nil => exact absurd houter hopen
  | cons o outer =>
    have houter' : (s.within st).outer =
        { o.renumber (s.captures + ·) with
          branches := (o.renumber (s.captures + ·)).branches ++ if outer.isEmpty then s.branches else [] } ::
          (OpenGroup.onto s.branches (outer.map (OpenGroup.renumber (s.captures + ·))) ++ s.outer) := by
      simp [within, houter, OpenGroup.onto_cons]
    simp only [houter', groupNode_within hopen]
    cases hindex : o.index with
    | none => simp [hindex, OpenGroup.renumber, Except.map, within, Piece.renumber, Node.renumber]
    | some i =>
      simp [hindex, OpenGroup.renumber, Except.map, within, Piece.renumber, Node.renumber, Expr.renumber]

theorem canRepeat_within (s st : ParseState) : (s.within st).canRepeat = st.canRepeat := by
  unfold canRepeat
  rcases hb : st.branch with _ | ⟨_ | _, rest⟩
  all_goals simp [within, hb, Piece.renumber]

theorem repeatLast_within (s st : ParseState) (least : Nat) (most : Option Nat) (greedy : Bool) :
    (s.within st).repeatLast least most greedy =
    (st.repeatLast least most greedy).map s.within := by
  unfold repeatLast
  rcases hb : st.branch with _ | ⟨_ | _, rest⟩
  all_goals simp [within, hb, Piece.renumber, Node.renumber, Expr.renumber, Except.map]

end ParseState

section

variable {s st : ParseState} {cs rest : List Char} {c : Char}

namespace ParseState.Carries

theorem through {own : Reading ParseState} : s.Carries own (own.through s.within) :=
  Or.inl rfl

theorem error (e : ParseError) : s.Carries (.error e) (.error e) :=
  Or.inl rfl

/-- An attempt that does within a pattern what it does alone. -/
theorem map {x y : Except ParseError ParseState} (h : y = x.map s.within) (rest : List Char) :
    s.Carries (x.map (·, rest)) (y.map (·, rest)) := by
  left
  rw [h]
  cases x <;> rfl

end ParseState.Carries

theorem carries_readRepeat (s st : ParseState) (least : Nat) (most : Option Nat) (cs : List Char) :
    s.Carries (readRepeat st least most cs) (readRepeat (s.within st) least most cs) :=
  .map (ParseState.repeatLast_within s st least most _) _

theorem carries_readCounted (s st : ParseState) (cs : List Char) :
    s.Carries (readCounted st cs) (readCounted (s.within st) cs) := by
  rw [readCounted, readCounted, ParseState.canRepeat_within, ParseState.within_flags]
  split
  · cases readBounds st.flags cs with
    | error e => exact .error e
    | ok bounds => exact carries_readRepeat s st _ _ _
  · exact .error .nothingToRepeat

/-- A name is refused within a pattern if it is refused alone or a group before has it. -/
theorem carries_openNamed (s st : ParseState) (cs : List Char) :
    s.Carries (openNamed st cs) (openNamed (s.within st) cs) := by
  rw [openNamed_eq, openNamed_eq]
  cases readName true cs with
  | error e => exact .error e
  | ok x =>
    dsimp only [Reading.thenRead, enterNamed]
    cases x.1.isEmpty with
    | true => exact .error .emptyGroupName
    | false =>
      have hcontains : (s.within st).names.contains x.1 =
          (st.names.contains x.1 || s.names.contains x.1) := by
        simp [ParseState.within]
      rw [hcontains]
      cases hown : st.names.contains x.1 with
      | true => exact .error .repeatedGroupName
      | false =>
        cases hbefore : s.names.contains x.1 with
        | true =>
          refine Or.inr ⟨.repeatedGroupName, rfl, fun st' rest hok => ?_⟩
          obtain ⟨rfl, -⟩ := Prod.mk.inj (Except.ok.inj hok)
          exact ⟨x.1, List.mem_cons_self, List.contains_iff_mem.mp hbefore⟩
        | false =>
          have hnamed : { (s.within st).enterCapture with names := x.1 :: (s.within st).names } =
              s.within { st.enterCapture with names := x.1 :: st.names } := by
            rw [ParseState.enterCapture_within]
            rfl
          exact Or.inl (congrArg (fun next => Except.ok (next, x.2)) hnamed)

theorem carries_openGroup (s st : ParseState) (cs : List Char) :
    s.Carries (openGroup st cs) (openGroup (s.within st) cs) := by
  unfold openGroup
  simp only [ParseState.within_flags]
  split
  case h_5 | h_6 => exact carries_openNamed s st _
  case h_8 rest _ _ _ _ _ _ _ _ =>
    split
    · exact .error _
    · rename_i p rest' _
      exact Or.inl (congrArg (fun next => Except.ok (next, rest'))
        (ParseState.enter_within s st none p.flags))
    · split
      · exact .error _
      · exact .through
  case h_9 =>
    exact Or.inl (congrArg (fun next => Except.ok (next, _)) (ParseState.enterCapture_within s st))
  all_goals exact .error _

/-- An item of a text does within a pattern what it does alone, unless it closes a group that the
text has not opened. -/
theorem carries_readItem (hclose : c = ')' → st.outer ≠ []) (cs : List Char) :
    s.Carries (readItem st c cs) (readItem (s.within st) c cs) := by
  unfold readItem
  simp only [ParseState.within_flags]
  split
  case h_1 => exact carries_openGroup s st cs
  case h_2 => exact .map (ParseState.leave_within (hclose rfl)) cs
  case h_3 =>
    exact Or.inl (congrArg (fun next => Except.ok (next, cs)) (ParseState.nextBranch_within s st))
  case h_4 =>
    split
    · exact .error _
    · exact .through
  case h_5 | h_6 | h_7 => exact carries_readRepeat s st _ _ cs
  case h_8 => exact carries_readCounted s st cs
  case h_9 =>
    split
    · exact .error _
    · rename_i e rest _
      cases e with
      | literal c => exact .through
      | set m => exact .through
      | look a => exact .through
  case h_10 =>
    unfold Flags.dot
    split
    · exact .error _
    · split
      · exact .through
      · split
        · exact .through
        · exact .through
  case h_11 => exact .through
  case h_12 => exact .through
  case h_13 => exact .through

end

end PhotoGrouping.Regex
