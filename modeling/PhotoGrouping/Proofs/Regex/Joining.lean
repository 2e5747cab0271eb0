import PhotoGrouping.Proofs.Regex.Search
import PhotoGrouping.Proofs.Regex.Splicing

namespace PhotoGrouping.Regex

/-- Whether an expression matches somewhere in a text. -/
def Expr.Occurs (r : Expr) (text : List Char) : Prop :=
  ∃ i j sl', i ≤ text.length ∧ r.Spans text i (Slots.none 0) j sl'

/-- Whether an expression is another one whose groups are numbered on. -/
def Node.IsRenumbered (n m : Node) : Prop :=
  ∃ k, n = m.renumber (k + ·)

/-- Whether a text is read to its end, its groups all closed and no comment open, from the given
settings. -/
structure Completes (f : Flags) (cs : List Char) (st : ParseState) : Prop where
  own : parseFrom { flags := f } cs = .ok st
  closed : st.outer = []
  uncommented : parseFrom { flags := f } (cs ++ ['|']) ≠ .ok st

namespace ParseState

/-- The branches of the innermost open group, the current one last. -/
def alternatives (st : ParseState) : List Node :=
  st.branches.reverse ++ [st.branchNode]

/-- What has been read when texts, themselves read as far as the given states, each followed by `|`,
stand at the front of a branch. -/
def alongside (s : ParseState) (sts : List ParseState) : ParseState :=
  sts.foldl (fun s st => (s.within st).nextBranch) s

end ParseState

section

variable {r : Expr} {rs : List Expr} {text : List Char} {n m : Node} {ns ms : List Node} {f : Flags}
  {s st : ParseState} {sts : List ParseState} {cs rest tail : List Char} {ps : List (List Char)}

theorem isMatch_iff_occurs (r : Expr) (name : String) :
    Regex.isMatch ⟨r⟩ name = true ↔ r.Occurs name.toList :=
  search_isSome_iff

theorem occurs_altOf (hne : rs ≠ []) : (Expr.altOf rs).Occurs text ↔ ∃ r ∈ rs, r.Occurs text := by
  unfold Expr.Occurs
  simp only [spans_altOf hne]
  constructor
  · rintro ⟨i, j, sl', hi, r, hr, hspan⟩
    exact ⟨r, hr, i, j, sl', hi, hspan⟩
  · rintro ⟨r, hr, i, j, sl', hi, hspan⟩
    exact ⟨i, j, sl', hi, r, hr, hspan⟩

theorem occurs_renumber (k : Nat) : (r.renumber (k + ·)).Occurs text ↔ r.Occurs text := by
  unfold Expr.Occurs
  refine exists_congr fun i => exists_congr fun j => ?_
  rw [exists_and_left, exists_and_left, Expr.exists_spans_renumber]

namespace Node.IsRenumbered

theorem weight_eq (h : n.IsRenumbered m) : n.expr.weight = m.expr.weight := by
  obtain ⟨k, rfl⟩ := h
  exact Expr.weight_renumber m.expr

theorem depth_eq (h : n.IsRenumbered m) : n.depth = m.depth := by
  obtain ⟨k, rfl⟩ := h
  rfl

theorem occurs_iff (h : n.IsRenumbered m) : n.expr.Occurs text ↔ m.expr.Occurs text := by
  obtain ⟨k, rfl⟩ := h
  exact occurs_renumber k

end Node.IsRenumbered

theorem forall₂_isRenumbered (k : Nat) (ms : List Node) :
    List.Forall₂ Node.IsRenumbered (ms.map (Node.renumber (k + ·))) ms := by
  rw [List.forall₂_map_left_iff, List.forall₂_same]
  exact fun m _ => ⟨k, rfl⟩

/-- Lists whose members agree in a value have the same list of values. -/
theorem map_eq_map_of_forall₂ {α β γ : Type} {R : α → β → Prop} {xs : List α} {ys : List β}
    {g : α → γ} {g' : β → γ} (h : List.Forall₂ R xs ys) (hg : ∀ x y, R x y → g x = g' y) :
    xs.map g = ys.map g' := by
  induction h with
  | nil => rfl
  | cons hxy _ ih => rw [List.map_cons, List.map_cons, hg _ _ hxy, ih]

theorem exists_occurs_iff (h : List.Forall₂ Node.IsRenumbered ns ms) :
    (∃ n ∈ ns, n.expr.Occurs text) ↔ ∃ m ∈ ms, m.expr.Occurs text := by
  induction h with
  | nil => simp
  | cons hnm _ ih => rw [List.exists_mem_cons_iff, List.exists_mem_cons_iff, hnm.occurs_iff, ih]

namespace ParseState

theorem alternatives_ne_nil (st : ParseState) : st.alternatives ≠ [] :=
  List.append_ne_nil_of_right_ne_nil _ (List.cons_ne_nil _ _)

theorem groupNode_expr (st : ParseState) :
    st.groupNode.expr = Expr.altOf (st.alternatives.map (·.expr)) := by
  rw [groupNode_eq_groupOf, groupOf_expr]
  rfl

theorem occurs_groupNode (st : ParseState) :
    st.groupNode.expr.Occurs text ↔ ∃ n ∈ st.alternatives, n.expr.Occurs text := by
  rw [groupNode_expr, occurs_altOf (by simpa using st.alternatives_ne_nil)]
  simp

/-- At the front of a branch, the settings alone say how a text is read. -/
theorem within_start (hflags : s.flags = f) (hfront : s.branch = []) :
    s.within { flags := f } = s := by
  obtain ⟨flags, branch, branches, outer, captures, names⟩ := s
  subst hflags hfront
  simp [within, OpenGroup.onto]

theorem alternatives_within (hclosed : st.outer = []) :
    (s.within st).alternatives =
      s.branches.reverse ++ st.alternatives.map (Node.renumber (s.captures + ·)) := by
  rw [alternatives, branchNode_within, alternatives, List.map_append]
  simp [within, hclosed]

theorem outer_within (hclosed : st.outer = []) : (s.within st).outer = s.outer := by
  simp [within, hclosed, OpenGroup.onto]

end ParseState

theorem parseFrom_bar (st : ParseState) (rest : List Char) :
    parseFrom st ('|' :: rest) = parseFrom st.nextBranch rest :=
  parseFrom_of_skip (EndsBranch.skip ⟨'|', rest, rfl, Or.inl rfl⟩ st.flags) rfl

theorem closed_of_completes (h : List.Forall₂ (Completes f) ps sts) :
    ∀ st ∈ sts, st.outer = [] := by
  induction h with
  | nil => exact List.forall_mem_nil _
  | cons hp _ ih => exact List.forall_mem_cons.mpr ⟨hp.closed, ih⟩

/-- A text that is complete stands for its branches where a branch begins, unless a name clashes. -/
theorem Completes.parseFrom_append (h : Completes s.flags cs st) (hfront : s.branch = [])
    (htail : EndsBranch tail) :
    parseFrom s (cs ++ tail) = parseFrom (s.within st) tail ∨
      s.Clashes st ∧ ∃ e, parseFrom s (cs ++ tail) = .error e := by
  have hstart := ParseState.within_start (f := s.flags) rfl hfront
  cases spliced s { flags := s.flags } cs with
  | closed st' own all =>
    obtain rfl := Except.ok.inj (own.symm.trans h.own)
    have hjoint := all tail htail
    rwa [hstart] at hjoint
  | commented st' own bar all =>
    obtain rfl := Except.ok.inj (own.symm.trans h.own)
    exact absurd bar h.uncommented
  | failed e own all =>
    rw [h.own] at own
    cases own
  | unfinished e own mendable =>
    rw [h.own] at own
    cases own

namespace ParseState

theorem alongside_cons (s st : ParseState) (sts : List ParseState) :
    s.alongside (st :: sts) = (s.within st).nextBranch.alongside sts := rfl

/-- Complete texts that keep the settings leave the front of a further branch. -/
theorem alongside_front
    (hfront : s.branch = []) (h : ∀ st ∈ sts, st.outer = [] ∧ st.flags = s.flags) :
    (s.alongside sts).branch = [] ∧ (s.alongside sts).flags = s.flags ∧
      (s.alongside sts).outer = s.outer := by
  induction sts generalizing s with
  | nil => exact ⟨hfront, rfl, rfl⟩
  | cons st sts ih =>
    obtain ⟨⟨hclosed, hflags⟩, hrest⟩ := List.forall_mem_cons.mp h
    have hnext : ∀ st' ∈ sts, st'.outer = [] ∧ st'.flags = (s.within st).nextBranch.flags := by
      intro st' hmem
      exact ⟨(hrest st' hmem).1, (hrest st' hmem).2.trans hflags.symm⟩
    obtain ⟨hbranch, hflags', houter⟩ := ih (s := (s.within st).nextBranch) rfl hnext
    exact ⟨hbranch, hflags'.trans hflags, houter.trans (outer_within hclosed)⟩

/-- The branches of complete texts stand side by side. -/
theorem branches_alongside (h : ∀ st ∈ sts, st.outer = []) :
    ∃ ns, (s.alongside sts).branches.reverse = s.branches.reverse ++ ns ∧
      List.Forall₂ Node.IsRenumbered ns (sts.flatMap alternatives) := by
  induction sts generalizing s with
  | nil => exact ⟨[], (List.append_nil _).symm, List.Forall₂.nil⟩
  | cons st sts ih =>
    obtain ⟨hclosed, hrest⟩ := List.forall_mem_cons.mp h
    obtain ⟨ns, hns, hrenumbered⟩ := ih (s := (s.within st).nextBranch) hrest
    refine ⟨st.alternatives.map (Node.renumber (s.captures + ·)) ++ ns, ?_, ?_⟩
    · rw [alongside_cons, hns, ← List.append_assoc, ← alternatives_within hclosed]
      simp [nextBranch, alternatives]
    · rw [List.flatMap_cons]
      exact List.rel_append (forall₂_isRenumbered _ _) hrenumbered

end ParseState

/-- A clash with a branch is a clash with what comes before it. -/
theorem ParseState.clashes_within {st' : ParseState} :
    (s.within st).nextBranch.Clashes st' ↔ st.Clashes st' ∨ s.Clashes st' := by
  simp only [Clashes, within, nextBranch, List.mem_append, and_or_left, exists_or]

/-- Complete texts, each with `|` behind it, are read one after the other where a branch begins,
unless a name clashes. -/
theorem parseFrom_flatMap_bar (h : List.Forall₂ (Completes f) ps sts) (hs : s.flags = f)
    (hfront : s.branch = []) (hflags : ∀ st ∈ sts, st.flags = f) (rest : List Char) :
    parseFrom s (ps.flatMap (· ++ ['|']) ++ rest) = parseFrom (s.alongside sts) rest ∨
      (¬ (s :: sts).Pairwise fun a b => ¬ a.Clashes b) ∧
        ∃ e, parseFrom s (ps.flatMap (· ++ ['|']) ++ rest) = .error e := by
  induction h generalizing s with
  | nil => exact Or.inl rfl
  | @cons p st ps sts hp _ ih =>
    subst hs
    obtain ⟨hst, hsts⟩ := List.forall_mem_cons.mp hflags
    have htail : EndsBranch ('|' :: (ps.flatMap (· ++ ['|']) ++ rest)) := ⟨'|', _, rfl, Or.inl rfl⟩
    have htext : (p :: ps).flatMap (· ++ ['|']) ++ rest =
        p ++ '|' :: (ps.flatMap (· ++ ['|']) ++ rest) := by
      simp
    rw [htext]
    obtain heq | ⟨hclash, herror⟩ := hp.parseFrom_append hfront htail
    · rw [heq, parseFrom_bar, ParseState.alongside_cons]
      obtain hok | ⟨hclash, herror⟩ := ih (s := (s.within st).nextBranch) hst rfl hsts
      · exact Or.inl hok
      · refine Or.inr ⟨fun hapart => hclash ?_, herror⟩
        obtain ⟨hs, hrest⟩ := List.pairwise_cons.mp hapart
        obtain ⟨hst', hsts'⟩ := List.pairwise_cons.mp hrest
        refine List.pairwise_cons.mpr ⟨fun st' hmem => ?_, hsts'⟩
        rw [ParseState.clashes_within, not_or]
        exact ⟨hst' st' hmem, hs st' (List.mem_cons_of_mem _ hmem)⟩
    · refine Or.inr ⟨fun hapart => ?_, herror⟩
      exact (List.pairwise_cons.mp hapart).1 st List.mem_cons_self hclash

/-- A group without capture is entered under the settings around it. -/
theorem parseFrom_plainGroup (hs : s.flags = folding false) (rest : List Char) :
    parseFrom s ('(' :: '?' :: ':' :: rest) = parseFrom (s.enter none (folding false)) rest := by
  have hverbose : s.flags.verbose = false := by rw [hs]; rfl
  refine parseFrom_cons hverbose ?_
  change openGroup s ('?' :: ':' :: rest) = _
  rw [openGroup, Flags.skip_eq_self hverbose, hs]
  rfl

/-- A group in which case does not count. -/
theorem parseFrom_caselessGroup (hs : s.flags = folding false) (rest : List Char) :
    parseFrom s ('(' :: '?' :: 'i' :: ':' :: rest) = parseFrom (s.enter none (folding true)) rest := by
  have hverbose : s.flags.verbose = false := by rw [hs]; rfl
  refine parseFrom_cons hverbose ?_
  change openGroup s ('?' :: 'i' :: ':' :: rest) = _
  rw [openGroup, Flags.skip_eq_self hverbose, hs]
  rfl

theorem ParseState.clashes_alongside {st : ParseState} :
    (s.alongside sts).Clashes st ↔ s.Clashes st ∨ ∃ st' ∈ sts, st'.Clashes st := by
  induction sts generalizing s with
  | nil => simp [alongside]
  | cons st' sts ih =>
    rw [alongside_cons, ih, clashes_within, List.exists_mem_cons_iff, or_comm (b := s.Clashes st),
      or_assoc]

/-- The end of a group that nothing surrounds. -/
theorem parseFrom_close (houter : s.outer = [⟨none, folding false, [], []⟩]) :
    ∃ fin, parseFrom s [')'] = .ok fin ∧ fin.outer = [] ∧
      fin.groupNode = ⟨s.groupNode.expr, s.groupNode.depth + 1⟩ := by
  let fin : ParseState := { s with
    flags := folding false, branch := [.node ⟨s.groupNode.expr, s.groupNode.depth + 1⟩],
    branches := [], outer := [] }
  have hitem : readItem s ')' [] = .ok (fin, []) := by
    change s.leave.map _ = _
    rw [ParseState.leave, houter]
    rfl
  have hskip : s.flags.skip [')'] = [')'] := EndsBranch.skip ⟨')', [], rfl, Or.inr rfl⟩ s.flags
  refine ⟨fin, ?_, rfl, ?_⟩
  · rw [parseFrom_of_skip hskip hitem]
    exact parseFrom_of_skip_nil fin.flags.skip_nil
  · change fin.branchNode = _
    simp [ParseState.branchNode, fin, Piece.expr?, Piece.depth, Expr.catOf]

/-- Complete texts that keep the settings, all but the last, and whose names do not clash are read
in a group as alternatives: their branches side by side. -/
theorem parseFrom_joined {p : List Char} (h : List.Forall₂ (Completes (folding false)) ps sts)
    (hlast : Completes (folding false) p st) (hflags : ∀ st' ∈ sts, st'.flags = folding false)
    (hapart : (sts ++ [st]).Pairwise fun a b => ¬ a.Clashes b) :
    ∃ fin ns, parseFrom { flags := folding false }
        ('(' :: '?' :: ':' :: (ps.flatMap (· ++ ['|']) ++ (p ++ [')']))) = .ok fin ∧
      fin.outer = [] ∧ fin.groupNode = ⟨(groupOf ns).expr, (groupOf ns).depth + 1⟩ ∧
      List.Forall₂ Node.IsRenumbered ns ((sts ++ [st]).flatMap ParseState.alternatives) := by
  let s : ParseState := ParseState.enter { flags := folding false } none (folding false)
  have hstart : ∀ st' : ParseState, ¬ s.Clashes st' := by
    rintro st' ⟨name, -, hname⟩
    cases hname
  obtain ⟨hsts, -, hbefore⟩ := List.pairwise_append.mp hapart
  have hclosed := closed_of_completes h
  obtain ⟨hfront, hflags', houter⟩ := ParseState.alongside_front (s := s) rfl
    fun st' hmem => ⟨hclosed st' hmem, hflags st' hmem⟩
  have hrun : parseFrom s (ps.flatMap (· ++ ['|']) ++ (p ++ [')'])) =
      parseFrom (s.alongside sts) (p ++ [')']) := by
    obtain heq | ⟨hclash, -⟩ := parseFrom_flatMap_bar (s := s) h rfl rfl hflags (p ++ [')'])
    · exact heq
    · exact absurd (List.pairwise_cons.mpr ⟨fun st' _ => hstart st', hsts⟩) hclash
  have hend : parseFrom (s.alongside sts) (p ++ [')']) =
      parseFrom ((s.alongside sts).within st) [')'] := by
    have hlast' : Completes (s.alongside sts).flags p st := by rwa [hflags']
    obtain heq | ⟨hclash, -⟩ := hlast'.parseFrom_append hfront ⟨')', [], rfl, Or.inr rfl⟩
    · exact heq
    · obtain hclash | ⟨st', hmem, hclash⟩ := ParseState.clashes_alongside.mp hclash
      · exact absurd hclash (hstart st)
      · exact absurd hclash (hbefore st' hmem st List.mem_cons_self)
  obtain ⟨fin, hfin, hfinOuter, hnode⟩ := parseFrom_close (s := (s.alongside sts).within st)
    ((ParseState.outer_within hlast.closed).trans houter)
  obtain ⟨ns, hns, hrenumbered⟩ := ParseState.branches_alongside (s := s) hclosed
  refine ⟨fin, ns ++ st.alternatives.map (Node.renumber ((s.alongside sts).captures + ·)), ?_, hfinOuter,
    ?_, ?_⟩
  · rw [parseFrom_plainGroup rfl, hrun, hend, hfin]
  · have hbranches : (s.alongside sts).branches.reverse = ns := hns
    rw [hnode, ParseState.groupNode_eq_groupOf, ← hbranches,
      ← ParseState.alternatives_within hlast.closed]
    rfl
  · rw [List.flatMap_append, List.flatMap_singleton]
    exact List.rel_append hrenumbered (forall₂_isRenumbered _ _)

theorem length_le_flatMap_alternatives (sts : List ParseState) :
    sts.length ≤ (sts.flatMap ParseState.alternatives).length := by
  induction sts with
  | nil => exact Nat.le_refl 0
  | cons st sts ih =>
    have hne := List.length_pos_of_ne_nil st.alternatives_ne_nil
    rw [List.length_cons, List.flatMap_cons, List.length_append]
    omega

section

variable (h : List.Forall₂ Node.IsRenumbered ns (sts.flatMap ParseState.alternatives))

include h

/-- Texts side by side spell out what they spell out alone. -/
theorem weight_groupOf : (groupOf ns).expr.weight = (sts.map (·.groupNode.expr.weight)).sum := by
  have hweights : ns.map (·.expr.weight) =
      (sts.flatMap ParseState.alternatives).map (·.expr.weight) :=
    map_eq_map_of_forall₂ h fun _ _ => Node.IsRenumbered.weight_eq
  rw [groupOf_expr, Expr.weight_altOf, List.map_map, Function.comp_def, hweights]
  clear h hweights
  induction sts with
  | nil => rfl
  | cons st sts ih =>
    rw [List.flatMap_cons, List.map_append, List.sum_append, ih, List.map_cons, List.sum_cons,
      ParseState.groupNode_expr, Expr.weight_altOf, List.map_map]
    rfl

/-- Texts side by side match where one of them does. -/
theorem occurs_groupOf (hne : sts ≠ []) :
    (groupOf ns).expr.Occurs text ↔ ∃ st ∈ sts, st.groupNode.expr.Occurs text := by
  have hsome : ns.map (·.expr) ≠ [] := by
    have hlength := length_le_flatMap_alternatives sts
    have hpos := List.length_pos_of_ne_nil hne
    rw [← h.length_eq] at hlength
    rw [← List.length_pos_iff, List.length_map]
    omega
  have hbranches : (∃ r ∈ ns.map (·.expr), r.Occurs text) ↔
      ∃ n ∈ sts.flatMap ParseState.alternatives, n.expr.Occurs text := by
    rw [← exists_occurs_iff h]
    simp
  rw [groupOf_expr, occurs_altOf hsome, hbranches]
  simp only [ParseState.occurs_groupNode, List.mem_flatMap]
  constructor
  · rintro ⟨n, ⟨st, hst, hn⟩, hoccurs⟩
    exact ⟨st, hst, n, hn, hoccurs⟩
  · rintro ⟨st, hst, n, hn, hoccurs⟩
    exact ⟨n, ⟨st, hst, hn⟩, hoccurs⟩

/-- Two texts or more side by side nest one level deeper than the deepest alternative of them. -/
theorem depth_groupOf_le_iff (hmany : 2 ≤ sts.length) {d : Nat} : (groupOf ns).depth ≤ d + 1 ↔
    ∀ st ∈ sts, (st.alternatives.map (·.depth)).foldl max 0 ≤ d := by
  have hdepths : ns.map (·.depth) = (sts.flatMap ParseState.alternatives).map (·.depth) :=
    map_eq_map_of_forall₂ h fun _ _ => Node.IsRenumbered.depth_eq
  have hdepth : (groupOf ns).depth = (ns.map (·.depth)).foldl max 0 + 1 := by
    unfold groupOf
    split
    · rename_i n
      have hlength := length_le_flatMap_alternatives sts
      rw [← h.length_eq, List.length_singleton] at hlength
      omega
    · rfl
  rw [hdepth, Nat.succ_le_succ_iff, hdepths]
  simp only [foldl_max_le_iff, Nat.zero_le, true_and, List.forall_mem_map, List.forall_mem_flatMap]

end

end

end PhotoGrouping.Regex
