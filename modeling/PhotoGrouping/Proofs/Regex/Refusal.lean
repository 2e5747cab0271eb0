import PhotoGrouping.Proofs.Regex.Joining

namespace PhotoGrouping.Regex

/-- Whether so much of a pattern has been read that the pattern is refused whatever comes next. -/
def ParseState.Overgrown (st : ParseState) : Prop :=
  maxDepth < st.depth ∨ maxWeight < st.weight

section

variable {st : ParseState} {b : Bool} {e : ParseError} {text : String}

theorem parse_of_parseFrom_error (h : parseFrom { flags := folding b } text.toList = .error e) :
    Regex.parse text b = .error e := by
  have hread : parseFrom { flags := { caseless := b } } text.toList = .error e := h
  simp only [Regex.parse, Regex.read, hread]

theorem parse_of_unclosed (h : parseFrom { flags := folding b } text.toList = .ok st)
    (hopen : st.outer ≠ []) : Regex.parse text b = .error .unclosedGroup := by
  have hread : parseFrom { flags := { caseless := b } } text.toList = .ok st := h
  have hfinish : st.finish = .error .unclosedGroup := by
    unfold ParseState.finish
    split
    · rfl
    · exact absurd ‹_› hopen
  simp only [Regex.parse, Regex.read, hread, hfinish]

/-- A pattern whose groups are all closed is refused for its depth or its size alone. -/
theorem parse_of_closed (h : parseFrom { flags := folding b } text.toList = .ok st)
    (hclosed : st.outer = []) :
    Regex.parse text b =
      if maxDepth < st.groupNode.depth then .error .tooDeep
      else if st.groupNode.expr.weight ≤ maxWeight then .ok ⟨st.groupNode.expr⟩
      else .error .tooLarge := by
  have hread : parseFrom { flags := { caseless := b } } text.toList = .ok st := h
  have hfinish : st.finish =
      if maxDepth < st.groupNode.depth then .error .tooDeep else .ok st.groupNode.expr := by
    unfold ParseState.finish
    simp only [hclosed]
  by_cases hdepth : maxDepth < st.groupNode.depth
  · simp only [Regex.parse, Regex.read, hread, hfinish, if_pos hdepth]
  · simp only [Regex.parse, Regex.read, hread, hfinish, if_neg hdepth, Regex.fits, decide_eq_true_eq]

end

variable {s st st' : ParseState} {b : Bool} {cs rest tail : List Char} {e : ParseError} {text : String}

theorem Piece.weight_renumber (p : Piece) {g : Nat → Nat} : (p.renumber g).weight = p.weight := by
  cases p with
  | node n => exact Expr.weight_renumber n.expr
  | setting => rfl

namespace ParseState

theorem depth_of_closed (hclosed : st.outer = []) : st.depth = st.groupNode.depth := by
  rw [depth, hclosed, groupNode_depth]
  rfl

theorem weight_of_closed (hclosed : st.outer = []) : st.weight = st.groupNode.expr.weight := by
  rw [weight, hclosed, groupNode_weight]
  rfl

/-- Within a pattern, a text whose groups are closed spells out what it does alone, and more stands
before it. -/
theorem weight_le_within (hclosed : st.outer = []) : st.weight ≤ (s.within st).weight := by
  have hbranch : (s.within st).branch.map Piece.weight = st.branch.map Piece.weight := by
    simp only [within, List.map_map, Function.comp_def, Piece.weight_renumber]
  have hbranches : (s.within st).branches.map (·.expr.weight) =
      st.branches.map (·.expr.weight) ++ s.branches.map (·.expr.weight) := by
    simp [within, hclosed, Function.comp_def, Node.renumber, Expr.weight_renumber]
  rw [weight, weight, branchWeight, branchWeight, hbranch, hbranches, hclosed, List.sum_append,
    List.map_nil, List.sum_nil]
  omega

theorem depth_le_within (hclosed : st.outer = []) : st.depth ≤ (s.within st).depth := by
  have hbranch : (s.within st).branch.map Piece.depth = st.branch.map Piece.depth := by
    simp only [within, List.map_map, Function.comp_def, Piece.depth_renumber]
  have hbranches : (s.within st).branches.map (·.depth) =
      st.branches.map (·.depth) ++ s.branches.map (·.depth) := by
    simp [within, hclosed, Function.comp_def, Node.renumber]
  rw [depth, depth, hclosed, hbranch, hbranches]
  refine Nat.le_trans (nestDepth_mono ?_ ?_) (le_closedDepth _ _)
  · simp
  · intro x hx
    exact ⟨x, List.mem_append_left _ hx, Nat.le_refl x⟩

theorem Overgrown.within (h : st.Overgrown) (hclosed : st.outer = []) :
    (s.within st).Overgrown := by
  obtain hdepth | hweight := h
  · exact Or.inl (Nat.lt_of_lt_of_le hdepth (depth_le_within hclosed))
  · exact Or.inr (Nat.lt_of_lt_of_le hweight (weight_le_within hclosed))

/-- What has grown too large stays so. -/
theorem Overgrown.parseFrom (h : st.Overgrown) (hread : Regex.parseFrom st cs = .ok st') :
    st'.Overgrown := by
  obtain ⟨hweights, hdepths, -⟩ := grows_of_parseFrom hread
  obtain hdepth | hweight := h
  · exact Or.inl (Nat.lt_of_lt_of_le hdepth hdepths)
  · exact Or.inr (Nat.lt_of_lt_of_le hweight hweights)

end ParseState

/-- The preference of a repetition changes neither size nor depth. -/
theorem Alike.same_measure (h : Alike st st') (hclosed : st.outer = []) :
    st'.outer = [] ∧ st'.weight = st.weight ∧ st'.depth = st.depth := by
  obtain rfl | ⟨base, least, most, b, b', hst, hst'⟩ := h hclosed
  · exact ⟨hclosed, rfl, rfl⟩
  · obtain ⟨n, rest, hbranch, rfl⟩ := ParseState.repeatLast_eq_ok hst
    obtain ⟨n', rest', hbranch', rfl⟩ := ParseState.repeatLast_eq_ok hst'
    obtain ⟨hn, rfl⟩ := List.cons.inj (hbranch.symm.trans hbranch')
    obtain rfl := Piece.node.inj hn
    exact ⟨hclosed, rfl, rfl⟩

/-- A pattern is refused if it has grown too large by its end. -/
theorem parse_error_of_overgrown
    (h : ∀ fin, parseFrom { flags := folding b } text.toList = .ok fin → fin.Overgrown) :
    ∃ e, Regex.parse text b = .error e := by
  cases hparse : Regex.parse text b with
  | error e => exact ⟨e, rfl⟩
  | ok own =>
    obtain ⟨fin, hread, hclosed, -⟩ := exists_of_read (read_of_parse hparse)
    rw [parse_of_closed hread hclosed] at hparse
    obtain hdepth | hweight := h fin hread
    · rw [ParseState.depth_of_closed hclosed] at hdepth
      rw [if_pos hdepth] at hparse
      cases hparse
    · rw [ParseState.weight_of_closed hclosed] at hweight
      split at hparse
      · cases hparse
      · rw [if_neg (Nat.not_le_of_lt hweight)] at hparse
        cases hparse

/-- A text that is read to its end and refused all the same, though not for a group left open, has
grown too large. -/
theorem overgrown_of_refused
    (hparse : Regex.parse text b = .error e) (hfatal : e.isMendable = false)
    (hread : parseFrom { flags := folding b } text.toList = .ok st) :
    st.outer = [] ∧ st.Overgrown := by
  by_cases hclosed : st.outer = []
  · refine ⟨hclosed, ?_⟩
    rw [ParseState.Overgrown, ParseState.depth_of_closed hclosed, ParseState.weight_of_closed hclosed]
    rw [parse_of_closed hread hclosed] at hparse
    split at hparse
    · exact Or.inl ‹_›
    · split at hparse
      · cases hparse
      · exact Or.inr (Nat.lt_of_not_le ‹_›)
  · rw [parse_of_unclosed hread hclosed] at hparse
    obtain rfl := Except.error.inj hparse
    cases hfatal

/-- A text that is refused on its own, and not for ending too early, is refused within a pattern,
before the end of a branch. -/
theorem overgrown_of_append (hparse : Regex.parse text b = .error e) (hfatal : e.isMendable = false)
    (hs : s.flags = folding b) (hfront : s.branch = []) (htail : EndsBranch tail) {fin : ParseState}
    (hread : parseFrom s (text.toList ++ tail) = .ok fin) : fin.Overgrown := by
  have hstart := ParseState.within_start hs hfront
  cases spliced s { flags := folding b } text.toList with
  | closed st own all =>
    obtain ⟨hclosed, hover⟩ := overgrown_of_refused hparse hfatal own
    have hjoint := all tail htail
    rw [hstart, hread] at hjoint
    obtain heq | ⟨-, e', he'⟩ := hjoint
    · exact (hover.within hclosed).parseFrom heq.symm
    · cases he'
  | commented st own bar all =>
    obtain ⟨hclosed, hover⟩ := overgrown_of_refused hparse hfatal own
    have hjoint := all tail htail
    rw [hstart, hread] at hjoint
    obtain ⟨e', he'⟩ | ⟨st', rest, halike, heq⟩ := hjoint
    · cases he'
    · obtain ⟨hclosed', hweight, hdepth⟩ := halike.same_measure hclosed
      have hover' : st'.Overgrown := by rwa [ParseState.Overgrown, hweight, hdepth]
      exact (hover'.within hclosed').parseFrom heq.symm
  | failed e' own all =>
    obtain ⟨e'', he''⟩ := all tail htail
    rw [hstart, hread] at he''
    cases he''
  | unfinished e' own mendable =>
    rw [parse_of_parseFrom_error own] at hparse
    obtain rfl := Except.error.inj hparse
    rw [mendable] at hfatal
    cases hfatal

end PhotoGrouping.Regex
