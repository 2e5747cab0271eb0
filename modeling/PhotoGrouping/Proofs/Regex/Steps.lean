import PhotoGrouping.Proofs.Regex.Reads

namespace PhotoGrouping.Regex

/-- Expressions without parts. -/
inductive Expr.IsLeaf : Expr → Prop
  | oneOf (s : CharClass) : IsLeaf (.oneOf s)
  | look (a : Assertion) : IsLeaf (.look a)

/-- The expression of an open group once it is closed around what is in it. -/
def OpenGroup.closed (o : OpenGroup) (r : Expr) : Expr :=
  match o.index with
  | some i => .capture i r
  | none => r

/-- Whether an item that begins with a character repeats the last piece. -/
def isRepetitionSign (c : Char) : Bool :=
  c == '*' || c == '+' || c == '{' || c == '?'

namespace ParseState

/-- What an item that begins with a character makes of what has been read. -/
inductive Becomes (st : ParseState) (c : Char) : ParseState → Prop
  | leaf (r : Expr) (d : Nat) (hr : r.IsLeaf) (hc : isRepetitionSign c = false) :
    Becomes st c (st.push (.node ⟨r, d⟩))
  | setting (flags : Flags) (hc : c = '(') :
    Becomes st c { st with flags := flags, branch := .setting :: st.branch }
  | nextBranch (hc : c = '|') : Becomes st c st.nextBranch
  | enter (flags : Flags) (hc : c = '(') : Becomes st c (st.enter none flags)
  | capture (names : List (List Char)) (hc : c = '(') :
    Becomes st c { st.enterCapture with names := names ++ st.names }
  | leave (st' : ParseState) (hc : c = ')') (h : st.leave = .ok st') : Becomes st c st'
  | repeatLast (st' : ParseState) (least : Nat) (most : Option Nat) (greedy : Bool)
    (hc : isRepetitionSign c = true) (h : st.repeatLast least most greedy = .ok st') : Becomes st c st'

end ParseState

variable {r : Expr} {st st' : ParseState} {c : Char} {cs rest : List Char}

namespace ParseState

theorem leave_eq_ok (h : st.leave = .ok st') : ∃ o outer, st.outer = o :: outer ∧
    st' = { st with
      flags := o.flags,
      branch := .node ⟨o.closed st.groupNode.expr, st.groupNode.depth + 1⟩ :: o.branch,
      branches := o.branches, outer := outer } := by
  unfold leave at h
  cases houter : st.outer with
  | nil =>
    rw [houter] at h
    cases h
  | cons o outer =>
    simp only [houter] at h
    exact ⟨o, outer, rfl, (Except.ok.inj h).symm⟩

theorem repeatLast_eq_ok {least : Nat} {most : Option Nat} {greedy : Bool}
    (h : st.repeatLast least most greedy = .ok st') : ∃ n rest, st.branch = .node n :: rest ∧
    st' = { st with
      branch :=
        .node ⟨.rep least most (greedy != st.flags.swapGreed) n.expr, n.depth + 1⟩ :: rest } := by
  unfold repeatLast at h
  split at h
  · rename_i n rest hbranch
    exact ⟨n, rest, hbranch, (Except.ok.inj h).symm⟩
  · cases h

end ParseState

theorem Flags.isLeaf_escaped (f : Flags) (e : EscapeSequence) : (f.escaped e).IsLeaf := by
  cases e with
  | literal c => exact .oneOf _
  | set s => exact .oneOf s
  | look a => exact .look a

theorem Flags.isLeaf_of_dot {f : Flags} (h : f.dot = .ok r) : r.IsLeaf := by
  unfold Flags.dot at h
  split at h
  · cases h
  · split at h
    · obtain rfl := Except.ok.inj h
      exact .oneOf _
    · split at h
      · obtain rfl := Except.ok.inj h
        exact .oneOf _
      · obtain rfl := Except.ok.inj h
        exact .oneOf _

/-- What is read of a reading whose state alone is computed. -/
theorem eq_of_map_eq_ok {α β : Type} {x : Except ParseError α} {g : α → β} {b : β}
    (h : x.map g = .ok b) : ∃ a, x = .ok a ∧ g a = b := by
  cases x with
  | error e => cases h
  | ok a => exact ⟨a, rfl, Except.ok.inj h⟩

theorem becomes_of_openGroup (h : openGroup st cs = .ok (st', rest)) : st.Becomes '(' st' := by
  unfold openGroup at h
  split at h
  case h_1 | h_2 | h_3 | h_4 | h_7 => cases h
  case h_5 | h_6 =>
    unfold openNamed at h
    split at h
    · cases h
    · rename_i name _ _
      split at h
      · cases h
      · split at h
        · cases h
        · obtain ⟨rfl, -⟩ := Prod.mk.inj (Except.ok.inj h)
          exact .capture [name] rfl
  case h_8 =>
    split at h
    · cases h
    · obtain ⟨rfl, -⟩ := Prod.mk.inj (Except.ok.inj h)
      exact .enter _ rfl
    · split at h
      · cases h
      · obtain ⟨rfl, -⟩ := Prod.mk.inj (Except.ok.inj h)
        exact .setting _ rfl
  case h_9 =>
    obtain ⟨rfl, -⟩ := Prod.mk.inj (Except.ok.inj h)
    exact .capture [] rfl

theorem becomes_of_readRepeat {least : Nat} {most : Option Nat} (hc : isRepetitionSign c = true)
    (h : readRepeat st least most cs = .ok (st', rest)) : st.Becomes c st' := by
  obtain ⟨next, hrepeat, heq⟩ := eq_of_map_eq_ok h
  obtain ⟨rfl, -⟩ := Prod.mk.inj heq
  exact .repeatLast next _ _ _ hc hrepeat

theorem becomes_of_readItem (h : readItem st c cs = .ok (st', rest)) : st.Becomes c st' := by
  unfold readItem at h
  split at h
  case h_1 => exact becomes_of_openGroup h
  case h_2 =>
    obtain ⟨next, hleave, heq⟩ := eq_of_map_eq_ok h
    obtain ⟨rfl, -⟩ := Prod.mk.inj heq
    exact .leave next rfl hleave
  case h_3 =>
    obtain ⟨rfl, -⟩ := Prod.mk.inj (Except.ok.inj h)
    exact .nextBranch rfl
  case h_4 =>
    split at h
    · cases h
    · obtain ⟨rfl, -⟩ := Prod.mk.inj (Except.ok.inj h)
      exact .leaf _ _ (.oneOf _) (by decide)
  case h_5 | h_6 | h_7 => exact becomes_of_readRepeat (by decide) h
  case h_8 =>
    unfold readCounted at h
    split at h
    · split at h
      · cases h
      · exact becomes_of_readRepeat (by decide) h
    · cases h
  case h_9 =>
    split at h
    · cases h
    · obtain ⟨rfl, -⟩ := Prod.mk.inj (Except.ok.inj h)
      exact .leaf _ _ (Flags.isLeaf_escaped _ _) (by decide)
  case h_10 =>
    obtain ⟨r, hdot, heq⟩ := eq_of_map_eq_ok h
    obtain ⟨rfl, -⟩ := Prod.mk.inj heq
    exact .leaf r _ (Flags.isLeaf_of_dot hdot) (by decide)
  case h_11 | h_12 =>
    obtain ⟨rfl, -⟩ := Prod.mk.inj (Except.ok.inj h)
    exact .leaf _ _ (.look _) (by decide)
  case h_13 hquestion hstar hplus hbrace _ _ _ _ =>
    obtain ⟨rfl, -⟩ := Prod.mk.inj (Except.ok.inj h)
    refine .leaf _ _ (.oneOf _) ?_
    simp only [isRepetitionSign, Bool.or_eq_false_iff, beq_eq_false_iff_ne]
    exact ⟨⟨⟨hstar, hplus⟩, hbrace⟩, hquestion⟩

/-- What every item preserves holds of a pattern that has been read to its end. -/
theorem invariant_of_parseFrom {P : ParseState → Prop}
    (hstep : ∀ {st c st'}, ParseState.Becomes st c st' → P st → P st') (hstart : P st)
    (h : parseFrom st cs = .ok st') : P st' := by
  fun_induction parseFrom st cs with
  | case1 st cs hc =>
    obtain rfl := Except.ok.inj h
    exact hstart
  | case2 => cases h
  | case3 st cs c rest hc next rest' hi ih =>
    exact ih (hstep (becomes_of_readItem hi) hstart) h

section

variable {text : String} {b : Bool} {regex : Regex}

/-- A pattern that is read has been read to its end, with all its groups closed. -/
theorem exists_of_read (h : Regex.read text b = .ok regex) :
    ∃ st, parseFrom { flags := folding b } text.toList = .ok st ∧ st.outer = [] ∧
      regex = ⟨st.groupNode.expr⟩ := by
  unfold Regex.read at h
  split at h
  · cases h
  · rename_i st hparse
    split at h
    · cases h
    · rename_i r hfinish
      obtain rfl := Except.ok.inj h
      unfold ParseState.finish at hfinish
      split at hfinish
      · cases hfinish
      · rename_i houter
        dsimp only at hfinish
        split at hfinish
        · cases hfinish
        · obtain rfl := Except.ok.inj hfinish
          exact ⟨st, hparse, houter, rfl⟩

theorem read_of_parse (h : Regex.parse text b = .ok regex) : Regex.read text b = .ok regex := by
  unfold Regex.parse at h
  split at h
  · cases h
  · rename_i hread
    split at h
    · obtain rfl := Except.ok.inj h
      exact hread
    · cases h

theorem exists_of_isOk {α : Type} {x : Except ParseError α} (h : x.isOk = true) :
    ∃ a, x = .ok a := by
  cases x with
  | ok a => exact ⟨a, rfl⟩
  | error e => cases h

end

end PhotoGrouping.Regex
