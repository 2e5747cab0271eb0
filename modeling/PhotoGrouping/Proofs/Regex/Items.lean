import PhotoGrouping.Proofs.Regex.Reads

namespace PhotoGrouping.Regex

variable {b : Bool} {n : Nat}

theorem readItem_of_not_isMeta {c : Char} (h : isMeta c = false) (st : ParseState)
    (cs : List Char) : readItem st c cs = .ok (st.pushLeaf (st.flags.literal c), cs) := by
  unfold readItem
  split
  case h_13 => rfl
  all_goals cases h

theorem readEscape_of_isMeta {c : Char} (h : isMeta c = true) (f : Flags) (cs : List Char) :
    readEscape f (c :: cs) = .ok (.literal c, cs) := by
  have hd : c.isDigit = false := by
    have hall : metaChars.all (!·.isDigit) = true := by decide
    simpa using List.all_eq_true.mp hall c (List.contains_iff_mem.mp h)
  simp [readEscape, hd, isEscapable, h]

/-- A character whose meaning is taken from it stands for itself. -/
theorem readsItem_escapeChars (b : Bool) (n : Nat) (c : Char) :
    ReadsItem b n (escapeChars [c]) ((folding b).literal c) n 0 := by
  cases h : isMeta c with
  | true =>
    have ht : escapeChars [c] = ['\\', c] := by simp [escapeChars, h]
    rw [ht]
    refine readsItem_of_readItem (by decide) ⟨(folding b).literal c, 0⟩ rfl rfl (Nat.le_refl _) ?_
    intro st rest hf
    simp [readItem, readEscape_of_isMeta h, hf, ParseState.pushLeaf, Flags.escaped]
  | false =>
    have ht : escapeChars [c] = [c] := by simp [escapeChars, h]
    have hc : c ≠ '?' := by
      rintro rfl
      cases h
    rw [ht]
    refine readsItem_of_readItem hc ⟨(folding b).literal c, 0⟩ rfl rfl (Nat.le_refl _) ?_
    intro st rest hf
    simp [readItem_of_not_isMeta h, hf, ParseState.pushLeaf]

theorem escapeChars_cons (c : Char) (cs : List Char) :
    escapeChars (c :: cs) = escapeChars [c] ++ escapeChars cs := by
  simp [escapeChars]

/-- An escaped text stands for its characters one after the other. -/
theorem reads_escapeChars (b : Bool) (n : Nat) (cs : List Char) :
    Reads b n (escapeChars cs) (cs.map (folding b).literal) n 0 := by
  induction cs with
  | nil => exact Reads.nil
  | cons c cs ih =>
    rw [escapeChars_cons]
    exact (readsItem_escapeChars b n c).reads.append ih

theorem readsItem_digit : ReadsItem b n ['\\', 'd'] (.oneOf .digit) n 0 := by
  refine readsItem_of_readItem (by decide) ⟨.oneOf .digit, 0⟩ rfl rfl (Nat.le_refl _) ?_
  intro st rest hf
  simp [readItem, readEscape, isEscapable, isMeta, metaChars, hf, folding, perlClass,
    ParseState.pushLeaf, Flags.escaped]

theorem readsItem_word : ReadsItem b n ['\\', 'w'] (.oneOf .word) n 0 := by
  refine readsItem_of_readItem (by decide) ⟨.oneOf .word, 0⟩ rfl rfl (Nat.le_refl _) ?_
  intro st rest hf
  simp [readItem, readEscape, isEscapable, isMeta, metaChars, hf, folding, perlClass,
    ParseState.pushLeaf, Flags.escaped]

theorem readsItem_caret : ReadsItem b n ['^'] (.look .textStart) n 0 := by
  refine readsItem_of_readItem (by decide) ⟨.look .textStart, 0⟩ rfl rfl (Nat.le_refl _) ?_
  intro st rest hf
  simp [readItem, hf, folding, ParseState.pushLeaf, Flags.caret]

theorem readsItem_dollar : ReadsItem b n ['$'] (.look .textEnd) n 0 := by
  refine readsItem_of_readItem (by decide) ⟨.look .textEnd, 0⟩ rfl rfl (Nat.le_refl _) ?_
  intro st rest hf
  simp [readItem, hf, folding, ParseState.pushLeaf, Flags.dollar]

/-- A member of a bracketed class that neither opens nor closes a bracket nor is an operation. -/
theorem readClassBody_member {f : Flags} {l : ClassLevel} {outer : List ClassLevel} {c : Char}
    {cs : List Char} (hv : f.verbose = false) (s : CharClass) (rest : List Char) (ho : c ≠ '[') (hc : c ≠ ']')
    (hop : cs.head? ≠ some c) (hm : readMember f c cs = .ok (s, rest)) :
    readClassBody f l outer (c :: cs) = readClassBody f (l.add ⟨s, 0⟩) outer rest := by
  rw [readClassBody]
  split
  all_goals rename_i hs
  all_goals rw [Flags.skip_eq_self hv] at hs
  all_goals cases hs
  case h_2 => exact absurd rfl ho
  case h_3 => exact absurd rfl hc
  case h_4 | h_5 | h_6 => exact absurd rfl hop
  case h_7 =>
    split
    · rename_i he
      rw [hm] at he
      cases he
    · rename_i he
      rw [hm] at he
      cases he
      rfl

/-- The end of an outermost bracketed class without negation or operation. -/
theorem readClassBody_close {f : Flags} {members : List ClassMember} {cs : List Char}
    (hv : f.verbose = false) :
    readClassBody f ⟨false, none, members⟩ [] (']' :: cs) =
      .ok (⟨f.folded (ClassLevel.operand ⟨false, none, members⟩).set,
        (ClassLevel.operand ⟨false, none, members⟩).depth + 1⟩, cs) := by
  rw [readClassBody]
  split
  all_goals rename_i hs
  all_goals rw [Flags.skip_eq_self hv] at hs
  all_goals cases hs
  case h_3 => simp [ClassLevel.close, ClassLevel.total, negatedClass]
  case h_7 =>
    rename_i h _ _ _
    exact absurd rfl h

end PhotoGrouping.Regex
