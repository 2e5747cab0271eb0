import PhotoGrouping.Regex

namespace PhotoGrouping.Regex

open Text

/-- The settings whatever they say of case. -/
def Flags.shape (f : Flags) : Flags :=
  { f with caseless := false }

/-- What a backslash sequence stands for, whatever its set is. -/
def EscapeSequence.shape : EscapeSequence → EscapeSequence
  | .literal c => .literal c
  | .set _ => .set .never
  | .look a => .look a

theorem EscapeSequence.cases_of_shape_eq {e e' : EscapeSequence} (h : e.shape = e'.shape) :
    (∃ c, e = .literal c ∧ e' = .literal c) ∨ (∃ s s', e = .set s ∧ e' = .set s') ∨
      ∃ a, e = .look a ∧ e' = .look a := by
  cases e with
  | literal c =>
    cases e' with
    | literal c' =>
      cases h
      exact Or.inl ⟨c, rfl, rfl⟩
    | set s => cases h
    | look a => cases h
  | set s =>
    cases e' with
    | literal c => cases h
    | set s' => exact Or.inr (Or.inl ⟨s, s', rfl, rfl⟩)
    | look a => cases h
  | look a =>
    cases e' with
    | literal c => cases h
    | set s => cases h
    | look a' =>
      cases h
      exact Or.inr (Or.inr ⟨a, rfl, rfl⟩)

/-- A set with its depth, whatever the set is. -/
def ClassMember.shape (m : ClassMember) : ClassMember :=
  ⟨.never, m.depth⟩

/-- An open bracket whatever its sets are. -/
def ClassLevel.shape (l : ClassLevel) : ClassLevel :=
  ⟨l.negated, l.pending.map fun p => (p.1, p.2.shape), l.members.map ClassMember.shape⟩

section

variable {α β γ : Type} {view : α → γ} {view' : β → γ}

/-- Two attempts whose results look the same fail for the same reason or both succeed. -/
theorem cases_of_map_eq {x : Except ParseError α} {y : Except ParseError β}
    (h : x.map view = y.map view') :
    (∃ e, x = .error e ∧ y = .error e) ∨ ∃ a b, x = .ok a ∧ y = .ok b ∧ view a = view' b := by
  cases x with
  | error e =>
    cases y with
    | error e' =>
      cases h
      exact Or.inl ⟨e, rfl, rfl⟩
    | ok b => cases h
  | ok a =>
    cases y with
    | error e => cases h
    | ok b => exact Or.inr ⟨a, b, rfl, rfl, Except.ok.inj h⟩

theorem eq_error_of_map_eq {y : Except ParseError β} {e : ParseError}
    (h : Except.map view (.error e) = y.map view') : y = .error e := by
  rcases cases_of_map_eq h with ⟨e', he, hy⟩ | ⟨a, b, ha, -⟩
  · cases he
    exact hy
  · cases ha

theorem exists_ok_of_map_eq {y : Except ParseError β} {a : α}
    (h : Except.map view (.ok a) = y.map view') : ∃ b, y = .ok b ∧ view a = view' b := by
  rcases cases_of_map_eq h with ⟨e, he, -⟩ | ⟨a', b, ha, hy, hab⟩
  · cases he
  · cases ha
    exact ⟨b, hy, hab⟩

/-- A reading seen through a function of what has been made of the text. -/
def Reading.through (view : α → β) (x : Reading α) : Reading β :=
  x.map (Prod.map view id)

/-- Two readings that look the same fail for the same reason or leave the same text. -/
theorem Reading.cases_of_through_eq {x : Reading α} {y : Reading β}
    (h : x.through view = y.through view') :
    (∃ e, x = .error e ∧ y = .error e) ∨
      ∃ a b rest, x = .ok (a, rest) ∧ y = .ok (b, rest) ∧ view a = view' b := by
  rcases cases_of_map_eq h with he | ⟨⟨a, rest⟩, ⟨b, rest'⟩, hx, hy, hab⟩
  · exact Or.inl he
  · obtain ⟨hview, rfl⟩ := Prod.mk.inj hab
    exact Or.inr ⟨a, b, rest, hx, hy, hview⟩

theorem Reading.through_ok {a : α} {b : β} (h : view a = view' b) (rest : List Char) :
    Reading.through view (.ok (a, rest)) = Reading.through view' (.ok (b, rest)) :=
  congrArg (fun c => Except.ok (c, rest)) h

theorem Reading.exists_ok_of_through_eq {y : Reading β} {a : α} {rest : List Char}
    (h : Reading.through view (.ok (a, rest)) = y.through view') :
    ∃ b, y = .ok (b, rest) ∧ view a = view' b := by
  obtain ⟨⟨b, rest'⟩, hy, hab⟩ := exists_ok_of_map_eq h
  obtain ⟨hview, rfl⟩ := Prod.mk.inj hab
  exact ⟨b, hy, hview⟩

/-- Attempts that look the same, with the text that is left, are readings that look the same. -/
theorem Reading.through_map {x : Except ParseError α} {y : Except ParseError β}
    (h : x.map view = y.map view') (rest : List Char) :
    Reading.through view (x.map (·, rest)) = Reading.through view' (y.map (·, rest)) := by
  rcases cases_of_map_eq h with ⟨e, rfl, rfl⟩ | ⟨a, b, rfl, rfl, hab⟩
  · rfl
  · exact through_ok hab rest

end

section

variable (f : Flags)

theorem Flags.verbose_shape : f.shape.verbose = f.verbose := rfl

theorem Flags.skip_shape (cs : List Char) : f.shape.skip cs = f.skip cs := rfl

theorem readHexDigits_shape (n : Nat) (cs : List Char) :
    readHexDigits f.shape n cs = readHexDigits f n cs := by
  induction n generalizing cs with
  | zero => rfl
  | succ n ih => simp only [readHexDigits, Flags.skip_shape, ih]

theorem readBraced_shape (hex comment : Bool) (cs : List Char) :
    readBraced f.shape hex comment cs = readBraced f hex comment cs := by
  induction cs generalizing comment with
  | nil => cases comment <;> rfl
  | cons c cs ih =>
    cases comment with
    | true => simp only [readBraced, ih]
    | false => simp only [readBraced, ih, Flags.verbose_shape]

theorem readWhile_shape (p : Char → Bool) (comment : Bool) (cs : List Char) :
    readWhile f.shape p comment cs = readWhile f p comment cs := by
  induction cs generalizing comment with
  | nil => cases comment <;> rfl
  | cons c cs ih =>
    cases comment with
    | true => simp only [readWhile, ih]
    | false => simp only [readWhile, ih, Flags.verbose_shape]

theorem readCount_shape (cs : List Char) : readCount f.shape cs = readCount f cs := by
  simp only [readCount, readWhile_shape, Flags.skip_shape]

theorem readNumber_shape (digits : Nat) (cs : List Char) :
    readNumber f.shape digits cs = readNumber f digits cs := by
  simp only [readNumber, readHexDigits_shape, readBraced_shape, Flags.skip_shape]
  rfl

theorem readWordEdge_shape (cs : List Char) : readWordEdge f.shape cs = readWordEdge f cs := by
  simp only [readWordEdge, readWhile_shape, Flags.skip_shape]

theorem propertySet_shape (negated : Bool) (property : Except ParseError (Property × Bool))
    (rest : List Char) :
    (propertySet f.shape negated property rest).through EscapeSequence.shape =
      (propertySet f negated property rest).through EscapeSequence.shape := by
  unfold propertySet
  change (if !f.unicode then _ else _ : Reading EscapeSequence).through _ = _
  split
  · rfl
  · split
    · rfl
    · rfl

theorem readProperty_shape (negated : Bool) (cs : List Char) :
    (readProperty f.shape negated cs).through EscapeSequence.shape =
      (readProperty f negated cs).through EscapeSequence.shape := by
  simp only [readProperty, readBraced_shape, Flags.skip_shape]
  split
  · rfl
  · split
    · rfl
    · exact propertySet_shape f negated _ _
  · rfl
  · exact propertySet_shape f negated _ _

/-- Only the set of a backslash sequence depends on case. -/
theorem readEscape_shape (cs : List Char) :
    (readEscape f.shape cs).through EscapeSequence.shape =
      (readEscape f cs).through EscapeSequence.shape := by
  cases cs with
  | nil => rfl
  | cons c cs =>
    simp only [readEscape, readNumber_shape, readWordEdge_shape]
    split
    · rfl
    · split
      · rfl
      · split
        case h_4 => exact readProperty_shape f false cs
        case h_5 => exact readProperty_shape f true cs
        all_goals rfl

theorem readDashes_shape (l : ClassLevel) (cs : List Char) :
    readDashes f.shape l cs = readDashes f l cs := by
  fun_induction readDashes f l cs with
  | case1 l rest ih => rw [readDashes, Flags.skip_shape, ih]
  | case2 l cs h =>
    rw [readDashes]
    exact h

theorem openBracket_shape (cs : List Char) : openBracket f.shape cs = openBracket f cs := by
  simp only [openBracket, Flags.skip_shape, readDashes_shape]

theorem visibleAfterDash_shape (cs : List Char) :
    visibleAfterDash f.shape cs = visibleAfterDash f cs := rfl

theorem readClassAtom_shape (c : Char) (cs : List Char) :
    (readClassAtom f.shape c cs).through EscapeSequence.shape =
      (readClassAtom f c cs).through EscapeSequence.shape := by
  unfold readClassAtom
  split
  · exact readEscape_shape f cs
  · rfl

end

section

variable {f : Flags} {l l' : ClassLevel} {e e' : EscapeSequence}

theorem classLiteral_eq_of_shape (h : e.shape = e'.shape) (otherwise : ParseError) :
    classLiteral f.shape otherwise e = classLiteral f otherwise e' := by
  rcases EscapeSequence.cases_of_shape_eq h with ⟨c, rfl, rfl⟩ | ⟨s, s', rfl, rfl⟩ | ⟨a, rfl, rfl⟩
  · rfl
  · rfl
  · rfl

/-- Whether there is a set does not depend on case. -/
theorem classAtomSet_shape (h : e.shape = e'.shape) :
    (classAtomSet f.shape e).map (fun _ => ()) = (classAtomSet f e').map fun _ => () := by
  rcases EscapeSequence.cases_of_shape_eq h with ⟨c, rfl, rfl⟩ | ⟨s, s', rfl, rfl⟩ | ⟨a, rfl, rfl⟩
  · rfl
  · rfl
  · rfl

theorem classRange_shape {d d' : EscapeSequence} (h : e.shape = e'.shape) (hd : d.shape = d'.shape) :
    classRange f.shape e d = classRange f e' d' := by
  simp only [classRange, classLiteral_eq_of_shape h, classLiteral_eq_of_shape hd]

theorem readMember_shape (f : Flags) (c : Char) (cs : List Char) :
    (readMember f.shape c cs).through (fun _ => ()) = (readMember f c cs).through fun _ => () := by
  unfold readMember
  rcases Reading.cases_of_through_eq (readClassAtom_shape f c cs) with
    ⟨e, hx, hy⟩ | ⟨lo, lo', rest, hx, hy, hlo⟩
  · rw [hx, hy]
  · rw [hx, hy]
    simp only [Flags.skip_shape]
    split
    · rfl
    · -- A dash follows: it is a member itself before a bracket or a dash, and else makes a range.
      rename_i after _
      have hshown := visibleAfterDash_shape f after
      by_cases hdash :
          (visibleAfterDash f after == some ']' || visibleAfterDash f after == some '-') = true
      · rw [if_pos hdash, if_pos (by rwa [hshown])]
        exact Reading.through_map (classAtomSet_shape hlo) _
      · rw [if_neg hdash, if_neg (by rwa [hshown])]
        split
        · rfl
        · rename_i d rest' _
          rcases Reading.cases_of_through_eq (readClassAtom_shape f d rest') with
            ⟨e, hx', hy'⟩ | ⟨hi, hi', rest'', hx', hy', hhi⟩
          · rw [hx', hy']
          · rw [hx', hy']
            dsimp only
            rw [classRange_shape hlo hhi]
    · exact Reading.through_map (classAtomSet_shape hlo) _

end

namespace ClassLevel

variable {f : Flags} {l l' : ClassLevel}

theorem shape_add {m m' : ClassMember} (h : l.shape = l'.shape) (hm : m.depth = m'.depth) :
    (l.add m).shape = (l'.add m').shape := by
  simp only [shape, ClassLevel.mk.injEq] at h ⊢
  refine ⟨h.1, h.2.1, ?_⟩
  simp only [add, List.map_append, h.2.2, List.map_cons, List.map_nil, ClassMember.shape, hm]

theorem depth_operand_shape (l : ClassLevel) : l.shape.operand.depth = l.operand.depth := by
  unfold operand
  rcases hm : l.members with _ | ⟨m, _ | ⟨m', ms⟩⟩
  all_goals simp [shape, hm, ClassMember.shape, Function.comp_def]

/-- How deep a bracket nests does not depend on its sets. -/
theorem depth_total_shape (f g : Flags) (l : ClassLevel) :
    (l.shape.total f).depth = (l.total g).depth := by
  have hoperand := depth_operand_shape l
  have hpending : l.shape.pending = l.pending.map fun p => (p.1, p.2.shape) := rfl
  unfold total
  cases hp : l.pending with
  | none =>
    rw [hp, Option.map_none] at hpending
    simpa only [hpending] using hoperand
  | some p =>
    rw [hp, Option.map_some] at hpending
    simp only [hpending, hoperand, ClassMember.shape]

theorem depth_total_eq (h : l.shape = l'.shape) (f g : Flags) :
    (l.total f).depth = (l'.total g).depth := by
  rw [← depth_total_shape f f, h, depth_total_shape]

theorem shape_operate (h : l.shape = l'.shape) (f g : Flags) (op : SetOperation) :
    (l.operate f op).shape = (l'.operate g op).shape := by
  have hnegated : l.negated = l'.negated := (ClassLevel.mk.inj h).1
  simp [shape, operate, ClassMember.shape, depth_total_eq h f g, hnegated]

theorem depth_close (h : l.shape = l'.shape) (f : Flags) :
    (l.close f.shape).map (·.depth) = (l'.close f).map (·.depth) := by
  have hnegated : l.negated = l'.negated := (ClassLevel.mk.inj h).1
  have hdepth := depth_total_eq h f.shape f
  have hunicode : f.shape.unicode = f.unicode := rfl
  unfold close negatedClass
  cases hn : l'.negated with
  | false => simp [hnegated, hn, hdepth, Except.map]
  | true =>
    cases hu : f.unicode with
    | false => simp [hnegated, hn, hunicode, hu, Except.map]
    | true => simp [hnegated, hn, hunicode, hu, hdepth, Except.map]

end ClassLevel

/-- Reading on in a bracketed class, with what it reads first told apart. -/
theorem readClassBody_eq (f : Flags) (l : ClassLevel) (outer : List ClassLevel) (cs : List Char) :
    readClassBody f l outer cs =
      match f.skip cs with
      | [] => .error .unclosedClass
      | '[' :: rest =>
        match asciiClassAt? rest with
        | some (negated, s, rest') =>
          match negatedClass f negated (f.folded s) with
          | .error e => .error e
          | .ok s => readClassBody f (l.add ⟨s, 0⟩) outer rest'
        | none => readClassBody f (openBracket f rest).1 (l :: outer) (openBracket f rest).2
      | ']' :: rest =>
        match l.close f with
        | .error e => .error e
        | .ok m =>
          match outer with
          | [] => .ok (m, rest)
          | o :: outer => readClassBody f (o.add m) outer rest
      | '&' :: '&' :: rest => readClassBody f (l.operate f .inter) outer rest
      | '-' :: '-' :: rest => readClassBody f (l.operate f .diff) outer rest
      | '~' :: '~' :: rest => readClassBody f (l.operate f .symmDiff) outer rest
      | c :: rest =>
        match readMember f c rest with
        | .error e => .error e
        | .ok (s, rest') => readClassBody f (l.add ⟨s, 0⟩) outer rest' := by
  fun_cases readClassBody f l outer cs
  all_goals simp only [*]

theorem negatedClass_shape (f : Flags) (negated : Bool) (s t : CharClass) :
    (negatedClass f.shape negated s).map (fun _ => ()) =
      (negatedClass f negated t).map fun _ => () := by
  have hunicode : f.shape.unicode = f.unicode := rfl
  unfold negatedClass
  rw [hunicode]
  split
  · rfl
  · split
    · rfl
    · rfl

theorem readClassBody_shape (f : Flags) {l l' : ClassLevel} {outer outer' : List ClassLevel}
    (h : l.shape = l'.shape) (ho : outer.map ClassLevel.shape = outer'.map ClassLevel.shape)
    (cs : List Char) :
    (readClassBody f.shape l outer cs).through (·.depth) =
      (readClassBody f l' outer' cs).through (·.depth) := by
  -- The induction is on the reading where case counts. The other reading takes the same steps, as
  -- the open brackets keep the same shape; their sets may differ.
  fun_induction readClassBody f.shape l outer cs generalizing l' outer' with
  | case1 l outer cs hc =>
    rw [Flags.skip_shape] at hc
    simp only [readClassBody_eq f l', hc]
  | case2 l outer cs rest hc negated s rest' ha e hn =>
    rw [Flags.skip_shape] at hc
    have hnegated := negatedClass_shape f negated (f.shape.folded s) (f.folded s)
    rw [hn] at hnegated
    simp only [readClassBody_eq f l', hc, ha, eq_error_of_map_eq hnegated]
  | case3 l outer cs rest hc negated s rest' ha s' hn ih =>
    rw [Flags.skip_shape] at hc
    have hnegated := negatedClass_shape f negated (f.shape.folded s) (f.folded s)
    rw [hn] at hnegated
    obtain ⟨t, ht, -⟩ := exists_ok_of_map_eq hnegated
    simp only [readClassBody_eq f l', hc, ha, ht]
    exact ih (ClassLevel.shape_add h rfl) ho
  | case4 l outer cs rest hc ha ih =>
    rw [Flags.skip_shape] at hc
    simp only [readClassBody_eq f l', hc, ha]
    rw [openBracket_shape] at ih ⊢
    apply ih rfl
    rw [List.map_cons, List.map_cons, h, ho]
  | case5 l outer cs rest hc e hm =>
    rw [Flags.skip_shape] at hc
    have hclose := ClassLevel.depth_close h f
    rw [hm] at hclose
    simp only [readClassBody_eq f l', hc, eq_error_of_map_eq hclose]
  | case6 l cs rest hc m hm =>
    rw [Flags.skip_shape] at hc
    have hclose := ClassLevel.depth_close h f
    rw [hm] at hclose
    obtain ⟨m', hm', hdepth⟩ := exists_ok_of_map_eq hclose
    cases outer' with
    | nil =>
      simp only [readClassBody_eq f l', hc, hm']
      exact Reading.through_ok hdepth rest
    | cons o outer' => cases ho
  | case7 l cs rest hc m hm o outer ih =>
    rw [Flags.skip_shape] at hc
    have hclose := ClassLevel.depth_close h f
    rw [hm] at hclose
    obtain ⟨m', hm', hdepth⟩ := exists_ok_of_map_eq hclose
    cases outer' with
    | nil => cases ho
    | cons o' outer' =>
      obtain ⟨ho', houter⟩ := List.cons_eq_cons.mp ho
      simp only [readClassBody_eq f l', hc, hm']
      exact ih (ClassLevel.shape_add ho' hdepth) houter
  | case8 l outer cs rest hc ih | case9 l outer cs rest hc ih | case10 l outer cs rest hc ih =>
    rw [Flags.skip_shape] at hc
    simp only [readClassBody_eq f l', hc]
    exact ih (ClassLevel.shape_operate h _ _ _) ho
  | case11 l outer cs c rest hopen hclose hinter hdiff hsymm hc e hm =>
    rw [Flags.skip_shape] at hc
    have hmember := readMember_shape f c rest
    rw [hm] at hmember
    simp only [readClassBody_eq f l', hc, eq_error_of_map_eq hmember]
  | case12 l outer cs c rest hopen hclose hinter hdiff hsymm hc s rest' hm ih =>
    rw [Flags.skip_shape] at hc
    have hmember := readMember_shape f c rest
    rw [hm] at hmember
    obtain ⟨t, ht, -⟩ := Reading.exists_ok_of_through_eq hmember
    simp only [readClassBody_eq f l', hc, ht]
    exact ih (ClassLevel.shape_add h rfl) ho

/-- A bracketed class nests as deep, and ends where it ends, whatever its settings say of case. -/
theorem readClass_shape (f : Flags) (cs : List Char) :
    (readClass f.shape cs).through (·.depth) = (readClass f cs).through (·.depth) := by
  unfold readClass
  rw [openBracket_shape]
  exact readClassBody_shape f rfl rfl _

end PhotoGrouping.Regex
