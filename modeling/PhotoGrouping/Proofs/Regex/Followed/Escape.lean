import PhotoGrouping.Proofs.Regex.Followed.Basic

namespace PhotoGrouping.Regex

open Text

section

variable {α : Type} {f : Flags} {cs rest tail : List Char} {c : Char}

theorem followed_readHexDigits (f : Flags) (n : Nat) (cs : List Char) :
    Followed Eq (readHexDigits f n) cs := by
  induction n generalizing cs with
  | zero => exact followed_const_skip (.ok []) f cs
  | succ n ih =>
    cases hs : f.skip cs with
    | nil => exact .unfinished .unfinishedEscape (by simp only [readHexDigits, hs]) rfl
    | cons c rest =>
      have hs' := Flags.skip_append_of_cons hs
      cases hc : isHexDigit c with
      | true =>
        refine ((ih rest).map (c :: ·)).of_eq ?_ fun tail _ => ?_
        · simp only [readHexDigits, hs, hc, if_true]
          cases readHexDigits f n rest <;> rfl
        · simp only [readHexDigits, hs', hc, if_true]
          cases readHexDigits f n (rest ++ tail) <;> rfl
      | false =>
        refine .failed .invalidHexDigit ?_ fun tail _ => ⟨.invalidHexDigit, ?_⟩
        · simp only [readHexDigits, hs, hc, Bool.false_eq_true, if_false]
        · simp only [readHexDigits, hs', hc, Bool.false_eq_true, if_false]

/-- A braced text ends before the end of a branch, or it is refused before that, or not at all. -/
theorem readBraced_append (f : Flags) (hex comment : Bool) (cs : List Char) :
    (∀ tail, readBraced f hex comment (cs ++ tail) = (readBraced f hex comment cs).before tail) ∨
      readBraced f hex comment cs = .error .unfinishedEscape := by
  induction cs generalizing comment with
  | nil => exact Or.inr (by rw [readBraced])
  | cons c cs ih =>
    cases comment with
    | true => simpa only [List.cons_append, readBraced] using ih (c != '\n')
    | false =>
      simp only [List.cons_append, readBraced]
      split
      · exact ih false
      · split
        · exact ih true
        · split
          · exact Or.inl fun tail => rfl
          · split
            · exact Or.inl fun tail => rfl
            · obtain hall | herror := ih false
              · refine Or.inl fun tail => ?_
                rw [hall tail]
                cases readBraced f hex false cs <;> rfl
              · exact Or.inr (by rw [herror])

/-- A run of characters ends in the text, or it goes on behind it, where a comment may be open. -/
theorem readWhile_append (f : Flags) (p : Char → Bool) (comment : Bool) (cs : List Char) :
    (∀ tail, readWhile f p comment (cs ++ tail) =
      ((readWhile f p comment cs).1, (readWhile f p comment cs).2 ++ tail)) ∨
    (readWhile f p comment cs).2 = [] ∧ ∃ b, ∀ tail, readWhile f p comment (cs ++ tail) =
      ((readWhile f p comment cs).1 ++ (readWhile f p b tail).1, (readWhile f p b tail).2) := by
  fun_induction readWhile f p comment cs with
  | case1 b => exact Or.inr ⟨rfl, b, fun tail => rfl⟩
  | case2 c cs ih => exact ih
  | case3 c cs hblank ih => simpa only [List.cons_append, readWhile, if_pos hblank] using ih
  | case4 c cs hblank hhash ih =>
    simpa only [List.cons_append, readWhile, if_neg hblank, if_pos hhash] using ih
  | case5 c cs hblank hhash hp run rest hrun ih =>
    rw [hrun] at ih
    obtain hall | ⟨hnil, b, hall⟩ := ih
    · refine Or.inl fun tail => ?_
      rw [List.cons_append, readWhile, if_neg hblank, if_neg hhash, if_pos hp, hall tail]
    · refine Or.inr ⟨hnil, b, fun tail => ?_⟩
      rw [List.cons_append, readWhile, if_neg hblank, if_neg hhash, if_pos hp, hall tail,
        List.cons_append]
  | case6 c cs hblank hhash hp =>
    refine Or.inl fun tail => ?_
    rw [List.cons_append, readWhile, if_neg hblank, if_neg hhash, if_neg hp]

theorem exists_numbered_eq (f : Flags) (twoDigits : Bool) :
    ∃ x : List Char → Except ParseError EscapeSequence,
      ∀ digits rest, numbered f twoDigits digits rest = (x digits).map (·, rest) := by
  refine ⟨fun digits => (numbered f twoDigits digits []).map Prod.fst, fun digits rest => ?_⟩
  dsimp only [numbered]
  split
  · rfl
  · split
    · rfl
    · split <;> rfl

theorem exists_propertySet_eq (f : Flags) (negated : Bool)
    (property : Except ParseError (Property × Bool)) :
    ∃ x : Except ParseError EscapeSequence,
      ∀ rest, propertySet f negated property rest = x.map (·, rest) := by
  unfold propertySet
  split
  · exact ⟨.error .unicodeNotAllowed, fun _ => rfl⟩
  · split
    · rename_i e
      exact ⟨.error e, fun _ => rfl⟩
    · exact ⟨.ok _, fun _ => rfl⟩

/-- A braced text and what is read on. -/
theorem followed_braced {k : List Char → List Char → Reading α}
    (hk : ∀ t rest, Followed Eq (k t) rest) (f : Flags) (hex : Bool) (cs : List Char) :
    Followed Eq (fun cs => (readBraced f hex false cs).thenRead k) cs := by
  have hbraced : Followed (fun _ _ => False) (readBraced f hex false) cs := by
    obtain hall | herror := readBraced_append f hex false cs
    · exact .of_before fun tail _ => hall tail
    · exact .unfinished .unfinishedEscape herror rfl
  exact hbraced.thenRead (fun t rest _ => hk t rest)
    fun t _ bar all => (all _ endsBranch_bar t [] bar).elim

theorem followed_readNumber (f : Flags) (digits : Nat) (cs : List Char) :
    Followed Eq (readNumber f digits) cs := by
  cases hs : f.skip cs with
  | nil => exact .unfinished .unfinishedEscape (by simp only [readNumber, hs]) rfl
  | cons c rest =>
    by_cases hc : c = '{'
    · subst hc
      obtain ⟨x, hx⟩ := exists_numbered_eq f false
      refine (followed_braced (fun t => followed_const_skip (x t) f) f true rest).of_eq ?_ fun tail _ => ?_
      · simp only [readNumber, hs, hx]
        cases readBraced f true false rest <;> rfl
      · simp only [readNumber, Flags.skip_append_of_cons hs, hx]
        cases readBraced f true false (rest ++ tail) <;> rfl
    · obtain ⟨x, hx⟩ := exists_numbered_eq f (digits = 2)
      refine ((followed_readHexDigits f digits (c :: rest)).thenTry x).of_eq ?_ fun tail _ => ?_
      · simp only [readNumber, hs, hx]
        split
        · cases ‹_ = []›
        · exact absurd (List.cons.inj ‹_›).1 hc
        · cases readHexDigits f digits (c :: rest) <;> rfl
      · simp only [readNumber, Flags.skip_append_of_cons hs, hx, List.cons_append]
        split
        · cases ‹_ = []›
        · exact absurd (List.cons.inj ‹_›).1 hc
        · cases readHexDigits f digits (c :: (rest ++ tail)) <;> rfl

theorem followed_readProperty (f : Flags) (negated : Bool) (cs : List Char) :
    Followed Eq (readProperty f negated) cs := by
  have hset : ∀ property (rest : List Char), Followed Eq (propertySet f negated property) rest := by
    intro property rest
    obtain ⟨x, hx⟩ := exists_propertySet_eq f negated property
    simpa only [← hx] using Followed.const x rest
  cases hs : f.skip cs with
  | nil => exact .unfinished .unfinishedEscape (by simp only [readProperty, hs]) rfl
  | cons c rest =>
    by_cases hc : c = '{'
    · subst hc
      refine (followed_braced (fun t => hset (bracedProperty t)) f false rest).of_eq ?_ fun tail _ => ?_
      · simp only [readProperty, hs]
        cases readBraced f false false rest <;> rfl
      · simp only [readProperty, Flags.skip_append_of_cons hs]
        cases readBraced f false false (rest ++ tail) <;> rfl
    · by_cases hslash : c = '\\'
      · subst hslash
        refine .failed .invalidProperty (by simp only [readProperty, hs]) fun tail _ => ?_
        exact ⟨.invalidProperty, by simp only [readProperty, Flags.skip_append_of_cons hs]⟩
      · obtain ⟨x, hx⟩ := exists_propertySet_eq f negated (loneProperty [c])
        refine (followed_const_skip x f rest).of_eq ?_ fun tail _ => ?_
        · simp only [readProperty, hs, ← hx]
        · simp only [readProperty, Flags.skip_append_of_cons hs, ← hx]

theorem closeWordEdge_append (name : List Char) (h : cs ≠ []) (tail : List Char) :
    closeWordEdge name (cs ++ tail) = (closeWordEdge name cs).before tail := by
  obtain ⟨c, rest, rfl⟩ := List.exists_cons_of_ne_nil h
  rw [List.cons_append, closeWordEdge, closeWordEdge]
  split
  · cases wordEdge? name <;> rfl
  · rfl

theorem followed_readWordEdge (f : Flags) (cs : List Char) : Followed Eq (readWordEdge f) cs := by
  by_cases hbrace : ∃ cs', cs = '{' :: cs'
  · obtain ⟨cs', rfl⟩ := hbrace
    cases hs : f.skip cs' with
    | nil => exact .unfinished .unfinishedWordEdge (by simp only [readWordEdge, hs]) rfl
    | cons c rest =>
      have hs' := fun tail => Flags.skip_append_of_cons hs tail
      cases hedge : isEdgeChar c with
      | false =>
        refine .closed .either ('{' :: cs') ?_ fun tail _ => ?_
        · simp only [readWordEdge, hs, hedge, Bool.false_eq_true, if_false]
        · simp only [List.cons_append, readWordEdge, hs', hedge, Bool.false_eq_true, if_false]
      | true =>
        by_cases hleft : (readWhile f isEdgeChar false (c :: rest)).2 = []
        · refine .unfinished .unclosedWordEdge ?_ rfl
          simp only [readWordEdge, hs, hedge, if_true, hleft, closeWordEdge]
        · obtain hall | ⟨hnil, -⟩ := readWhile_append f isEdgeChar false (c :: rest)
          · refine .of_before fun tail _ => ?_
            have hw := hall tail
            rw [List.cons_append] at hw
            simp only [List.cons_append, readWordEdge, hs, hs', hedge, if_true, hw,
              closeWordEdge_append _ hleft]
          · exact absurd hnil hleft
  · refine .closed .either cs ?_ fun tail htail => ?_
    · unfold readWordEdge
      split
      · exact absurd ⟨_, rfl⟩ hbrace
      · rfl
    · unfold readWordEdge
      split
      · rename_i cs' heq
        cases cs with
        | nil =>
          obtain ⟨c, cs, rfl, rfl | rfl⟩ := htail
          · cases heq
          · cases heq
        | cons c cs => exact absurd ⟨cs, by rw [(List.cons.inj heq).1]⟩ hbrace
      · rfl

theorem followed_readEscape (f : Flags) (cs : List Char) : Followed Eq (readEscape f) cs := by
  fun_cases readEscape f cs with
  | case1 => exact .unfinished .unfinishedEscape rfl rfl
  | case2 c cs hdigit =>
    refine .failed .unsupportedBackreference (by simp only [readEscape, if_pos hdigit]) ?_
    intro tail _
    exact ⟨.unsupportedBackreference, by simp only [List.cons_append, readEscape, if_pos hdigit]⟩
  | case3 c cs hdigit hescapable =>
    refine .closed (.literal c) cs ?_ fun tail _ => ?_
    · simp only [readEscape, if_neg hdigit, if_pos hescapable]
    · simp only [List.cons_append, readEscape, if_neg hdigit, if_pos hescapable]
  | case4 cs => exact (followed_readNumber f 2 cs).of_eq rfl fun _ _ => rfl
  | case5 cs => exact (followed_readNumber f 4 cs).of_eq rfl fun _ _ => rfl
  | case6 cs => exact (followed_readNumber f 8 cs).of_eq rfl fun _ _ => rfl
  | case7 cs => exact (followed_readProperty f false cs).of_eq rfl fun _ _ => rfl
  | case8 cs => exact (followed_readProperty f true cs).of_eq rfl fun _ _ => rfl
  | case12 cs e hdigit hescapable h | case14 cs e hdigit hescapable h
  | case16 cs e hdigit hescapable h =>
    refine .failed e ?_ fun tail _ => ⟨e, ?_⟩
    · simp only [readEscape, if_neg hdigit, if_neg hescapable, h]
    · simp only [List.cons_append, readEscape, if_neg hdigit, if_neg hescapable, h]
  | case13 cs s hdigit hescapable h | case15 cs s hdigit hescapable h
  | case17 cs s hdigit hescapable h =>
    refine .closed (.set s) cs ?_ fun tail _ => ?_
    · simp only [readEscape, if_neg hdigit, if_neg hescapable, h]
    · simp only [List.cons_append, readEscape, if_neg hdigit, if_neg hescapable, h]
  | case26 cs | case27 cs =>
    have hedge := (followed_readWordEdge f cs).map
      fun e => EscapeSequence.look (.wordEdge e (!f.unicode))
    refine hedge.of_eq ?_ fun tail _ => ?_
    · dsimp only [readEscape]
      cases readWordEdge f cs <;> rfl
    · dsimp only [List.cons_append, readEscape]
      cases readWordEdge f (cs ++ tail) <;> rfl
  | case31 c cs hdigit hescapable =>
    refine .failed .unknownEscape ?_ fun tail _ => ⟨.unknownEscape, ?_⟩
    · simp only [readEscape, if_neg hdigit, if_neg hescapable]
    · simp only [List.cons_append, readEscape, if_neg hdigit, if_neg hescapable]
  | _ => exact .closed _ _ rfl fun _ _ => rfl

end

end PhotoGrouping.Regex
