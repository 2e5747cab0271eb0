import PhotoGrouping.Proofs.Filename.Delimiters
import PhotoGrouping.TokenAnalysis

namespace PhotoGrouping

open Text Filename

/-- The type of a segment and the confidence in it, where any lookup may give values a type. -/
def classifyBy (lookup : String → Option TokenType) (leadingSeen : Bool) (segment : List Char) :
    TokenType × Float :=
  match lookup (String.ofList segment) with
  | some type => (type, confidences.custom)
  | none => classifyPlain leadingSeen segment

/-- The tokens of segments from a position on, by a lookup. -/
def tokensFromBy (lookup : String → Option TokenType) : Nat → Bool → List (List Char) → List Token
  | _, _, [] => []
  | position, leadingSeen, segment :: rest =>
    let (type, confidence) := classifyBy lookup leadingSeen segment
    Token.make (String.ofList segment) position type confidence ::
      tokensFromBy lookup (position + 1) (leadingSeen || type = .leading) rest

/-- The tokens of a filename by a lookup. -/
def tokensBy (lookup : String → Option TokenType) (filename : String) : List Token :=
  let (stem, extension) := splitExtension filename.toList
  let body := tokensFromBy lookup 0 false (segments stem)
  match extension with
  | none => body
  | some ext =>
    body ++ [Token.make (String.ofList ext) body.length .extension confidences.extension]

theorem tokensFromBy_custom (custom : List CustomToken) (ss : List (List Char)) (position : Nat)
    (leadingSeen : Bool) :
    tokensFromBy (CustomToken.typeOf? custom) position leadingSeen ss =
      tokensFrom custom position leadingSeen ss := by
  induction ss generalizing position leadingSeen with
  | nil => rfl
  | cons s ss ih => exact congrArg (List.cons _) (ih _ _)

/-- Custom tokens are one of the lookups. -/
theorem tokensBy_custom (custom : List CustomToken) (f : String) :
    tokensBy (CustomToken.typeOf? custom) f = tokensOf custom f := by
  cases hsplit : splitExtension f.toList with
  | mk stem extension =>
    cases extension with
    | none => simp [tokensBy, tokensOf, hsplit, tokensFromBy_custom]
    | some ext => simp [tokensBy, tokensOf, hsplit, tokensFromBy_custom]

/-- Whether a segment is a date with dashes, which are delimiters elsewhere. -/
def isDashedDate (cs : List Char) : Bool :=
  hasShape yearFirst cs || hasShape yearLast cs

/-- Whether a segment holds no delimiter. -/
def isSolid (cs : List Char) : Bool :=
  cs.all (!isDelimiter ·)

/-- What a type says about the characters of a token of a filename. -/
def TokenType.Describes (type : TokenType) (cs : List Char) : Prop :=
  match type with
  | .leading => isAlphabeticRun cs = true
  | .trailing => False
  | .groupId => isMixed cs = true
  | .cameraSide => (Role.ofSynonym? (String.ofList cs)).isSome = true
  | .date => isDate cs = true
  | .index => isIndex cs = true
  | .extension => isExtension cs = true
  | .unknown => True

/-- What holds of a token of a filename: no other token than a date holds delimiters. -/
structure Token.Found (t : Token) : Prop where
  solid_or_dashed : isSolid t.value.toList = true ∨ isDashedDate t.value.toList = true
  describes : t.type.Describes t.value.toList
  date_of_dashed : isDashedDate t.value.toList = true → t.type = .date

variable {c : Char} {cs s : List Char} {f : String} {t : Token}

theorem countP_isDelimiter_of_isSolid (h : isSolid cs = true) : cs.countP isDelimiter = 0 := by
  rw [List.countP_eq_zero]
  intro c hc
  simpa using List.all_eq_true.mp h c hc

theorem countP_isDelimiter_of_isDashedDate (h : isDashedDate cs = true) :
    cs.countP isDelimiter = 2 := by
  rcases Bool.or_eq_true_iff.mp h with h | h
  · exact countP_isDelimiter_of_hasShape h
  · exact countP_isDelimiter_of_hasShape h

/-- A date with dashes has its delimiters where one of the shapes has them. -/
theorem map_isDelimiter_of_isDashedDate (h : isDashedDate cs = true) :
    cs.map isDelimiter = yearFirst.map isDelimiter ∨
      cs.map isDelimiter = yearLast.map isDelimiter :=
  (Bool.or_eq_true_iff.mp h).imp map_isDelimiter_of_hasShape map_isDelimiter_of_hasShape

theorem isDashedDate_of_isSolid (h : isSolid cs = true) : isDashedDate cs = false := by
  rw [Bool.eq_false_iff]
  intro hd
  have h2 := countP_isDelimiter_of_isDashedDate hd
  rw [countP_isDelimiter_of_isSolid h] at h2
  cases h2

theorem isWord_of_isDigit (h : isDigit c = true) : isWord c = true := by
  unfold isDigit at h
  unfold isWord
  split at h
  · rename_i hc
    rw [if_pos hc, Char.isAlphanum, h]
    simp
  · rename_i hc
    rw [if_neg hc, isDigit, if_neg hc, h]
    simp

theorem isWord_of_isAlphanum (h : c.isAlphanum = true) : isWord c = true := by
  unfold isWord
  split
  · rw [h, Bool.true_or]
  · rename_i hc
    exact absurd (toNat_lt_of_isAlphanum h) hc

theorem isWord_of_isMixed (h : isMixed cs = true) (hc : c ∈ cs) : isWord c = true := by
  cases ha : c.isAlphanum with
  | true => exact isWord_of_isAlphanum ha
  | false =>
    have hother : c ∈ cs.filter (!·.isAlphanum) := List.mem_filter.mpr ⟨hc, by simp [ha]⟩
    obtain ⟨-, h⟩ := Bool.and_eq_true_iff.mp h
    split at h
    · rename_i hnil
      rw [hnil] at hother
      cases hother
    · rename_i d hd
      rw [hd, List.mem_singleton] at hother
      subst hother
      exact isWord_of_isDigit h
    · cases h

theorem isDate_of_isDashedDate (h : isDashedDate cs = true) : isDate cs = true := by
  rw [isDashedDate] at h
  rw [isDate, h, Bool.true_or]

theorem leadingDate?_dashed {date rest : List Char} (h : leadingDate? cs = some (date, rest)) :
    isDashedDate date = true := by
  rw [leadingDate?] at h
  split at h
  · rename_i hs
    obtain rfl := (Prod.mk.inj (Option.some.inj h)).1
    exact hs
  · cases h

theorem solid_or_dashed_of_mem_segments (h : s ∈ segments cs) :
    isSolid s = true ∨ isDashedDate s = true := by
  fun_induction segments cs with
  | case1 => cases h
  | case2 c rest date rest' hd ih =>
    rcases List.mem_cons.mp h with rfl | h
    · exact Or.inr (leadingDate?_dashed hd)
    · exact ih h
  | case3 c rest hd hc ih => exact ih h
  | case4 c rest hd hc ih =>
    rcases List.mem_cons.mp h with rfl | h
    · left
      have hrun : (rest.takeWhile (!isDelimiter ·)).all (!isDelimiter ·) = true :=
        List.all_takeWhile
      rw [isSolid, List.all_cons, hrun]
      simpa using hc
    · exact ih h

theorem ne_nil_of_isDashedDate (h : isDashedDate cs = true) : cs ≠ [] := by
  intro hnil
  rw [hnil] at h
  cases h

theorem ne_nil_of_mem_segments (h : s ∈ segments cs) : s ≠ [] := by
  fun_induction segments cs with
  | case1 => cases h
  | case2 c rest date rest' hd ih =>
    rcases List.mem_cons.mp h with rfl | h
    · exact ne_nil_of_isDashedDate (leadingDate?_dashed hd)
    · exact ih h
  | case3 c rest hd hc ih => exact ih h
  | case4 c rest hd hc ih =>
    rcases List.mem_cons.mp h with rfl | h
    · exact List.cons_ne_nil _ _
    · exact ih h

theorem describes_classifyPlain (leadingSeen : Bool) (s : List Char) :
    (classifyPlain leadingSeen s).1.Describes s := by
  unfold classifyPlain
  split
  · assumption
  · split
    · assumption
    · split
      · assumption
      · split
        · assumption
        · split
          · rename_i hl
            exact (Bool.and_eq_true_iff.mp hl).2
          · trivial

theorem classifyPlain_of_isDate (leadingSeen : Bool) (h : isDate s = true) :
    (classifyPlain leadingSeen s).1 = .date := by
  rw [classifyPlain, if_pos h]

theorem tokensFrom_cons (position : Nat) (leadingSeen : Bool) (s : List Char)
    (rest : List (List Char)) : ∃ confidence seen,
    tokensFrom [] position leadingSeen (s :: rest) =
      Token.make (String.ofList s) position (classifyPlain leadingSeen s).1 confidence ::
        tokensFrom [] (position + 1) seen rest :=
  ⟨_, _, rfl⟩

theorem found_of_mem_tokensFrom {ss : List (List Char)} {position : Nat} {leadingSeen : Bool}
    (hs : ∀ s ∈ ss, isSolid s = true ∨ isDashedDate s = true)
    (h : t ∈ tokensFrom [] position leadingSeen ss) : t.Found := by
  induction ss generalizing position leadingSeen with
  | nil => cases h
  | cons s rest ih =>
    obtain ⟨confidence, seen, he⟩ := tokensFrom_cons position leadingSeen s rest
    rw [he] at h
    rcases List.mem_cons.mp h with rfl | h
    · have hl : (String.ofList s).toList = s := String.toList_ofList
      refine ⟨?_, ?_, ?_⟩
      · simpa [Token.make, hl] using hs s (by simp)
      · simpa [Token.make, hl] using describes_classifyPlain leadingSeen s
      · intro hd
        rw [Token.make, hl] at hd
        exact classifyPlain_of_isDate leadingSeen (isDate_of_isDashedDate hd)
    · exact ih (fun s hm => hs s (List.mem_cons_of_mem _ hm)) h

section Lookup

variable (lookup : String → Option TokenType)

theorem values_tokensFromBy (ss : List (List Char)) (position : Nat) (leadingSeen : Bool) :
    (tokensFromBy lookup position leadingSeen ss).map (·.value.toList) = ss := by
  induction ss generalizing position leadingSeen with
  | nil => rfl
  | cons s ss ih =>
    rw [tokensFromBy, List.map_cons, ih]
    simp [Token.make]

theorem positions_tokensFromBy (ss : List (List Char)) (position : Nat) (leadingSeen : Bool) :
    (tokensFromBy lookup position leadingSeen ss).map (·.position) =
      List.range' position ss.length := by
  induction ss generalizing position leadingSeen with
  | nil => rfl
  | cons s ss ih =>
    rw [tokensFromBy, List.map_cons, ih, List.length_cons, List.range'_succ]
    rfl

theorem length_tokensFromBy (ss : List (List Char)) (position : Nat) (leadingSeen : Bool) :
    (tokensFromBy lookup position leadingSeen ss).length = ss.length := by
  have h := congrArg List.length (positions_tokensFromBy lookup ss position leadingSeen)
  rwa [List.length_map, List.length_range'] at h

theorem tokensBy_of_no_extension {stem : List Char}
    (h : splitExtension f.toList = (stem, none)) :
    tokensBy lookup f = tokensFromBy lookup 0 false (segments stem) := by
  simp only [tokensBy, h]

theorem tokensBy_of_extension {stem ext : List Char}
    (h : splitExtension f.toList = (stem, some ext)) :
    tokensBy lookup f = tokensFromBy lookup 0 false (segments stem) ++
      [Token.make (String.ofList ext) (tokensFromBy lookup 0 false (segments stem)).length .extension
        confidences.extension] := by
  simp only [tokensBy, h]

theorem positions_tokensBy (f : String) :
    (tokensBy lookup f).map (·.position) = List.range (tokensBy lookup f).length := by
  rw [List.range_eq_range']
  cases hsplit : splitExtension f.toList with
  | mk stem extension =>
    cases extension with
    | none =>
      rw [tokensBy_of_no_extension lookup hsplit, positions_tokensFromBy, length_tokensFromBy]
    | some ext =>
      rw [tokensBy_of_extension lookup hsplit, List.map_append, positions_tokensFromBy,
        List.length_append, length_tokensFromBy, List.length_singleton, List.range'_concat]
      simp [Token.make]

end Lookup

theorem isSolid_of_isExtension (h : isExtension cs = true) : isSolid cs = true := by
  rw [isExtension, Bool.and_eq_true, List.all_eq_true] at h
  rw [isSolid, List.all_eq_true]
  intro c hc
  have hx := h.2 c hc
  cases hd : isDelimiter c with
  | false => rfl
  | true =>
    rw [isAlphanum_of_isDelimiter hd] at hx
    cases hx

theorem isExtension_of_splitExtension {stem ext : List Char}
    (h : splitExtension cs = (stem, some ext)) : isExtension ext = true := by
  unfold splitExtension at h
  split at h
  · split at h
    · rename_i hc
      obtain ⟨-, he⟩ := Prod.mk.inj h
      obtain rfl := Option.some.inj he
      exact (Bool.and_eq_true_iff.mp hc).2
    · cases (Prod.mk.inj h).2
  · cases (Prod.mk.inj h).2

theorem tokensOf_of_no_extension {stem : List Char} (h : splitExtension f.toList = (stem, none)) :
    tokensOf [] f = tokensFrom [] 0 false (segments stem) := by
  simp only [tokensOf, h]

theorem tokensOf_of_extension {stem ext : List Char}
    (h : splitExtension f.toList = (stem, some ext)) :
    tokensOf [] f = tokensFrom [] 0 false (segments stem) ++
      [Token.make (String.ofList ext) (tokensFrom [] 0 false (segments stem)).length .extension
        confidences.extension] := by
  simp only [tokensOf, h]

/-- A token of a filename comes from a segment, or is the extension. -/
theorem mem_tokensOf (h : t ∈ tokensOf [] f) :
    (∃ stem, t ∈ tokensFrom [] 0 false (segments stem)) ∨
      ∃ ext position, isExtension ext = true ∧
        t = Token.make (String.ofList ext) position .extension confidences.extension := by
  cases hsplit : splitExtension f.toList with
  | mk stem extension =>
    cases extension with
    | none =>
      rw [tokensOf_of_no_extension hsplit] at h
      exact Or.inl ⟨stem, h⟩
    | some ext =>
      rw [tokensOf_of_extension hsplit] at h
      rcases List.mem_append.mp h with h | h
      · exact Or.inl ⟨stem, h⟩
      · exact Or.inr ⟨ext, _, isExtension_of_splitExtension hsplit, List.mem_singleton.mp h⟩

/-- The tokens of a filename are what their types say. -/
theorem found_of_mem_tokensOf (h : t ∈ tokensOf [] f) : t.Found := by
  obtain ⟨stem, hm⟩ | ⟨ext, position, hext, rfl⟩ := mem_tokensOf h
  · exact found_of_mem_tokensFrom (fun s hs => solid_or_dashed_of_mem_segments hs) hm
  · have hsolid := isSolid_of_isExtension hext
    have hl : (String.ofList ext).toList = ext := String.toList_ofList
    refine ⟨?_, ?_, ?_⟩
    · rw [Token.make, hl]
      exact Or.inl hsolid
    · rw [Token.make, hl]
      exact hext
    · intro hd
      rw [Token.make, hl, isDashedDate_of_isSolid hsolid] at hd
      cases hd

/-- The tokens of a filename are not empty. -/
theorem value_ne_nil_of_mem_tokensOf (h : t ∈ tokensOf [] f) : t.value.toList ≠ [] := by
  obtain ⟨stem, hm⟩ | ⟨ext, position, hext, rfl⟩ := mem_tokensOf h
  · have hvalue := List.mem_map_of_mem (f := (·.value.toList)) hm
    rw [← tokensFromBy_custom, values_tokensFromBy] at hvalue
    exact ne_nil_of_mem_segments hvalue
  · intro hnil
    rw [Token.make, String.toList_ofList] at hnil
    rw [hnil] at hext
    cases hext

/-- Whether the positions of tokens count them from zero. -/
def AreNumbered (ts : List Token) : Prop :=
  ts.map (·.position) = List.range ts.length

section Numbered

variable {ts : List Token} {p : Nat}

theorem AreNumbered.nodup (h : AreNumbered ts) : (ts.map (·.position)).Nodup := by
  rw [h]
  exact List.nodup_range

theorem AreNumbered.position_of_getElem? (h : AreNumbered ts) (ht : ts[p]? = some t) :
    t.position = p := by
  have hget : (ts.map (·.position))[p]? = (List.range ts.length)[p]? := congrArg (·[p]?) h
  have hp := (List.getElem?_eq_some_iff.mp ht).1
  rw [List.getElem?_map, ht, List.getElem?_range hp] at hget
  exact Option.some.inj hget

/-- A numbered token is found by its position. -/
theorem AreNumbered.getElem?_of_mem (h : AreNumbered ts) (ht : t ∈ ts) : ts[t.position]? = some t := by
  obtain ⟨p, hp⟩ := List.getElem?_of_mem ht
  rw [h.position_of_getElem? hp, hp]

end Numbered

/-- The tokens of a filename stand at the positions from zero on. -/
theorem positions_tokensOf (f : String) :
    (tokensOf [] f).map (·.position) = List.range (tokensOf [] f).length := by
  rw [← tokensBy_custom]
  exact positions_tokensBy _ f

theorem areNumbered_tokensOf (f : String) : AreNumbered (tokensOf [] f) :=
  positions_tokensOf f

theorem position_getElem {p : Nat} {h : p < (tokensOf [] f).length} : (tokensOf [] f)[p].position = p :=
  (areNumbered_tokensOf f).position_of_getElem? (List.getElem?_eq_getElem h)

theorem getElem?_position (h : t ∈ tokensOf [] f) : (tokensOf [] f)[t.position]? = some t :=
  (areNumbered_tokensOf f).getElem?_of_mem h

theorem position_lt (h : t ∈ tokensOf [] f) : t.position < (tokensOf [] f).length :=
  (List.getElem?_eq_some_iff.mp (getElem?_position h)).1

end PhotoGrouping
