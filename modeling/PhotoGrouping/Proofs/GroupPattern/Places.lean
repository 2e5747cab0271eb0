import PhotoGrouping.Proofs.Filename.GreedyCuts
import PhotoGrouping.Proofs.GroupPattern.Matching
import PhotoGrouping.Proofs.Regex.Preference

namespace PhotoGrouping

open Regex Text Filename

/-- Whether the words of a type end where delimiters begin: those of groups and of free text may take
some with them. -/
def TokenType.isRigid : TokenType → Bool
  | .groupId | .unknown => false
  | _ => true

/-- Whether words of a type may hold a delimiter in any place. -/
def TokenType.swallows : TokenType → Char → Bool
  | .groupId, c => c == '_' || c == '-'
  | .unknown, c => c == '_'
  | _, _ => false

/-- Whether a word of a type may stand within a run of delimiters: free text may be empty. -/
def TokenType.hasRoomIn : TokenType → List Char → Bool
  | .groupId, u => u.tail.dropLast.any TokenType.groupId.swallows
  | .unknown, u => 2 ≤ u.length
  | _, _ => false

/-- Whether words of a type stop at a run of delimiters, of which something is to be left. -/
def TokenType.stopsAt (type : TokenType) (u : List Char) : Bool :=
  u.length == 1 || !u.head?.any type.swallows

variable {t : Token} {b : Bool} {c d : Char} {cs u v w : List Char}

namespace Filename

theorem HasFirmEnds.of_isSolid (h : isSolid v = true ∧ v ≠ []) : HasFirmEnds v := by
  obtain ⟨h, hne⟩ := h
  have hfirm : ∀ c ∈ v, isDelimiter c = false := by
    intro c hc
    simpa using List.all_eq_true.mp h c hc
  exact ⟨⟨v.head hne, List.head?_eq_some_head hne, hfirm _ (List.head_mem hne)⟩,
    v.getLast hne, List.getLast?_eq_some_getLast hne, hfirm _ (List.getLast_mem hne)⟩

theorem Alike.of_isSolid (hv : isSolid v = true ∧ v ≠ []) (hw : isSolid w = true ∧ w ≠ []) :
    Alike v w :=
  ⟨.of_isSolid hv, .of_isSolid hw, Or.inl ⟨hv.1, hw.1⟩⟩

theorem isDelimiter_of_isDigit (h : isDigit c = true) : isDelimiter c = false := by
  rw [Bool.eq_false_iff]
  intro hd
  rw [isDigit_of_isDelimiter hd] at h
  cases h

theorem isSolid_of_digits (h : ∀ c ∈ v, isDigit c = true) : isSolid v = true := by
  rw [isSolid, List.all_eq_true]
  intro c hc
  rw [isDelimiter_of_isDigit (h c hc)]
  rfl

end Filename

namespace GroupPattern

theorem eq_of_mem_caseVariants_delimiter (hd : isDelimiter d = true) (h : c ∈ caseVariants d) :
    c = d := by
  have hall : delimiterChars.all (fun d => (caseVariants d).all (· = d)) = true := by decide +kernel
  have hvariants := List.all_eq_true.mp hall d (mem_delimiterChars hd)
  exact of_decide_eq_true (List.all_eq_true.mp hvariants c h)

/-- A set has the same delimiters where case does not count. -/
theorem contains_of_folded_delimiter {s : CharClass} (hd : isDelimiter c = true)
    (h : ((folding b).folded s).contains c = true) : s.contains c = true := by
  obtain h | ⟨d, hvariant, hs⟩ := contains_or_of_folded h
  · exact h
  · rw [← eq_of_mem_caseVariants_delimiter hd hvariant]
    exact hs

/-- The words of characters other than delimiters hold no delimiters. -/
theorem isSolid_of_mem_language_literals (hcs : isSolid cs = true)
    (hw : w ∈ (Expr.catOf (cs.map (folding b).literal)).language) : isSolid w = true := by
  rw [mem_language_literals] at hw
  induction hw with
  | nil => rfl
  | @cons c d cs w hcd hw ih =>
    obtain ⟨hc, hcs⟩ : (!isDelimiter c) = true ∧ isSolid cs = true := by
      simpa [isSolid] using hcs
    have hd : (!isDelimiter d) = true := by
      by_contra hd
      have hd : isDelimiter d = true := by simpa using hd
      have hsame := contains_of_folded_delimiter hd hcd
      rw [CharClass.contains_single, decide_eq_true_eq] at hsame
      rw [← hsame, hd] at hc
      cases hc
    rw [isSolid, List.all_cons, hd]
    exact ih hcs

theorem solid_of_mem_language_literals (hcs : isSolid cs = true ∧ cs ≠ [])
    (hw : w ∈ (Expr.catOf (cs.map (folding b).literal)).language) : isSolid w = true ∧ w ≠ [] := by
  refine ⟨isSolid_of_mem_language_literals hcs.1 hw, ?_⟩
  intro hnil
  rw [hnil, mem_language_literals, List.forall₂_nil_right_iff] at hw
  exact hcs.2 hw

theorem solid_of_mem_language_synonyms {role : Role}
    (hw : w ∈ (Expr.altOf (role.synonyms.map caselessExpr)).language) :
    isSolid w = true ∧ w ≠ [] := by
  have hwords : ∀ word ∈ role.synonyms, isSolid word.toList = true ∧ word.toList ≠ [] := by
    cases role
    all_goals decide +kernel
  have hne : role.synonyms.map caselessExpr ≠ [] := by
    cases role
    all_goals decide
  obtain ⟨_, hr, hw⟩ := (mem_language_altOf hne).mp hw
  obtain ⟨word, hword, rfl⟩ := List.mem_map.mp hr
  exact solid_of_mem_language_literals (hwords word hword) hw

theorem solid_of_areDigits {count : Nat} (h : AreDigits count w) (hpos : 0 < count) :
    isSolid w = true ∧ w ≠ [] := by
  have hlength := h.1
  exact ⟨isSolid_of_digits h.2, List.length_pos_iff.mp (by omega)⟩

/-- A date with dashes begins and ends with a digit. -/
theorem hasFirmEnds_of_isDashedDate (h : isDashedDate w = true) : HasFirmEnds w := by
  have hends (h : (w.map isDelimiter).head? = some false ∧ (w.map isDelimiter).getLast? = some false) :
      HasFirmEnds w := by
    rw [List.head?_map, List.getLast?_map, Option.map_eq_some_iff, Option.map_eq_some_iff] at h
    exact h
  apply hends
  obtain h | h := map_isDelimiter_of_isDashedDate h
  · rw [h]
    decide
  · rw [h]
    decide

theorem hasFirmEnds_value (h : t.Found) (hne : t.value.toList ≠ []) : HasFirmEnds t.value.toList := by
  obtain hsolid | hdashed := h.solid_or_dashed
  · exact .of_isSolid ⟨hsolid, hne⟩
  · exact hasFirmEnds_of_isDashedDate hdashed

theorem isSparse_of_isDashedDate (h : isDashedDate w = true) : IsSparse w := by
  rw [isSparse_iff]
  obtain h | h := map_isDelimiter_of_isDashedDate h
  · rw [h]
    decide
  · rw [h]
    decide

/-- A date with dashes holds two runs of delimiters. -/
theorem runStarts_of_isDashedDate (h : isDashedDate w = true) : runStarts true w = 2 := by
  obtain h | h := map_isDelimiter_of_isDashedDate h
  · rw [runStarts_congr h]
    decide
  · rw [runStarts_congr h]
    decide

theorem length_of_isDashedDate (h : isDashedDate w = true) : w.length = 10 := by
  rw [← List.length_map isDelimiter]
  obtain h | h := map_isDelimiter_of_isDashedDate h
  · rw [h]
    rfl
  · rw [h]
    rfl

/-- Whether two texts are both without delimiters, or both dates with dashes. -/
def AreOfOneKind (v w : List Char) : Prop :=
  ((isSolid v = true ∧ v ≠ []) ∧ isSolid w = true ∧ w ≠ []) ∨
    (isDashedDate v = true ∧ isDashedDate w = true)

theorem AreOfOneKind.alike (h : AreOfOneKind v w) : Alike v w := by
  obtain ⟨hv, hw⟩ | ⟨hv, hw⟩ := h
  · exact .of_isSolid hv hw
  · refine ⟨hasFirmEnds_of_isDashedDate hv, hasFirmEnds_of_isDashedDate hw, Or.inr ?_⟩
    rw [length_of_isDashedDate hv, length_of_isDashedDate hw]

theorem AreOfOneKind.countP_eq (h : AreOfOneKind v w) :
    v.countP isDelimiter = w.countP isDelimiter := by
  obtain ⟨⟨hv, -⟩, hw, -⟩ | ⟨hv, hw⟩ := h
  · rw [countP_isDelimiter_of_isSolid hv, countP_isDelimiter_of_isSolid hw]
  · rw [countP_isDelimiter_of_isDashedDate hv, countP_isDelimiter_of_isDashedDate hw]

theorem AreOfOneKind.runStarts_eq (h : AreOfOneKind v w) : runStarts true v = runStarts true w := by
  obtain ⟨⟨hv, -⟩, hw, -⟩ | ⟨hv, hw⟩ := h
  · rw [runStarts_solid hv, runStarts_solid hw]
  · rw [runStarts_of_isDashedDate hv, runStarts_of_isDashedDate hw]

theorem areOfOneKind_of_mem_language_dateExprs {value : String} (hdate : isDate value.toList = true)
    (hw : w ∈ (Expr.catOf (dateExprs (folding b) value)).language) : AreOfOneKind value.toList w := by
  by_cases hdashed : isDashedDate value.toList = true
  · exact Or.inr ⟨hdashed, isDashedDate_of_mem_language hdashed hw⟩
  · have hshapes : hasShape yearFirst value.toList = false ∧ hasShape yearLast value.toList = false := by
      simpa [isDashedDate] using hdashed
    have hcompact : hasShape compact value.toList = true := by
      simpa [isDate, hshapes] using hdate
    have hdigits : AreDigits 8 w := by
      unfold dateExprs at hw
      simp only [hshapes, hcompact, if_true, Bool.false_eq_true, if_false] at hw
      exact mem_language_digits.mp hw
    exact Or.inl ⟨solid_of_areDigits (hasShape_compact.mp hcompact) (by omega),
      solid_of_areDigits hdigits (by omega)⟩

/-- The words of a rigid token hold delimiters as its value does. -/
theorem areOfOneKind_of_mem_language (h : t.Found) (hrigid : t.type.isRigid = true)
    (hw : w ∈ (Expr.catOf (exprsOf (folding b) t)).language) : AreOfOneKind t.value.toList w := by
  have hd := h.describes
  have hsolid (htype : t.type ≠ .date) : isSolid t.value.toList = true :=
    h.solid_or_dashed.resolve_right fun hdashed => htype (h.date_of_dashed hdashed)
  unfold exprsOf at hw
  cases htype : t.type with
  | leading =>
    rw [htype] at hd hw
    have hne := (Bool.and_eq_true_iff.mp hd).1
    have hv : isSolid t.value.toList = true ∧ t.value.toList ≠ [] :=
      ⟨hsolid (by simp [htype]), by simpa using hne⟩
    exact Or.inl ⟨hv, solid_of_mem_language_literals hv hw⟩
  | trailing =>
    rw [htype] at hd
    cases hd
  | groupId =>
    rw [htype] at hrigid
    cases hrigid
  | cameraSide =>
    rw [htype] at hd hw
    obtain ⟨role, hrole⟩ := Option.isSome_iff_exists.mp hd
    rw [String.ofList_toList] at hrole
    rw [hrole] at hw
    exact Or.inl ⟨solid_of_mem_language_synonyms (mem_language_synonyms hrole),
      solid_of_mem_language_synonyms hw⟩
  | date =>
    rw [htype] at hd hw
    exact areOfOneKind_of_mem_language_dateExprs hd hw
  | index =>
    rw [htype] at hd hw
    have hne := (Bool.and_eq_true_iff.mp hd).1
    obtain ⟨⟨hleast, -⟩, hdigits⟩ := mem_language_rep.mp hw
    exact Or.inl ⟨⟨hsolid (by simp [htype]), by simpa using hne⟩,
      isSolid_of_digits hdigits, List.length_pos_iff.mp hleast⟩
  | extension =>
    rw [htype] at hd hw
    have hlength := (Bool.and_eq_true_iff.mp (Bool.and_eq_true_iff.mp hd).1).1
    have hv : isSolid t.value.toList = true ∧ t.value.toList ≠ [] :=
      ⟨hsolid (by simp [htype]), List.length_pos_iff.mp (of_decide_eq_true hlength)⟩
    exact Or.inl ⟨hv, solid_of_mem_language_literals hv hw⟩
  | unknown =>
    rw [htype] at hrigid
    cases hrigid

/-- The words of a rigid token are told from the delimiters around them as its value is. -/
theorem alike_of_mem_language (h : t.Found) (hrigid : t.type.isRigid = true)
    (hw : w ∈ (Expr.catOf (exprsOf (folding b) t)).language) : Alike t.value.toList w :=
  (areOfOneKind_of_mem_language h hrigid hw).alike

theorem isEven_language (h : t.Found) (hrigid : t.type.isRigid = true) :
    IsEven (Expr.catOf (exprsOf (folding b) t)).language := by
  intro v hv w hw
  rw [← (areOfOneKind_of_mem_language h hrigid hv).countP_eq,
    ← (areOfOneKind_of_mem_language h hrigid hw).countP_eq]

/-- The expression of a token that is not rigid is a repeated set, which may be that of groups or of
free text. -/
theorem exists_exprsOf_eq (hflexible : t.type.isRigid = false) :
    ∃ least set, least ≤ 1 ∧ exprsOf (folding b) t = [.rep least none true (.oneOf set)] := by
  unfold exprsOf
  cases htype : t.type with
  | groupId => exact ⟨1, _, Nat.le_refl 1, rfl⟩
  | unknown => exact ⟨0, _, Nat.zero_le 1, rfl⟩
  | leading | trailing | cameraSide | date | index | extension =>
    rw [htype] at hflexible
    cases hflexible

theorem longestFirst_exprsOf (hflexible : t.type.isRigid = false) :
    (Expr.catOf (exprsOf (folding b) t)).LongestFirst := by
  obtain ⟨least, set, hleast, hexprs⟩ := exists_exprsOf_eq (b := b) hflexible
  rw [hexprs]
  obtain rfl | rfl : least = 0 ∨ least = 1 := by omega
  · exact longestFirst_any set
  · exact longestFirst_some set

theorem isSuffixClosed_language (hflexible : t.type.isRigid = false) :
    IsSuffixClosed (Expr.catOf (exprsOf (folding b) t)).language := by
  obtain ⟨least, set, hleast, hexprs⟩ := exists_exprsOf_eq (b := b) hflexible
  rw [hexprs]
  intro x y hword hy
  obtain ⟨-, hall⟩ := mem_language_rep.mp hword
  have hpos := List.length_pos_iff.mpr hy
  exact mem_language_rep.mpr ⟨⟨by omega, by simp⟩, fun c hc => hall c (List.mem_append_right x hc)⟩

/-- The delimiters in words that are not rigid are those that their type allows. -/
theorem swallows_of_mem_language (hflexible : t.type.isRigid = false)
    (hw : w ∈ (Expr.catOf (exprsOf (folding b) t)).language) (hc : c ∈ w)
    (hd : isDelimiter c = true) : t.type.swallows c = true := by
  have hword (h : isWord c = true) : c = '_' := by
    have hall : delimiterChars.all (fun c => !isWord c || c == '_') = true := by decide +kernel
    simpa [h] using List.all_eq_true.mp hall c (mem_delimiterChars hd)
  unfold exprsOf at hw
  cases htype : t.type with
  | groupId =>
    rw [htype] at hw
    have hclass := contains_of_folded_delimiter hd ((mem_language_rep.mp hw).2 c hc)
    obtain hclass | hclass := Bool.or_eq_true_iff.mp hclass
    · rw [hword hclass]
      rfl
    · rw [CharClass.contains_single, decide_eq_true_eq] at hclass
      rw [hclass]
      rfl
  | unknown =>
    rw [htype] at hw
    rw [hword ((mem_language_rep.mp hw).2 c hc)]
    rfl
  | leading | trailing | cameraSide | date | index | extension =>
    rw [htype] at hflexible
    cases hflexible

/-- A token that is not rigid has a value without delimiters. -/
theorem solid_of_flexible (h : t.Found) (hflexible : t.type.isRigid = false) :
    isSolid t.value.toList = true := by
  refine h.solid_or_dashed.resolve_right fun hdashed => ?_
  rw [h.date_of_dashed hdashed] at hflexible
  cases hflexible

/-- No word of a token holds fewer delimiters than its value. -/
theorem countP_value_le (h : t.Found) (hw : w ∈ (Expr.catOf (exprsOf (folding b) t)).language) :
    t.value.toList.countP isDelimiter ≤ w.countP isDelimiter := by
  by_cases hrigid : t.type.isRigid = true
  · exact Nat.le_of_eq (areOfOneKind_of_mem_language h hrigid hw).countP_eq
  · rw [countP_isDelimiter_of_isSolid (solid_of_flexible h (by simpa using hrigid))]
    exact Nat.zero_le _

/-- A word of a token has the length of its value, or does not take a delimiter that its type does not
take. -/
theorem stops_of_mem_language (h : t.Found) (hw : w ∈ (Expr.catOf (exprsOf (folding b) t)).language)
    (hd : isDelimiter d = true) (hswallows : t.type.swallows d = false) :
    t.value.toList.length = w.length ∨ (isSolid t.value.toList = true ∧ d ∉ w) := by
  by_cases hrigid : t.type.isRigid = true
  · obtain ⟨⟨hv, -⟩, hw, -⟩ | ⟨hv, hw⟩ := areOfOneKind_of_mem_language h hrigid hw
    · refine Or.inr ⟨hv, fun hmem => ?_⟩
      have hfirm := List.all_eq_true.mp hw d hmem
      rw [hd] at hfirm
      cases hfirm
    · left
      rw [length_of_isDashedDate hv, length_of_isDashedDate hw]
  · have hflexible : t.type.isRigid = false := by simpa using hrigid
    refine Or.inr ⟨solid_of_flexible h hflexible, fun hmem => ?_⟩
    rw [swallows_of_mem_language hflexible hw hmem hd] at hswallows
    cases hswallows

/-- The place of a token: its words, its value, and the word of a cut. -/
def placeOf (b : Bool) (t : Token) (word : List Char) : Place where
  language := (Expr.catOf (exprsOf (folding b) t)).language
  value := t.value.toList
  word := word

theorem isRigid_placeOf (h : t.Found) (hrigid : t.type.isRigid = true) :
    (placeOf b t w).IsRigid := by
  intro w hw
  have hkind := areOfOneKind_of_mem_language h hrigid hw
  exact ⟨hkind.alike, Nat.le_of_eq hkind.runStarts_eq⟩

/-- The value of a token of a filename is meant by its place. -/
theorem isMeant_placeOf (h : t.Found) (hne : t.value.toList ≠ [])
    (hunknown : t.type = .unknown → ∀ c ∈ t.value.toList, isWord c = true) :
    (placeOf b t w).IsMeant where
  mem_language := value_mem_language h hunknown
  firm := hasFirmEnds_value h hne
  sparse := h.solid_or_dashed.elim .of_isSolid isSparse_of_isDashedDate
  rigid_or_solid := by
    obtain hsolid | hdashed := h.solid_or_dashed
    · exact Or.inr hsolid
    · exact Or.inl (isRigid_placeOf h (by rw [h.date_of_dashed hdashed]; rfl))

/-- A word of a token has room in a run of delimiters only if its type says so. -/
theorem hasRoomIn_of_hasRoom (h : t.Found) (hu : ∀ c ∈ u, isDelimiter c = true)
    (hroom : HasRoom (placeOf b t w).language u) : t.type.hasRoomIn u = true := by
  have htwo := hroom.two_le_length
  obtain ⟨x, m, y, hx, hy, hm, rfl⟩ := hroom
  have hall : ∀ c ∈ m, isDelimiter c = true := fun c hc => hu c (by simp [hc])
  by_cases hrigid : t.type.isRigid = true
  · -- A rigid word is not made of delimiters alone.
    obtain ⟨⟨c, hc, hfirm⟩, -⟩ := (alike_of_mem_language h hrigid hm).right
    rw [hall c (List.mem_of_mem_head? hc)] at hfirm
    cases hfirm
  · have hflexible : t.type.isRigid = false := by simpa using hrigid
    cases htype : t.type with
    | groupId =>
      obtain ⟨c, hc⟩ : ∃ c, c ∈ m := by
        have hm : m ∈ (Expr.catOf [.rep 1 none true (.oneOf ((folding b).folded groupIdClass))]).language := by
          simpa only [placeOf, exprsOf, htype] using hm
        exact List.exists_mem_of_length_pos (mem_language_rep.mp hm).1.1
      have hswallows := swallows_of_mem_language hflexible hm hc (hall c hc)
      rw [htype] at hswallows
      refine List.any_eq_true.mpr ⟨c, ?_, hswallows⟩
      rw [List.tail_append_of_ne_nil hx, List.dropLast_append_of_ne_nil (by simp [hy]),
        List.dropLast_append_of_ne_nil hy]
      simp [hc]
    | unknown => exact decide_eq_true htwo
    | leading | trailing | cameraSide | date | index | extension =>
      rw [htype] at hflexible
      cases hflexible

/-- A word that takes some of the delimiters after it, but not all, is its value if its type stops
there. -/
theorem word_eq_of_takesOf (h : t.Found) (hw : w ∈ (placeOf b t w).language)
    (hu : ∀ c ∈ u, isDelimiter c = true) (htakes : (placeOf b t w).TakesOf u)
    (hstops : t.type.stopsAt u = true) : w = t.value.toList := by
  obtain ⟨y, rest, hword, rfl, hnil⟩ := htakes
  have hword : w = t.value.toList ++ y := hword
  cases y with
  | nil => rw [hword, List.append_nil]
  | cons c y =>
    exfalso
    by_cases hrigid : t.type.isRigid = true
    · obtain ⟨-, c', hc', hfirm⟩ := (alike_of_mem_language h hrigid hw).right
      rw [hword, List.getLast?_append_of_ne_nil _ (List.cons_ne_nil c y)] at hc'
      rw [hu c' (List.mem_append_left rest (List.mem_of_mem_getLast? hc'))] at hfirm
      cases hfirm
    · have hswallows : t.type.swallows c = true :=
        swallows_of_mem_language (by simpa using hrigid) hw (by simp [hword]) (hu c (by simp))
      have hone : y ++ rest = [] := by
        simpa [TokenType.stopsAt, hswallows] using hstops
      exact List.cons_ne_nil c y (hnil (List.append_eq_nil_iff.mp hone).2)

end GroupPattern

end PhotoGrouping
