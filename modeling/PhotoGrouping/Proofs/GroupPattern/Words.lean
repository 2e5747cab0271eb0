import PhotoGrouping.Proofs.Filename.Tokens
import PhotoGrouping.Proofs.GroupPattern.Fragments
import PhotoGrouping.Proofs.Regex.Literals

namespace PhotoGrouping.GroupPattern

open Regex Text Filename

def AreDigits (count : Nat) (cs : List Char) : Prop :=
  cs.length = count ∧ ∀ c ∈ cs, isDigit c = true

variable {b : Bool} {c : Char} {cs w x shape : List Char} {count i j k : Nat} {s : CharClass}
variable {t : Token} {v : String}

/-- A set of characters without case has no other members where case does not count. -/
theorem contains_of_folded (hs : ∀ d, s.contains d = true → isUncased d = true)
    (h : ((folding b).folded s).contains c = true) : s.contains c = true := by
  obtain h | ⟨d, hd, hsd⟩ := contains_or_of_folded h
  · exact h
  · rw [eq_of_mem_caseVariants (hs d hsd) hd]
    exact hsd

theorem contains_delimiterClass : delimiterClass.contains c = isDelimiter c := by
  simp [delimiterClass, CharClass.contains, CharClass.contains_single, isDelimiter, Bool.or_assoc,
    beq_eq_decide]

theorem contains_folded_delimiterClass :
    ((folding b).folded delimiterClass).contains c = isDelimiter c := by
  rw [Bool.eq_iff_iff]
  constructor
  · intro h
    rw [← contains_delimiterClass]
    apply contains_of_folded _ h
    intro d hd
    rw [contains_delimiterClass] at hd
    exact isUncased_of_isDelimiter hd
  · intro h
    rw [← contains_delimiterClass] at h
    exact contains_folded h

theorem mem_language_digits : w ∈ (digits count).language ↔ AreDigits count w := by
  rw [digits, mem_language_rep]
  constructor
  · rintro ⟨⟨hleast, hmost⟩, hall⟩
    have hlen := hmost count rfl
    exact ⟨by omega, hall⟩
  · rintro ⟨hlen, hall⟩
    refine ⟨⟨Nat.le_of_eq hlen.symm, ?_⟩, hall⟩
    intro m hm
    obtain rfl := Option.some.inj hm
    omega

theorem mem_language_dash : w ∈ ((folding b).literal '-').language ↔ w = ['-'] := by
  have hone : ∀ c, ((folding b).folded (.single '-')).contains c = true ↔ c = '-' := by
    intro c
    constructor
    · intro h
      have hs : ∀ d, (CharClass.single '-').contains d = true → isUncased d = true := by
        intro d hd
        rw [CharClass.contains_single, decide_eq_true_eq] at hd
        subst hd
        exact isUncased_of_isDelimiter (by decide)
      have h := contains_of_folded hs h
      rwa [CharClass.contains_single, decide_eq_true_eq] at h
    · rintro rfl
      exact contains_folded (by decide)
  constructor
  · rintro ⟨c, hc, rfl⟩
    rw [(hone c).mp hc]
  · rintro rfl
    exact ⟨'-', (hone '-').mpr rfl, rfl⟩

/-- The expressions of three numbers of digits with dashes in between. -/
def dashedExprs (f : Flags) (i j k : Nat) : List Expr :=
  [digits i, f.literal '-', digits j, f.literal '-', digits k]

theorem mem_language_dashed :
    w ∈ (Expr.catOf (dashedExprs (folding b) i j k)).language ↔
      ∃ x y z, AreDigits i x ∧ AreDigits j y ∧ AreDigits k z ∧
        w = x ++ '-' :: (y ++ '-' :: z) := by
  have hmul : (Expr.catOf (dashedExprs (folding b) i j k)).language =
      (digits i).language * (((folding b).literal '-').language * ((digits j).language *
        (((folding b).literal '-').language * (digits k).language))) := rfl
  rw [hmul]
  simp only [Language.mem_mul, mem_language_digits, mem_language_dash]
  constructor
  · rintro ⟨x, hx, _, ⟨_, rfl, _, ⟨y, hy, _, ⟨_, rfl, z, hz, rfl⟩, rfl⟩, rfl⟩, rfl⟩
    exact ⟨x, y, z, hx, hy, hz, rfl⟩
  · rintro ⟨x, y, z, hx, hy, hz, rfl⟩
    exact ⟨x, hx, _, ⟨_, rfl, _, ⟨y, hy, _, ⟨_, rfl, z, hz, rfl⟩, rfl⟩, rfl⟩, rfl⟩

theorem hasShape_digits (count : Nat) (shape cs : List Char) :
    hasShape (List.replicate count '#' ++ shape) cs = true ↔
      ∃ x rest, AreDigits count x ∧ cs = x ++ rest ∧ hasShape shape rest = true := by
  induction count generalizing cs with
  | zero =>
    constructor
    · intro h
      exact ⟨[], cs, ⟨rfl, by simp⟩, rfl, h⟩
    · rintro ⟨x, rest, ⟨hlen, -⟩, rfl, h⟩
      obtain rfl := List.length_eq_zero_iff.mp hlen
      exact h
  | succ n ih =>
    rw [List.replicate_succ, List.cons_append]
    cases cs with
    | nil =>
      constructor
      · intro h
        cases h
      · rintro ⟨x, rest, ⟨hlen, -⟩, he, -⟩
        obtain ⟨rfl, -⟩ := List.append_eq_nil_iff.mp he.symm
        cases hlen
    | cons c cs =>
      rw [hasShape, Bool.and_eq_true, ih]
      constructor
      · rintro ⟨hc, x, rest, ⟨hlen, hall⟩, rfl, h⟩
        refine ⟨c :: x, rest, ⟨by simp [hlen], ?_⟩, rfl, h⟩
        intro d hd
        rcases List.mem_cons.mp hd with rfl | hd
        · exact hc
        · exact hall d hd
      · rintro ⟨x, rest, ⟨hlen, hall⟩, he, h⟩
        cases x with
        | nil => cases hlen
        | cons d x =>
          obtain ⟨rfl, rfl⟩ := List.cons.inj he
          have hx : AreDigits n x :=
            ⟨Nat.succ.inj hlen, fun e he => hall e (List.mem_cons_of_mem c he)⟩
          exact ⟨hall c (by simp), x, rest, hx, rfl, h⟩

theorem hasShape_dash (shape cs : List Char) :
    hasShape ('-' :: shape) cs = true ↔ ∃ rest, cs = '-' :: rest ∧ hasShape shape rest = true := by
  cases cs with
  | nil => simp [hasShape]
  | cons c cs =>
    have he : hasShape ('-' :: shape) (c :: cs) = ('-' == c && hasShape shape cs) := rfl
    rw [he, Bool.and_eq_true, beq_iff_eq]
    constructor
    · rintro ⟨rfl, h⟩
      exact ⟨cs, rfl, h⟩
    · rintro ⟨rest, hcs, h⟩
      obtain ⟨rfl, rfl⟩ := List.cons.inj hcs
      exact ⟨rfl, h⟩

theorem hasShape_nil (cs : List Char) : hasShape [] cs = true ↔ cs = [] := by
  cases cs with
  | nil => simp [hasShape]
  | cons c cs => simp [hasShape]

/-- A date with dashes has the shape of its numbers of digits. -/
theorem hasShape_dashed (i j k : Nat) (cs : List Char) :
    hasShape (List.replicate i '#' ++ '-' :: (List.replicate j '#' ++
        '-' :: (List.replicate k '#' ++ []))) cs = true ↔
      ∃ x y z, AreDigits i x ∧ AreDigits j y ∧ AreDigits k z ∧
        cs = x ++ '-' :: (y ++ '-' :: z) := by
  simp only [hasShape_digits, hasShape_dash, hasShape_nil]
  constructor
  · rintro ⟨x, _, hx, rfl, _, rfl, y, _, hy, rfl, _, rfl, z, _, hz, rfl, rfl⟩
    exact ⟨x, y, z, hx, hy, hz, by rw [List.append_nil]⟩
  · rintro ⟨x, y, z, hx, hy, hz, rfl⟩
    exact ⟨x, _, hx, rfl, _, rfl, y, _, hy, rfl, _, rfl, z, [], hz, by rw [List.append_nil], rfl⟩

theorem mem_language_yearFirst :
    w ∈ (Expr.catOf (dashedExprs (folding b) 4 2 2)).language ↔ hasShape yearFirst w = true := by
  rw [mem_language_dashed]
  exact (hasShape_dashed 4 2 2 w).symm

theorem mem_language_yearLast :
    w ∈ (Expr.catOf (dashedExprs (folding b) 2 2 4)).language ↔ hasShape yearLast w = true := by
  rw [mem_language_dashed]
  exact (hasShape_dashed 2 2 4 w).symm

theorem hasShape_compact : hasShape compact w = true ↔ AreDigits 8 w := by
  have hdigits := hasShape_digits 8 [] w
  simp only [hasShape_nil] at hdigits
  refine hdigits.trans ⟨?_, fun h => ⟨w, [], h, (List.append_nil w).symm, rfl⟩⟩
  rintro ⟨x, rest, hx, rfl, rfl⟩
  rwa [List.append_nil]

/-- A date is a word of its expressions. -/
theorem mem_language_dateExprs (h : isDate v.toList = true) :
    v.toList ∈ (Expr.catOf (dateExprs (folding b) v)).language := by
  unfold dateExprs
  dsimp only
  split
  · rename_i h1
    exact mem_language_yearFirst.mpr h1
  · split
    · rename_i h2
      exact mem_language_yearLast.mpr h2
    · rename_i h1 h2
      have h3 : hasShape compact v.toList = true := by
        simpa [isDate, h1, h2] using h
      rw [if_pos h3]
      exact mem_language_digits.mpr (hasShape_compact.mp h3)

/-- The words of a date with dashes have its shape. -/
theorem isDashedDate_of_mem_language (h : isDashedDate v.toList = true)
    (hw : w ∈ (Expr.catOf (dateExprs (folding b) v)).language) : isDashedDate w = true := by
  rw [isDashedDate, Bool.or_eq_true] at h ⊢
  unfold dateExprs at hw
  dsimp only at hw
  split at hw
  · exact Or.inl (mem_language_yearFirst.mp hw)
  · rename_i h1
    rw [if_pos (h.resolve_left h1)] at hw
    exact Or.inr (mem_language_yearLast.mp hw)

/-- A text is a word of its lowercase form if that consists of ASCII letters. -/
theorem mem_language_caselessExpr {word : String} (hword : ∀ d ∈ word.toList, d.isLower = true)
    (h : lowercase v = word) : v.toList ∈ (caselessExpr word).language := by
  have hl : lowerFrom [] v.toList = word.toList := by
    rw [← h, lowercase, String.toList_ofList]
  rw [caselessExpr, mem_language_literals]
  refine (caseVariants_of_lowerFrom hword hl).imp ?_
  intro d c hd
  change ((CharClass.single d).contains c || (caseVariants c).any (CharClass.single d).contains) = true
  rw [Bool.or_eq_true, List.any_eq_true]
  refine Or.inr ⟨d, hd, ?_⟩
  rw [CharClass.contains_single, decide_eq_true_eq]

theorem isPlain_exprsOf (t : Token) : (Expr.catOf (exprsOf (folding b) t)).isPlain = true := by
  unfold exprsOf
  cases t.type with
  | leading => exact isPlain_literals t.value.toList
  | trailing => exact isPlain_literals t.value.toList
  | groupId => rfl
  | cameraSide =>
    cases Role.ofSynonym? t.value with
    | none => exact isPlain_literals t.value.toList
    | some role =>
      change (Expr.altOf (role.synonyms.map caselessExpr)).isPlain = true
      rw [isPlain_altOf, List.all_map, List.all_eq_true]
      intro word _
      exact isPlain_literals word.toList
  | date =>
    unfold dateExprs
    dsimp only
    split
    · rfl
    · split
      · rfl
      · split
        · rfl
        · rfl
  | index => rfl
  | extension => exact isPlain_literals t.value.toList
  | unknown => rfl

/-- The words of the synonyms of a role are their variants in case. -/
theorem mem_language_synonyms {role : Role} (h : Role.ofSynonym? v = some role) :
    v.toList ∈ (Expr.altOf (role.synonyms.map caselessExpr)).language := by
  have hlower : role.synonyms.all (·.toList.all Char.isLower) = true := by
    cases role
    all_goals decide
  have hmem : lowercase v ∈ role.synonyms := by
    have hfind : Role.all.find? (·.synonyms.contains (lowercase v)) = some role := h
    have hcontains := List.find?_some hfind
    exact List.contains_iff_mem.mp hcontains
  generalize hword : lowercase v = word at hmem
  have hmem' := List.mem_map_of_mem (f := caselessExpr) hmem
  rw [mem_language_altOf (List.ne_nil_of_mem hmem')]
  have hletters := List.all_eq_true.mp (List.all_eq_true.mp hlower word hmem)
  exact ⟨caselessExpr word, hmem', mem_language_caselessExpr hletters hword⟩

/-- A token of a filename is a word of its own expressions if it is of a known type or consists of
word characters. -/
theorem value_mem_language (h : t.Found)
    (hunknown : t.type = .unknown → ∀ c ∈ t.value.toList, isWord c = true) :
    t.value.toList ∈ (Expr.catOf (exprsOf (folding b) t)).language := by
  have hd := h.describes
  unfold exprsOf
  cases htype : t.type with
  | leading => exact mem_language_literals_self b t.value.toList
  | trailing => exact mem_language_literals_self b t.value.toList
  | groupId =>
    rw [htype] at hd
    have hword := fun c hc => isWord_of_isMixed (c := c) hd hc
    have hne : t.value.toList ≠ [] := by
      intro hnil
      rw [hnil] at hd
      cases hd
    refine mem_language_rep.mpr ⟨⟨List.length_pos_iff.mpr hne, by simp⟩, ?_⟩
    intro c hc
    apply contains_folded
    simp [groupIdClass, CharClass.contains, hword c hc]
  | cameraSide =>
    rw [htype] at hd
    obtain ⟨role, hrole⟩ := Option.isSome_iff_exists.mp hd
    rw [String.ofList_toList] at hrole
    rw [hrole]
    exact mem_language_synonyms hrole
  | date =>
    rw [htype] at hd
    exact mem_language_dateExprs hd
  | index =>
    rw [htype] at hd
    obtain ⟨hne, hall⟩ := Bool.and_eq_true_iff.mp hd
    refine mem_language_rep.mpr ⟨⟨List.length_pos_iff.mpr (by simpa using hne), by simp⟩, ?_⟩
    exact List.all_eq_true.mp hall
  | extension => exact mem_language_literals_self true t.value.toList
  | unknown => exact mem_language_rep.mpr ⟨⟨Nat.zero_le _, by simp⟩, hunknown htype⟩

end PhotoGrouping.GroupPattern
