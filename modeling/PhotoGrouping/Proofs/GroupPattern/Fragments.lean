import PhotoGrouping.GroupPattern
import PhotoGrouping.Proofs.Regex.Items

namespace PhotoGrouping.GroupPattern

open Regex Text

variable {b : Bool} {n : Nat}

/-- What separates the tokens of a filename. -/
def delimiterClass : CharClass :=
  .union (.single '_') (.union (.single '-') (.union (.single '.') .blank))

def groupIdClass : CharClass :=
  .union .word (.single '-')

/-- What may separate the parts of a date of unknown shape. -/
def dateSeparatorClass : CharClass :=
  .union (.single '-') (.union (.single '_') (.single '.'))

/-- A bracketed class that is read to its end. -/
theorem readsItem_of_readClass (body : List Char) {s : CharClass} {d : Nat}
    (h : ∀ rest, readClass (folding b) (body ++ rest) = .ok (⟨s, d⟩, rest)) :
    ReadsItem b n ('[' :: body) (.oneOf s) n d := by
  refine readsItem_of_readItem (by decide) ⟨.oneOf s, d⟩ rfl rfl (Nat.le_refl _) ?_
  intro st rest hf
  simp only [readItem, hf, h]

private theorem openBracket_plain {cs : List Char} (h1 : cs.head? ≠ some '^')
    (h2 : cs.head? ≠ some '-') (h3 : cs.head? ≠ some ']') :
    openBracket (folding b) cs = (⟨false, none, []⟩, cs) := by
  have hs : (folding b).skip cs = cs := Flags.skip_eq_self rfl cs
  cases cs with
  | nil => simp [openBracket, readDashes, hs]
  | cons c cs =>
    simp only [List.head?_cons, ne_eq, Option.some.injEq] at h1 h2 h3
    simp [openBracket, readDashes, hs, h1, h2, h3]

theorem readsItem_delimiterClass :
    ReadsItem b n ("[_\\-.\\s]").toList (.oneOf ((folding b).folded delimiterClass)) n 2 := by
  refine readsItem_of_readClass ("_\\-.\\s]").toList ?_
  intro rest
  change readClass (folding b) ('_' :: '\\' :: '-' :: '.' :: '\\' :: 's' :: ']' :: rest) = _
  have hv : (folding b).verbose = false := rfl
  rw [readClass, openBracket_plain (by simp) (by simp) (by simp),
    readClassBody_member hv (.single '_') ('\\' :: '-' :: '.' :: '\\' :: 's' :: ']' :: rest)
      (by decide) (by decide) (by simp) rfl,
    readClassBody_member hv (.single '-') ('.' :: '\\' :: 's' :: ']' :: rest)
      (by decide) (by decide) (by simp) rfl,
    readClassBody_member hv (.single '.') ('\\' :: 's' :: ']' :: rest)
      (by decide) (by decide) (by simp) rfl,
    readClassBody_member hv .blank (']' :: rest)
      (by decide) (by decide) (by simp) rfl]
  exact readClassBody_close hv

theorem readsItem_groupIdClass :
    ReadsItem b n ("[\\w-]").toList (.oneOf ((folding b).folded groupIdClass)) n 2 := by
  refine readsItem_of_readClass ("\\w-]").toList ?_
  intro rest
  change readClass (folding b) ('\\' :: 'w' :: '-' :: ']' :: rest) = _
  have hv : (folding b).verbose = false := rfl
  rw [readClass, openBracket_plain (by simp) (by simp) (by simp),
    readClassBody_member hv .word ('-' :: ']' :: rest)
      (by decide) (by decide) (by simp) rfl,
    readClassBody_member hv (.single '-') (']' :: rest)
      (by decide) (by decide) (by simp) rfl]
  exact readClassBody_close hv

theorem readsItem_dateSeparatorClass :
    ReadsItem b n ("[-_.]").toList (.oneOf ((folding b).folded dateSeparatorClass)) n 2 := by
  refine readsItem_of_readClass ("-_.]").toList ?_
  intro rest
  change readClass (folding b) ('-' :: '_' :: '.' :: ']' :: rest) = _
  have hv : (folding b).verbose = false := rfl
  have ho : openBracket (folding b) ('-' :: '_' :: '.' :: ']' :: rest) =
      (⟨false, none, [⟨.single '-', 0⟩]⟩, '_' :: '.' :: ']' :: rest) := by
    have hs : ∀ cs, (folding b).skip cs = cs := Flags.skip_eq_self hv
    simp [openBracket, readDashes, hs, ClassLevel.add]
  rw [readClass, ho,
    readClassBody_member hv (.single '_') ('.' :: ']' :: rest)
      (by decide) (by decide) (by simp) rfl,
    readClassBody_member hv (.single '.') (']' :: rest)
      (by decide) (by decide) (by simp) rfl]
  exact readClassBody_close hv

def digits (count : Nat) : Expr :=
  .rep count (some count) true (.oneOf .digit)

/-- The expressions of a date: its own shape if it has a known one, else any order of its parts. -/
def dateExprs (f : Flags) (value : String) : List Expr :=
  let dash := f.literal '-'
  let separator := Expr.rep 0 (some 1) true (.oneOf (f.folded dateSeparatorClass))
  let yearOrDay := Expr.rep 2 (some 4) true (.oneOf .digit)
  let cs := value.toList
  if Filename.hasShape Filename.yearFirst cs then [digits 4, dash, digits 2, dash, digits 2]
  else if Filename.hasShape Filename.yearLast cs then [digits 2, dash, digits 2, dash, digits 4]
  else if Filename.hasShape Filename.compact cs then [digits 8]
  else [yearOrDay, separator, digits 2, separator, yearOrDay]

/-- The expression of a text in which case does not count. -/
def caselessExpr (s : String) : Expr :=
  Expr.catOf (s.toList.map (folding true).literal)

/-- The expressions of a token, one after the other: its text where that is fixed, else the form of
its type. -/
def exprsOf (f : Flags) (t : Token) : List Expr :=
  match t.type with
  | .leading | .trailing => t.value.toList.map f.literal
  | .groupId => [.rep 1 none true (.oneOf (f.folded groupIdClass))]
  | .cameraSide =>
    match Role.ofSynonym? t.value with
    | some role => [Expr.altOf (role.synonyms.map caselessExpr)]
    | none => [caselessExpr t.value]
  | .date => dateExprs f t.value
  | .index => [.rep 1 none true (.oneOf .digit)]
  | .extension => [caselessExpr t.value]
  | .unknown => [.rep 0 none true (.oneOf .word)]

theorem readsItem_dash : ReadsItem b n ['-'] ((folding b).literal '-') n 0 := by
  refine readsItem_of_readItem (by decide) ⟨(folding b).literal '-', 0⟩ rfl rfl
    (Nat.le_refl _) ?_
  intro st rest hf
  simp [readItem, hf, ParseState.pushLeaf]

theorem reads_digits {bounds : List Char} {least most : Nat}
    (hb : ∀ rest, readBounds (folding b) (bounds ++ rest) = .ok ((least, some most), rest)) :
    Reads b n ('\\' :: 'd' :: '{' :: bounds) [.rep least (some most) true (.oneOf .digit)] n 1 :=
  readsItem_digit.counted hb

theorem reads_date (value : String) :
    Reads b n (date value).toList (dateExprs (folding b) value) n 3 := by
  have h8 : Reads b n ['\\', 'd', '{', '8', '}'] [digits 8] n 1 := reads_digits fun _ => rfl
  have h4 : Reads b n ['\\', 'd', '{', '4', '}'] [digits 4] n 1 := reads_digits fun _ => rfl
  have h2 : Reads b n ['\\', 'd', '{', '2', '}'] [digits 2] n 1 := reads_digits fun _ => rfl
  have hdash : Reads b n ['-'] [(folding b).literal '-'] n 1 :=
    readsItem_dash.reads.mono (by decide)
  have hany : Reads b n ['\\', 'd', '{', '2', ',', '4', '}']
      [.rep 2 (some 4) true (.oneOf .digit)] n 1 := reads_digits fun _ => rfl
  have hsep : Reads b n ("[-_.]?").toList
      [.rep 0 (some 1) true (.oneOf ((folding b).folded dateSeparatorClass))] n 3 :=
    readsItem_dateSeparatorClass.optional
  unfold date dateExprs
  by_cases h1 : Filename.hasShape Filename.yearFirst value.toList
  · simp only [h1, if_true]
    exact (h4.append (hdash.append (h2.append (hdash.append h2)))).mono (by decide)
  · by_cases h2' : Filename.hasShape Filename.yearLast value.toList
    · simp only [h1, h2', if_true]
      exact (h2.append (hdash.append (h2.append (hdash.append h4)))).mono (by decide)
    · by_cases h3 : Filename.hasShape Filename.compact value.toList
      · simp only [h1, h2', h3, if_true]
        exact h8.mono (by decide)
      · simp only [h1, h2', h3]
        have hany' := hany.mono (show 1 ≤ 3 by decide)
        have h2'' := h2.mono (show 1 ≤ 3 by decide)
        exact hany'.append (hsep.append (h2''.append (hsep.append hany')))

theorem toList_alternatives (patterns : List String) :
    (alternatives patterns).toList = ['|'].intercalate (patterns.map String.toList) := by
  rw [alternatives, String.toList_intercalate]
  rfl

/-- Texts as alternatives in a group in which case does not count. -/
theorem readsItem_caseless_escape (words : List String) (hne : words ≠ []) :
    ReadsItem b n (caseless (alternatives (words.map escape))).toList
      (Expr.altOf (words.map caselessExpr)) n 3 := by
  have h : ReadsEach true n ((words.map escape).map String.toList)
      (words.map fun w => w.toList.map (folding true).literal) 0 := by
    unfold ReadsEach
    rw [List.map_map, List.forall₂_map_left_iff, List.forall₂_map_right_iff, List.forall₂_same]
    intro w _
    rw [Function.comp, escape, String.toList_ofList]
    exact reads_escapeChars true n w.toList
  have he : words.map caselessExpr =
      (words.map fun w => w.toList.map (folding true).literal).map Expr.catOf := by
    rw [List.map_map]
    rfl
  rw [caseless, String.toList_append, String.toList_append, toList_alternatives, he]
  exact readsItem_caselessGroup (b := b) h (by simpa using hne)

/-- The pattern of a token stands for the expressions of the token. -/
theorem reads_ofToken (t : Token) :
    Reads b n (ofToken t).toList (exprsOf (folding b) t) n 3 := by
  have hfixed : Reads b n (escape t.value).toList (t.value.toList.map (folding b).literal) n 3 := by
    rw [escape, String.toList_ofList]
    exact (reads_escapeChars b n t.value.toList).mono (by decide)
  have hcaseless : Reads b n (caseless (escape t.value)).toList [caselessExpr t.value] n 3 := by
    have h := readsItem_caseless_escape (b := b) (n := n) [t.value] (by simp)
    exact h.reads
  have hgroup : Reads b n groupId.toList
      [.rep 1 none true (.oneOf ((folding b).folded groupIdClass))] n 3 :=
    readsItem_groupIdClass.plus
  have hindex : Reads b n index.toList [.rep 1 none true (.oneOf .digit)] n 3 :=
    readsItem_digit.plus.mono (by decide)
  have hfree : Reads b n freeText.toList [.rep 0 none true (.oneOf .word)] n 3 :=
    readsItem_word.star.mono (by decide)
  unfold ofToken exprsOf
  cases t.type with
  | leading => exact hfixed
  | trailing => exact hfixed
  | groupId => exact hgroup
  | cameraSide =>
    cases Role.ofSynonym? t.value with
    | none => exact hcaseless
    | some role =>
      have hs : role.synonyms.map escape = role.synonyms := by cases role <;> decide
      have h := readsItem_caseless_escape (b := b) (n := n) role.synonyms
        (by cases role <;> decide)
      rw [hs] at h
      exact h.reads
  | date => exact reads_date t.value
  | index => exact hindex
  | extension => exact hcaseless
  | unknown => exact hfree

end PhotoGrouping.GroupPattern
