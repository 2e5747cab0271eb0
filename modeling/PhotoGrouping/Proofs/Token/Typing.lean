import PhotoGrouping.Proofs.Filename.Coverage
import PhotoGrouping.Proofs.Text.Blank
import PhotoGrouping.Proofs.Token.Classifiers

namespace PhotoGrouping

open Text Filename

namespace CustomToken

/-- Whether a text is an example for a value: it is not blank, and no white space at the ends and no
case set it apart. -/
def IsExampleFor (value text : String) : Prop :=
  isBlankText text = false ∧ lowercase (trim text) = lowercase (trim value)

/-- Whether a value is among the examples of a custom token. -/
def Covers (t : CustomToken) (value : String) : Prop :=
  ∃ text ∈ t.examples, IsExampleFor value text

instance (value : String) : DecidablePred (IsExampleFor value) := fun text =>
  inferInstanceAs (Decidable (isBlankText text = false ∧ _ = _))

instance (t : CustomToken) : DecidablePred t.Covers := fun value =>
  inferInstanceAs (Decidable (∃ text ∈ t.examples, IsExampleFor value text))

theorem key_eq_empty_iff (text : String) : key text = "" ↔ isBlankText text = true := by
  have hlower (cs : List Char) : lowerFrom [] cs = [] ↔ cs = [] := by
    cases cs with
    | nil => simp [lowerFrom]
    | cons c cs =>
      refine iff_of_false (fun h => ?_) (List.cons_ne_nil c cs)
      have hhead := (List.append_eq_nil_iff.mp h).1
      split at hhead
      · cases hhead
      · exact lowerChar_ne_nil c hhead
  rw [key, lowercase, String.ofList_eq_empty_iff, hlower, trim, String.toList_ofList,
    trimmed_eq_nil_iff, isBlankText]

end CustomToken

namespace TokenRegistry

open CustomToken

variable {type : TokenType} {known : List (String × TokenType)} {r : TokenRegistry}
variable {tokens : List CustomToken}

theorem lookup_addExample (text value : String) :
    (addExample type known text).lookup (key value) =
      (known.lookup (key value)).or (if IsExampleFor value text then some type else none) := by
  have hfor : IsExampleFor value text ↔ key text ≠ "" ∧ key text = key value := by
    rw [IsExampleFor, ne_eq, key_eq_empty_iff, Bool.not_eq_true]
    rfl
  simp only [hfor]
  unfold addExample
  by_cases hkey : key text = key value
  · rw [hkey]
    by_cases hblank : key value = ""
    · simp [hblank]
    · cases hknown : known.lookup (key value) with
      | none => simp [hblank, hknown, List.lookup_append, List.lookup_cons_self]
      | some other => simp [hknown]
  · have hne : (key value == key text) = false := beq_eq_false_iff_ne.mpr fun h => hkey h.symm
    simp only [hkey, and_false, if_false, Option.or_none]
    split
    · rfl
    · simp [List.lookup_append, List.lookup_cons, hne]

theorem lookup_addExamples (texts : List String) (value : String) :
    (texts.foldl (addExample type) known).lookup (key value) =
      (known.lookup (key value)).or
        (if ∃ text ∈ texts, IsExampleFor value text then some type else none) := by
  induction texts generalizing known with
  | nil => simp
  | cons text texts ih =>
    rw [List.foldl_cons, ih, lookup_addExample, Option.or_assoc]
    congr 1
    by_cases htext : IsExampleFor value text
    · simp [htext]
    · simp [htext]

theorem lookup_register (t : CustomToken) (value : String) :
    (r.register t).lookup value =
      (r.lookup value).or (if t.Covers value then some t.type else none) :=
  lookup_addExamples t.examples value

theorem lookup_registerAll (value : String) :
    (tokens.foldl register r).lookup value =
      (r.lookup value).or ((tokens.find? (·.Covers value)).map (·.type)) := by
  induction tokens generalizing r with
  | nil => simp
  | cons t tokens ih =>
    rw [List.foldl_cons, ih, lookup_register, Option.or_assoc]
    congr 1
    by_cases ht : t.Covers value
    · simp [ht]
    · simp [ht]

end TokenRegistry

/-- Among registered tokens the earliest one that covers a value gives it its type. -/
theorem CustomToken.typeOf?_eq_find? (tokens : List CustomToken) (value : String) :
    CustomToken.typeOf? tokens value = (tokens.find? (·.Covers value)).map (·.type) := by
  rw [typeOf?, TokenRegistry.ofTokens, TokenRegistry.lookup_registerAll]
  simp [TokenRegistry.lookup]

/-- Whether a value has the shape of a date, in which `#` stands for an ASCII digit. -/
def IsDateLike (value : String) : Prop :=
  ∃ shape ∈ ["####-##-##", "##-##-####", "########"],
    List.Forall₂ (fun s c => if s = '#' then c.isDigit = true else c = s) shape.toList value.toList

/-- Whether a value names the side of a vehicle, without regard to case. -/
def IsSide (value : String) : Prop :=
  ∃ role : Role, lowercase value ∈ role.synonyms

/-- Whether a value is made of ASCII digits. -/
def IsNumber (value : String) : Prop :=
  ∀ c ∈ value.toList, c.isDigit = true

/-- Whether a value is made of ASCII letters. -/
def IsLetters (value : String) : Prop :=
  ∀ c ∈ value.toList, c.isAlpha = true

/-- Whether a value is made of ASCII letters and digits, some of each. -/
structure IsCode (value : String) : Prop where
  alphanumeric : ∀ c ∈ value.toList, c.isAlphanum = true
  letter : ∃ c ∈ value.toList, c.isAlpha = true
  digit : ∃ c ∈ value.toList, c.isDigit = true

namespace Typing

/-- A row of a decision table: when it applies, and what it says of a token. -/
structure Row where
  applies : Prop
  type : TokenType
  confidence : Float

/-- What a row says of a token. -/
structure Row.Gives (r : Row) (t : Token) : Prop where
  type_eq : t.type = r.type
  confidence_eq : t.confidence.value = r.confidence

/-- Whether a token is what the first row of a table that applies says of it. -/
inductive Follows (t : Token) : List Row → Prop
  | first {r : Row} {rest : List Row} (h : r.applies) (hrow : r.Gives t) : Follows t (r :: rest)
  | later {r : Row} {rest : List Row} (h : ¬ r.applies) (hrest : Follows t rest) :
      Follows t (r :: rest)

/-- The rows for values that no custom token covers, behind some tokens of the filename. -/
def plainTable (earlier : List Token) (value : String) : List Row :=
  [⟨IsDateLike value, .date, 0.9⟩,
    ⟨IsSide value, .cameraSide, 0.85⟩,
    ⟨IsNumber value, .index, 0.6⟩,
    ⟨IsCode value, .groupId, 0.7⟩,
    ⟨IsLetters value ∧ ∀ t ∈ earlier, t.type ≠ .leading, .leading, 0.8⟩,
    ⟨True, .unknown, 0.3⟩]

/-- The decision table for a value that stands behind some tokens of the filename. -/
def table (custom : List CustomToken) (earlier : List Token) (value : String) : List Row :=
  custom.map (fun t => ⟨t.Covers value, t.type, 1.0⟩) ++ plainTable earlier value

/-- Whether tokens are those of a text without extension, each typed by the decision table. -/
structure IsBody (custom : List CustomToken) (cs : List Char) (tokens : List Token) : Prop where
  values : tokens.map (·.value.toList) = segments cs
  typed : ∀ earlier t later, tokens = earlier ++ t :: later →
    Follows t (table custom earlier t.value)

/-- Whether a value has at most five characters, all of them ASCII letters and digits. -/
structure IsShort (value : String) : Prop where
  length_le : value.toList.length ≤ 5
  alphanumeric : ∀ c ∈ value.toList, c.isAlphanum = true

/-- Whether a test searches for a pattern that tells of a text whether a condition holds. -/
def Decides (value : String) (c : Classifier) (condition : Prop) : Prop :=
  ∃ regex, Regex.parse c.pattern false = .ok regex ∧ (regex.isMatch value = true ↔ condition)

/-- Whether a filename is a stem, a dot and an extension of at most five ASCII letters and digits. -/
structure EndsIn (f : String) (stem ext : List Char) : Prop where
  text : f.toList = stem ++ '.' :: ext
  stem_ne_nil : stem ≠ []
  ext_ne_nil : ext ≠ []
  length_le : ext.length ≤ 5
  alphanumeric : ∀ c ∈ ext, c.isAlphanum = true

end Typing

open Typing

section Conditions

variable {value : String} {cs : List Char}

theorem hasShape_ascii {shape : List Char} (h : ∀ c ∈ cs, c.toNat < 128) :
    hasShape shape cs = true ↔
      List.Forall₂ (fun s c => if s = '#' then c.isDigit = true else c = s) shape cs := by
  fun_induction hasShape shape cs with
  | case1 => simp
  | case2 shape c cs ih =>
    obtain ⟨hc, hcs⟩ := List.forall_mem_cons.mp h
    rw [Bool.and_eq_true, ih hcs, isDigit_ascii hc, List.forall₂_cons, if_pos rfl]
  | case3 s shape c cs hs ih =>
    obtain ⟨hc, hcs⟩ := List.forall_mem_cons.mp h
    rw [Bool.and_eq_true, ih hcs, beq_iff_eq, List.forall₂_cons, if_neg hs, eq_comm]
  | case4 shape cs hnil hdigit hother =>
    refine iff_of_false Bool.false_ne_true fun hfits => ?_
    cases hfits with
    | nil => exact hnil rfl rfl
    | cons => exact hother _ _ _ _ rfl rfl

theorem isDate_iff_isDateLike (h : IsAscii value) :
    isDate value.toList = true ↔ IsDateLike value := by
  rw [isDate, Bool.or_eq_true, Bool.or_eq_true, hasShape_ascii h, hasShape_ascii h,
    hasShape_ascii h, or_assoc, IsDateLike]
  simp only [List.exists_mem_cons_iff, List.not_mem_nil, false_and, exists_false, or_false]
  rfl

theorem isSome_ofSynonym?_iff : (Role.ofSynonym? value).isSome = true ↔ IsSide value := by
  rw [Role.ofSynonym?, List.find?_isSome]
  constructor
  · rintro ⟨role, -, h⟩
    exact ⟨role, List.contains_iff_mem.mp h⟩
  · rintro ⟨role, h⟩
    refine ⟨role, ?_, List.contains_iff_mem.mpr h⟩
    cases role
    all_goals decide

theorem isIndex_iff_isNumber (h : IsAscii value) (hne : value.toList ≠ []) :
    isIndex value.toList = true ↔ IsNumber value := by
  rw [isIndex, Bool.and_eq_true, List.all_eq_true, IsNumber]
  have hdigits : (∀ c ∈ value.toList, isDigit c = true) ↔ ∀ c ∈ value.toList, c.isDigit = true :=
    forall₂_congr fun c hc => by rw [isDigit_ascii (h c hc)]
  simp [hdigits, hne]

theorem isMixed_of_isCode (h : IsCode value) : isMixed value.toList = true := by
  have hothers := Classifier.filter_alphanum_eq_nil_iff.mpr h.alphanumeric
  have hletter : value.toList.any Char.isAlpha = true := List.any_eq_true.mpr h.letter
  have hdigit : value.toList.any Char.isDigit = true := List.any_eq_true.mpr h.digit
  simp [isMixed, hothers, hletter, hdigit]

theorem isCode_of_isMixed (h : IsAscii value) (hmixed : isMixed value.toList = true) :
    IsCode value := by
  obtain ⟨hletter, hothers⟩ := Bool.and_eq_true_iff.mp hmixed
  split at hothers
  · rename_i hnil
    exact ⟨Classifier.filter_alphanum_eq_nil_iff.mp hnil, List.any_eq_true.mp hletter,
      List.any_eq_true.mp hothers⟩
  · -- A digit that is no ASCII letter or digit is none of the characters of the value.
    rename_i d hd
    have hmem : d ∈ value.toList.filter (!·.isAlphanum) := hd ▸ List.mem_singleton_self d
    obtain ⟨hd, halphanum⟩ := List.mem_filter.mp hmem
    rw [isDigit_ascii (h d hd)] at hothers
    simp [Char.isAlphanum, hothers] at halphanum
  · cases hothers

theorem isMixed_iff_isCode (h : IsAscii value) : isMixed value.toList = true ↔ IsCode value :=
  ⟨isCode_of_isMixed h, isMixed_of_isCode⟩

theorem isAlphabeticRun_iff_isLetters (hne : value.toList ≠ []) :
    isAlphabeticRun value.toList = true ↔ IsLetters value := by
  rw [isAlphabeticRun, Bool.and_eq_true, List.all_eq_true, IsLetters]
  simp [hne]

theorem isExtension_iff_isShort (hne : value.toList ≠ []) :
    isExtension value.toList = true ↔ IsShort value := by
  simp only [isExtension, Bool.and_eq_true, decide_eq_true_eq, List.all_eq_true]
  exact ⟨fun h => ⟨h.1.2, h.2⟩, fun h => ⟨⟨List.length_pos_iff.mpr hne, h.1⟩, h.2⟩⟩

theorem decides_of_isRead {c : Classifier} {condition : Prop} (hread : c.IsRead)
    (h : c.test value.toList = true ↔ condition) : Decides value c condition := by
  obtain ⟨regex, hparse, hmatch⟩ := hread
  exact ⟨regex, hparse, by rw [hmatch, h]⟩

/-- The patterns of the tests in use decide the conditions of the rows, and of an extension. -/
theorem decides_conditions (h : IsAscii value) (hne : value.toList ≠ []) :
    List.Forall₂ (Decides value) Classifier.all
      [IsDateLike value, IsNumber value, IsLetters value, IsCode value, IsShort value] := by
  have hread := Classifier.isRead_of_mem_all
  simp only [Classifier.all, List.forall_mem_cons] at hread
  obtain ⟨hdate, hindex, hletters, hmixed, hextension, -⟩ := hread
  exact .cons (decides_of_isRead hdate (isDate_iff_isDateLike h)) <|
    .cons (decides_of_isRead hindex (isIndex_iff_isNumber h hne)) <|
    .cons (decides_of_isRead hletters (isAlphabeticRun_iff_isLetters hne)) <|
    .cons (decides_of_isRead hmixed (isMixed_iff_isCode h)) <|
    .cons (decides_of_isRead hextension (isExtension_iff_isShort hne)) .nil

end Conditions

/-- The confidences in use stand between zero and one already. -/
theorem value_confidence : ∀ x ∈ ([1.0, 0.9, 0.85, 0.8, 0.7, 0.6, 0.3] : List Float),
    (Confidence.clamp x).value = x := by
  intro x hx
  have hrange : ∀ x ∈ ([1.0, 0.9, 0.85, 0.8, 0.7, 0.6, 0.3] : List Float),
      x.isNaN ≠ true ∧ ¬ x < 0.0 ∧ ¬ x > 1.0 := by decide +kernel
  obtain ⟨hnumber, hzero, hone⟩ := hrange x hx
  rw [Confidence.clamp, dif_neg hnumber, if_neg hzero, if_neg hone]

namespace Typing

variable {custom : List CustomToken} {earlier : List Token} {rest : List Row} {value : String}
variable {t : Token} {position : Nat} {leadingSeen : Bool}

theorem follows_of_find?_eq_some {c : CustomToken} (h : custom.find? (·.Covers value) = some c)
    (hrow : Row.Gives ⟨c.Covers value, c.type, 1.0⟩ t) :
    Follows t (custom.map (fun c => ⟨c.Covers value, c.type, 1.0⟩) ++ rest) := by
  induction custom with
  | nil => cases h
  | cons d custom ih =>
    by_cases hd : d.Covers value
    · rw [List.find?_cons_of_pos (by simpa using hd)] at h
      obtain rfl := Option.some.inj h
      exact .first hd hrow
    · rw [List.find?_cons_of_neg (by simpa using hd)] at h
      exact .later hd (ih h)

theorem follows_of_find?_eq_none (h : custom.find? (·.Covers value) = none)
    (hrest : Follows t rest) :
    Follows t (custom.map (fun c => ⟨c.Covers value, c.type, 1.0⟩) ++ rest) := by
  induction custom with
  | nil => exact hrest
  | cons d custom ih =>
    obtain ⟨hd, hcustom⟩ := List.forall_mem_cons.mp (List.find?_eq_none.mp h)
    exact .later (by simpa using hd) (ih (List.find?_eq_none.mpr hcustom))

/-- Whether a leading token stands among tokens. -/
def hasLeading (earlier : List Token) : Bool :=
  earlier.any (·.type = .leading)

theorem hasLeading_concat (earlier : List Token) (t : Token) :
    hasLeading (earlier ++ [t]) = (hasLeading earlier || t.type = .leading) := by
  simp [hasLeading]

theorem hasLeading_eq_false_iff : hasLeading earlier = false ↔ ∀ t ∈ earlier, t.type ≠ .leading := by
  simp [hasLeading]

/-- Whether a token has a type and the confidence in it. -/
structure IsClassified (t : Token) (c : TokenType × Float) : Prop where
  type_eq : t.type = c.1
  confidence_eq : t.confidence = .clamp c.2

/-- A test of the classifier is a row of the table. -/
theorem follows_of_ite {b : Bool} {r : Row} {c d : TokenType × Float}
    (h : IsClassified t (if b = true then c else d)) (hb : b = true ↔ r.applies)
    (htype : c.1 = r.type) (hconfidence : (Confidence.clamp c.2).value = r.confidence)
    (hrest : IsClassified t d → Follows t rest) : Follows t (r :: rest) := by
  split at h
  · rename_i htrue
    have hvalue := congrArg Confidence.value h.confidence_eq
    exact .first (hb.mp htrue) ⟨h.type_eq.trans htype, hvalue.trans hconfidence⟩
  · rename_i hfalse
    exact .later (fun happlies => hfalse (hb.mpr happlies)) (hrest h)

/-- The tests of the classifier are those of the table, in the same order. -/
theorem follows_plainTable (hascii : IsAscii value) (hne : value.toList ≠ [])
    (h : IsClassified t (classifyPlain (hasLeading earlier) value.toList)) :
    Follows t (plainTable earlier value) := by
  have hsynonym : (Role.ofSynonym? (String.ofList value.toList)).isSome = true ↔ IsSide value := by
    rw [String.ofList_toList, isSome_ofSynonym?_iff]
  have hlead : (!hasLeading earlier && isAlphabeticRun value.toList) = true ↔
      IsLetters value ∧ ∀ t ∈ earlier, t.type ≠ .leading := by
    rw [Bool.and_eq_true, Bool.not_eq_true', hasLeading_eq_false_iff,
      isAlphabeticRun_iff_isLetters hne, and_comm]
  have hclamp := value_confidence
  simp only [List.forall_mem_cons] at hclamp
  obtain ⟨-, hdate, hside, hleading, hgroupId, hindex, hunknown, -⟩ := hclamp
  unfold classifyPlain at h
  refine follows_of_ite h (isDate_iff_isDateLike hascii) rfl hdate fun h => ?_
  refine follows_of_ite h hsynonym rfl hside fun h => ?_
  refine follows_of_ite h (isIndex_iff_isNumber hascii hne) rfl hindex fun h => ?_
  refine follows_of_ite h (isMixed_iff_isCode hascii) rfl hgroupId fun h => ?_
  refine follows_of_ite h hlead rfl hleading fun h => ?_
  exact .first trivial ⟨h.type_eq, (congrArg Confidence.value h.confidence_eq).trans hunknown⟩

/-- One segment is typed by the table. -/
theorem follows_table (hascii : IsAscii value) (hne : value.toList ≠ [])
    (h : IsClassified t (classify custom (hasLeading earlier) value.toList)) :
    Follows t (table custom earlier value) := by
  unfold classify at h
  rw [String.ofList_toList, CustomToken.typeOf?_eq_find?] at h
  cases hfind : custom.find? (·.Covers value) with
  | none =>
    rw [hfind] at h
    exact follows_of_find?_eq_none hfind (follows_plainTable hascii hne h)
  | some c =>
    rw [hfind] at h
    exact follows_of_find?_eq_some hfind
      ⟨h.type_eq, (congrArg Confidence.value h.confidence_eq).trans
        (value_confidence 1.0 (List.mem_cons_self ..))⟩

/-- Segments behind some tokens are typed by the table, one after the other. -/
theorem follows_of_tokensFrom_eq {ss : List (List Char)} {before later : List Token}
    (hascii : ∀ s ∈ ss, ∀ c ∈ s, c.toNat < 128) (hne : ∀ s ∈ ss, s ≠ [])
    (h : tokensFrom custom position (hasLeading before) ss = earlier ++ t :: later) :
    Follows t (table custom (before ++ earlier) t.value) := by
  induction ss generalizing position before earlier with
  | nil => cases List.append_eq_nil_iff.mp h.symm |>.2
  | cons s ss ih =>
    obtain ⟨hs, hss⟩ := List.forall_mem_cons.mp hascii
    obtain ⟨hsne, hssne⟩ := List.forall_mem_cons.mp hne
    -- The flag is always whether a leading token stands before, also behind the next token.
    let head := Token.make (String.ofList s) position (classify custom (hasLeading before) s).1
      (classify custom (hasLeading before) s).2
    have hstep : head :: tokensFrom custom (position + 1) (hasLeading (before ++ [head])) ss =
        earlier ++ t :: later := by
      rw [hasLeading_concat]
      exact h
    cases earlier with
    | nil =>
      obtain ⟨rfl, -⟩ := List.cons.inj hstep
      rw [List.append_nil]
      have hl : head.value.toList = s := String.toList_ofList
      refine follows_table (by rwa [IsAscii, hl]) (by rwa [hl]) ?_
      rw [hl]
      exact ⟨rfl, rfl⟩
    | cons first earlier =>
      obtain ⟨rfl, hrest⟩ := List.cons.inj hstep
      have hnext := ih hss hssne hrest
      rwa [List.append_assoc, List.singleton_append] at hnext

theorem splitLastDot?_append {front back : List Char} (h : ∀ c ∈ back, c ≠ '.') :
    splitLastDot? (front ++ '.' :: back) = some (front, back) := by
  have hrun : ∀ c ∈ back.reverse, (c != '.') = true := by
    intro c hc
    exact bne_iff_ne.mpr (h c (List.mem_reverse.mp hc))
  have hreverse : (front ++ '.' :: back).reverse = back.reverse ++ '.' :: front.reverse := by simp
  have hdot : (front ++ '.' :: back).contains '.' = true := by simp
  rw [splitLastDot?, if_pos hdot]
  simp only [hreverse, List.dropWhile_append_of_pos hrun, List.takeWhile_append_of_pos hrun]
  simp

theorem stem_ne_nil_of_splitExtension {cs stem ext : List Char}
    (h : splitExtension cs = (stem, some ext)) : stem ≠ [] := by
  unfold splitExtension at h
  split at h
  · split at h
    · rename_i hc
      obtain ⟨rfl, -⟩ := Prod.mk.inj h
      simpa using (Bool.and_eq_true_iff.mp hc).1
    · cases (Prod.mk.inj h).2
  · cases (Prod.mk.inj h).2

/-- A filename is split where it ends in an extension, and nowhere else. -/
theorem splitExtension_eq_some_iff {f : String} {stem ext : List Char} :
    splitExtension f.toList = (stem, some ext) ↔ EndsIn f stem ext := by
  constructor
  · intro h
    have hext := isExtension_of_splitExtension h
    simp only [isExtension, Bool.and_eq_true, decide_eq_true_eq, List.all_eq_true] at hext
    obtain ⟨⟨hpos, hlength⟩, halphanum⟩ := hext
    exact ⟨append_of_splitExtension h, stem_ne_nil_of_splitExtension h, List.length_pos_iff.mp hpos,
      hlength, halphanum⟩
  · intro h
    have hdots : ∀ c ∈ ext, c ≠ '.' := by
      rintro c hc rfl
      exact absurd (h.alphanumeric _ hc) (by decide)
    have hext : isExtension ext = true := by
      have hpos := List.length_pos_iff.mpr h.ext_ne_nil
      simp only [isExtension, Bool.and_eq_true, decide_eq_true_eq, List.all_eq_true]
      exact ⟨⟨hpos, h.length_le⟩, h.alphanumeric⟩
    rw [splitExtension, h.text, splitLastDot?_append hdots]
    simp [h.stem_ne_nil, hext]

theorem mem_of_spaced {tight : Bool} {vs : List (List Char)} {v cs : List Char} {c : Char}
    (h : Spaced tight vs cs) (hv : v ∈ vs) (hc : c ∈ v) : c ∈ cs := by
  induction h with
  | last => cases hv
  | cons hgap htight hne hvalue h ih =>
    obtain rfl | hv := List.mem_cons.mp hv
    · simp [hc]
    · simp [ih hv]

theorem isBody_tokensFrom {cs : List Char} (h : ∀ c ∈ cs, c.toNat < 128) :
    IsBody custom cs (tokensFrom custom 0 false (segments cs)) := by
  constructor
  · rw [← tokensFromBy_custom, values_tokensFromBy]
  · intro earlier t later heq
    have hne : ∀ s ∈ segments cs, s ≠ [] := fun s hs => ne_nil_of_mem_segments hs
    have hascii : ∀ s ∈ segments cs, ∀ c ∈ s, c.toNat < 128 :=
      fun s hs c hc => h c (mem_of_spaced (spaced_segments cs) hs hc)
    have hfollows : Follows t (table custom ([] ++ earlier) t.value) :=
      follows_of_tokensFrom_eq hascii hne heq
    exact hfollows

/-- The tokens of a filename are those of its stem, typed by one decision table, and one for its
extension, whatever custom tokens there are; the patterns that filenames are searched for decide the
conditions of the table. -/
theorem tokensOf_follows_table (custom : List CustomToken) (f : String) (h : IsAscii f) :
    (∀ stem ext, EndsIn f stem ext → ∃ body, IsBody custom stem body ∧
      tokensOf custom f = body ++ [⟨String.ofList ext, body.length, .extension, 1.0⟩]) ∧
    ((¬ ∃ stem ext, EndsIn f stem ext) → IsBody custom f.toList (tokensOf custom f)) ∧
    ∀ value, IsAscii value → value.toList ≠ [] → List.Forall₂ (Decides value) Classifier.all
      [IsDateLike value, IsNumber value, IsLetters value, IsCode value, IsShort value] := by
  refine ⟨?_, ?_, fun value => decides_conditions⟩
  · intro stem ext hends
    have hstem : ∀ c ∈ stem, c.toNat < 128 := by
      intro c hc
      exact h c (by rw [hends.text]; exact List.mem_append_left _ hc)
    have hone : Confidence.clamp confidences.extension = 1.0 := rfl
    refine ⟨_, isBody_tokensFrom hstem, ?_⟩
    rw [← tokensBy_custom, tokensBy_of_extension _ (splitExtension_eq_some_iff.mpr hends),
      tokensFromBy_custom, Token.make, hone]
  · intro hnone
    cases hsplit : splitExtension f.toList with
    | mk stem extension =>
      cases extension with
      | none =>
        rw [← tokensBy_custom, tokensBy_of_no_extension _ hsplit, tokensFromBy_custom,
          eq_of_splitExtension hsplit]
        exact isBody_tokensFrom h
      | some ext => exact absurd ⟨stem, ext, splitExtension_eq_some_iff.mp hsplit⟩ hnone

/-- Custom tokens that share an example. -/
def lotTokens : List CustomToken :=
  [⟨"lot", "", .leading, [" ", "Lot7 "]⟩, ⟨"car", "", .groupId, ["lot7", "jpg"]⟩]

/-- Letters behind a custom token that leads the filename stay unknown. -/
theorem tokensOf_follows_table_lot :
    IsAscii "LOT7_x_R_2024-01-02_7_a1.jpg" ∧
      (∃ body, IsBody lotTokens "LOT7_x_R_2024-01-02_7_a1".toList body ∧
        tokensOf lotTokens "LOT7_x_R_2024-01-02_7_a1.jpg" =
          body ++ [⟨"jpg", body.length, .extension, 1.0⟩]) ∧
      (tokensOf lotTokens "LOT7_x_R_2024-01-02_7_a1.jpg").map (·.type) =
        [.leading, .unknown, .cameraSide, .date, .index, .groupId, .extension] := by
  have hascii : IsAscii "LOT7_x_R_2024-01-02_7_a1.jpg" := by decide
  have hends : EndsIn "LOT7_x_R_2024-01-02_7_a1.jpg" "LOT7_x_R_2024-01-02_7_a1".toList
      "jpg".toList :=
    ⟨by decide, by decide, by decide, by decide, List.all_eq_true.mp (by decide)⟩
  exact ⟨hascii, (tokensOf_follows_table lotTokens _ hascii).1 _ _ hends, by decide +kernel⟩

end Typing

end PhotoGrouping
