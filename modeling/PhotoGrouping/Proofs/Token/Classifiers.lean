import PhotoGrouping.Proofs.GroupPattern.Words
import PhotoGrouping.Proofs.Regex.Search
import PhotoGrouping.Proofs.Text.AsciiCase

namespace PhotoGrouping

open Text Filename Regex GroupPattern

/-- A test of the parts of filenames, and the pattern of what passes it. -/
structure Classifier where
  pattern : String
  test : List Char → Bool

namespace Classifier

def all : List Classifier :=
  [⟨"^(?:\\d\x7b4\x7d-\\d\x7b2\x7d-\\d\x7b2\x7d|\\d\x7b2\x7d-\\d\x7b2\x7d-\\d\x7b4\x7d|\\d\x7b8\x7d)$",
      isDate⟩,
    ⟨"^\\d+$", isIndex⟩,
    ⟨"^[A-Za-z]+$", isAlphabeticRun⟩,
    ⟨"^[A-Za-z0-9]*(?:[A-Za-z][A-Za-z0-9]*\\d|\\d[A-Za-z0-9]*[A-Za-z])[A-Za-z0-9]*$", isMixed⟩,
    ⟨"^[A-Za-z0-9]\x7b1,5\x7d$", isExtension⟩]

def letters : CharClass :=
  .union (.range 'A' 'Z') (.range 'a' 'z')

def alphanumerics : CharClass :=
  .union (.range 'A' 'Z') (.union (.range 'a' 'z') (.range '0' '9'))

/-- Characters of a set one after the other. -/
def run (least : Nat) (most : Option Nat) (s : CharClass) : Expr :=
  .rep least most true (.oneOf s)

/-- A character of each of two sets with ASCII letters and digits between them. -/
def between (s t : CharClass) : Expr :=
  .catOf [.oneOf s, run 0 none alphanumerics, .oneOf t]

/-- A pattern of expressions that take a whole text between them. -/
def anchored (rs : List Expr) : Regex :=
  ⟨.catOf (.look .textStart :: (rs ++ [.look .textEnd]))⟩

variable {c d : Char} {cs w p q : List Char} {least : Nat} {most : Option Nat} {s t : CharClass}
variable {rs : List Expr}

theorem contains_letters (c : Char) : letters.contains c = c.isAlpha := by
  change _ = (decide (c.val ≥ 'A'.val ∧ c.val ≤ 'Z'.val) ||
    (decide (c.val ≥ 'a'.val) && decide (c.val ≤ 'z'.val)))
  rw [Bool.decide_and]
  rfl

theorem contains_alphanumerics (c : Char) : alphanumerics.contains c = c.isAlphanum := by
  rw [Char.isAlphanum, ← contains_letters, letters, CharClass.contains, Bool.or_assoc]
  rfl

theorem isMatch_anchored (h : rs.all Expr.isPlain = true) (text : String) :
    (anchored rs).isMatch text = true ↔ text.toList ∈ (Expr.catOf rs).language := by
  have hplain : (Expr.catOf rs).isPlain = true := by rwa [isPlain_catOf]
  have hmatch := @search_isSome_iff (anchored rs) text.toList (.none 0)
  refine hmatch.trans ⟨?_, fun hw => ?_⟩
  · rintro ⟨i, j, sl', hi, h⟩
    obtain ⟨rfl, rfl, hspan⟩ := (spans_anchored hi).mp h
    obtain ⟨-, u, hu, hprefix, hlength⟩ := (spans_iff_takes hplain).mp hspan
    rw [List.drop_zero] at hprefix
    rwa [← hprefix.eq_of_length (by omega)]
  · have htakes : Takes text.toList (Expr.catOf rs).language 0 (.none 0) text.toList.length
        (.none 0) := ⟨rfl, text.toList, hw, by simp, by simp⟩
    exact ⟨0, text.toList.length, .none 0, Nat.zero_le _, (spans_anchored (Nat.zero_le _)).mpr
      ⟨rfl, rfl, (spans_iff_takes hplain).mpr htakes⟩⟩

theorem mem_language_run :
    w ∈ (run least most s).language ↔ Allows least most w.length ∧ ∀ c ∈ w, s.contains c = true :=
  mem_language_rep

/-- Any number of ASCII letters and digits. -/
theorem mem_language_alphanumerics :
    w ∈ (run 0 none alphanumerics).language ↔ ∀ c ∈ w, c.isAlphanum = true := by
  simp [mem_language_run, contains_alphanumerics, Allows]

theorem mem_language_between :
    w ∈ (between s t).language ↔
      ∃ c mid d, w = c :: (mid ++ [d]) ∧ s.contains c = true ∧ (∀ x ∈ mid, x.isAlphanum = true) ∧
        t.contains d = true := by
  simp only [between, mem_language_catOf_cons, mem_language_catOf_nil, mem_language_alphanumerics,
    exists_eq_left, List.append_nil, exists_eq_right]
  constructor
  · rintro ⟨_, ⟨c, hc, rfl⟩, _, ⟨mid, hmid, _, ⟨d, hd, rfl⟩, rfl⟩, rfl⟩
    exact ⟨c, mid, d, rfl, hc, hmid, hd⟩
  · rintro ⟨c, mid, d, rfl, hc, hmid, hd⟩
    exact ⟨[c], ⟨c, hc, rfl⟩, mid ++ [d], ⟨mid, hmid, [d], ⟨d, hd, rfl⟩, rfl⟩, rfl⟩

/-- Whether a text has a digit, which may be of another script, among ASCII letters and digits, one of
them a letter. -/
def HasDigitAmong (w : List Char) : Prop :=
  ∃ p d q, w = p ++ d :: q ∧ isDigit d = true ∧ (∀ c ∈ p ++ q, c.isAlphanum = true) ∧
    ∃ c ∈ p ++ q, c.isAlpha = true

theorem toNat_lt_of_isDigit (h : d.isDigit = true) : d.toNat < 128 :=
  toNat_lt_of_isAlphanum (by rw [Char.isAlphanum, h, Bool.or_true])

theorem isAlpha_of_isDigit (h : d.isDigit = true) : d.isAlpha = false :=
  forall_ascii (fun d => d.isDigit = true → d.isAlpha = false) (by decide) d (toNat_lt_of_isDigit h) h

theorem filter_alphanum_eq_nil_iff :
    w.filter (!·.isAlphanum) = [] ↔ ∀ c ∈ w, c.isAlphanum = true := by
  simp [List.filter_eq_nil_iff]

theorem hasDigitAmong_of_isMixed (h : isMixed w = true) : HasDigitAmong w := by
  obtain ⟨hletter, hothers⟩ := Bool.and_eq_true_iff.mp h
  obtain ⟨c, hc, halpha⟩ := List.any_eq_true.mp hletter
  split at hothers
  · rename_i hnil
    obtain ⟨d, hd, hdigit⟩ := List.any_eq_true.mp hothers
    obtain ⟨p, q, rfl⟩ := List.append_of_mem hd
    have hall := filter_alphanum_eq_nil_iff.mp hnil
    have hne : c ≠ d := by
      rintro rfl
      rw [isAlpha_of_isDigit hdigit] at halpha
      cases halpha
    have hd : isDigit d = true := by rwa [isDigit_ascii (toNat_lt_of_isDigit hdigit)]
    refine ⟨p, d, q, rfl, hd, fun x hx => hall x ?_, c, ?_, halpha⟩
    · simp only [List.mem_append, List.mem_cons] at hx ⊢
      tauto
    · simp only [List.mem_append, List.mem_cons] at hc ⊢
      tauto
  · rename_i d hd
    have hmem : d ∈ w.filter (!·.isAlphanum) := hd ▸ List.mem_singleton_self d
    obtain ⟨hdw, hother⟩ := List.mem_filter.mp hmem
    obtain ⟨p, q, rfl⟩ := List.append_of_mem hdw
    have hne : c ≠ d := by
      rintro rfl
      simp [Char.isAlphanum, halpha] at hother
    have hpq : p.filter (!·.isAlphanum) = [] ∧ q.filter (!·.isAlphanum) = [] := by
      have hlength := congrArg List.length hd
      rw [List.filter_append, List.filter_cons, if_pos hother, List.length_append] at hlength
      simp only [List.length_cons, List.length_nil] at hlength
      exact ⟨List.length_eq_zero_iff.mp (by omega), List.length_eq_zero_iff.mp (by omega)⟩
    refine ⟨p, d, q, rfl, hothers, fun x hx => ?_, c, ?_, halpha⟩
    · obtain hx | hx := List.mem_append.mp hx
      · exact filter_alphanum_eq_nil_iff.mp hpq.1 x hx
      · exact filter_alphanum_eq_nil_iff.mp hpq.2 x hx
    · simp only [List.mem_append, List.mem_cons] at hc ⊢
      tauto
  · cases hothers

theorem isMixed_of_hasDigitAmong (h : HasDigitAmong w) : isMixed w = true := by
  obtain ⟨p, d, q, rfl, hdigit, hall, c, hc, halpha⟩ := h
  have hp := filter_alphanum_eq_nil_iff.mpr fun x hx => hall x (List.mem_append_left q hx)
  have hq := filter_alphanum_eq_nil_iff.mpr fun x hx => hall x (List.mem_append_right p hx)
  have hletter : (p ++ d :: q).any Char.isAlpha = true := by
    refine List.any_eq_true.mpr ⟨c, ?_, halpha⟩
    simp only [List.mem_append, List.mem_cons] at hc ⊢
    tauto
  rw [isMixed, hletter, Bool.true_and, List.filter_append, hp, List.nil_append]
  cases hother : d.isAlphanum with
  | true =>
    have hascii : d.isDigit = true := by
      rwa [isDigit_ascii (toNat_lt_of_isAlphanum hother)] at hdigit
    have hany : (p ++ d :: q).any Char.isDigit = true := List.any_eq_true.mpr ⟨d, by simp, hascii⟩
    rw [List.filter_cons_of_neg (by simp [hother]), hq]
    exact hany
  | false =>
    rw [List.filter_cons_of_pos (by simp [hother]), hq]
    exact hdigit

theorem isMixed_iff_hasDigitAmong : isMixed w = true ↔ HasDigitAmong w :=
  ⟨hasDigitAmong_of_isMixed, isMixed_of_hasDigitAmong⟩

/-- The parts of the pattern of texts with letters and digits: a letter comes before some digit or
behind it. -/
def mixed : List Expr :=
  [run 0 none alphanumerics, .alt (between letters .digit) (between .digit letters),
    run 0 none alphanumerics]

theorem mem_language_mixed : w ∈ (Expr.catOf mixed).language ↔ HasDigitAmong w := by
  simp only [mixed, mem_language_catOf_cons, mem_language_catOf_nil, exists_eq_left, List.append_nil,
    exists_eq_right, mem_language_alphanumerics, Expr.language, Language.mem_add,
    mem_language_between, contains_letters, CharClass.contains]
  constructor
  · rintro ⟨x, hx, _, ⟨_, ⟨c, y, d, rfl, hc, hy, hd⟩ | ⟨d, y, c, rfl, hd, hy, hc⟩, z, hz, rfl⟩, rfl⟩
    · refine ⟨x ++ c :: y, d, z, by simp, hd, ?_, c, by simp, hc⟩
      have hcn : c.isAlphanum = true := by rw [Char.isAlphanum, hc, Bool.true_or]
      simp only [List.forall_mem_append, List.forall_mem_cons]
      exact ⟨⟨hx, hcn, hy⟩, hz⟩
    · refine ⟨x, d, y ++ c :: z, by simp, hd, ?_, c, by simp, hc⟩
      have hcn : c.isAlphanum = true := by rw [Char.isAlphanum, hc, Bool.true_or]
      simp only [List.forall_mem_append, List.forall_mem_cons]
      exact ⟨hx, hy, hcn, hz⟩
  · rintro ⟨p, d, q, rfl, hd, hall, c, hc, halpha⟩
    obtain ⟨hp, hq⟩ := List.forall_mem_append.mp hall
    obtain hc | hc := List.mem_append.mp hc
    · obtain ⟨x, y, rfl⟩ := List.append_of_mem hc
      obtain ⟨hx, hy⟩ := List.forall_mem_append.mp hp
      exact ⟨x, hx, (c :: (y ++ [d])) ++ q, ⟨c :: (y ++ [d]),
        .inl ⟨c, y, d, rfl, halpha, (List.forall_mem_cons.mp hy).2, hd⟩, q, hq, rfl⟩, by simp⟩
    · obtain ⟨y, z, rfl⟩ := List.append_of_mem hc
      obtain ⟨hy, hz⟩ := List.forall_mem_append.mp hq
      exact ⟨p, hp, (d :: (y ++ [c])) ++ z, ⟨d :: (y ++ [c]),
        .inr ⟨d, y, c, rfl, hd, hy, halpha⟩, z, (List.forall_mem_cons.mp hz).2, rfl⟩, by simp⟩

def dates : List Expr :=
  [.catOf (dashedExprs (folding false) 4 2 2), .catOf (dashedExprs (folding false) 2 2 4), digits 8]

theorem mem_language_dates : w ∈ (Expr.altOf dates).language ↔ isDate w = true := by
  have hne : dates ≠ [] := List.cons_ne_nil _ _
  rw [mem_language_altOf hne, isDate, Bool.or_eq_true, Bool.or_eq_true, or_assoc]
  simp only [dates, List.exists_mem_cons_iff, List.not_mem_nil, false_and, exists_false, or_false,
    mem_language_yearFirst, mem_language_yearLast, mem_language_digits, hasShape_compact]

/-- Whether a pattern is read, and matches the texts that pass its test. -/
def IsRead (c : Classifier) : Prop :=
  ∃ regex : Regex, Regex.parse c.pattern false = .ok regex ∧
    ∀ text, regex.isMatch text = c.test text.toList

theorem isRead_of_anchored {c : Classifier} (rs : List Expr)
    (hparse : Regex.parse c.pattern false = .ok (anchored rs)) (hplain : rs.all Expr.isPlain = true)
    (h : ∀ w, w ∈ (Expr.catOf rs).language ↔ c.test w = true) : c.IsRead := by
  refine ⟨anchored rs, hparse, fun text => ?_⟩
  rw [Bool.eq_iff_iff, isMatch_anchored hplain, h]

/-- The pattern of runs of a set is read as that of all texts of an allowed length in it. -/
theorem isRead_of_run {c : Classifier} (least : Nat) (most : Option Nat) (s : CharClass)
    (hparse : Regex.parse c.pattern false = .ok (anchored [run least most s]))
    (h : ∀ w : List Char, Allows least most w.length ∧ (∀ x ∈ w, s.contains x = true) ↔
      c.test w = true) : c.IsRead :=
  isRead_of_anchored _ hparse rfl fun w => mem_language_run.trans (h w)

/-- Every pattern is read and matches the texts that pass its test, and no others. -/
theorem isRead_of_mem_all : ∀ c ∈ all, c.IsRead := by
  simp only [all, List.forall_mem_cons]
  refine ⟨?date, ?index, ?letters, ?mixed, ?extension, by simp⟩
  case date =>
    exact isRead_of_anchored [.altOf dates] (by decide +kernel) (by decide) fun w => mem_language_dates
  case index =>
    refine isRead_of_run 1 none .digit (by decide +kernel) fun w => ?_
    simp [Allows, isIndex, CharClass.contains, Nat.one_le_iff_ne_zero]
  case letters =>
    refine isRead_of_run 1 none letters (by decide +kernel) fun w => ?_
    simp [Allows, isAlphabeticRun, contains_letters, Nat.one_le_iff_ne_zero]
  case mixed =>
    refine isRead_of_anchored mixed (by decide +kernel) (by decide) fun w => ?_
    rw [mem_language_mixed, isMixed_iff_hasDigitAmong]
  case extension =>
    refine isRead_of_run 1 (some 5) alphanumerics (by decide +kernel) fun w => ?_
    have hallows : Allows 1 (some 5) w.length ↔ 1 ≤ w.length ∧ w.length ≤ 5 := by
      simp [Allows]
      omega
    simp [hallows, isExtension, contains_alphanumerics]

end Classifier

end PhotoGrouping
