import PhotoGrouping.Proofs.PatternScan.Supported
import PhotoGrouping.Proofs.Regex.Repetition

namespace PhotoGrouping.PatternScan

open Regex Text

/-- Whether a scan outside of classes passes over a character without a change of its state and
without finding a quantifier. -/
def isMute (c : Char) : Bool :=
  c != '(' && c != '[' && c != '\\' && !isRepetitionSign c

/-- Whether a scan finds a quantifier from a place on that is outside of classes. -/
def quantified (cs : List Char) : Bool :=
  quantifiedFrom {} none cs

/-- Whether a scan finds no more behind the front of a text than before it, and no less on a
condition. -/
structure SameFinds (condition : Prop) (cs rest : List Char) : Prop where
  sound : quantified cs = true → quantified rest = true
  exact : condition → quantified cs = quantified rest

namespace Stage

/-- The text of the backslash sequence that a stage is in front of, behind its first letter. -/
def escapeText (s : Stage) : List Char :=
  match s.shown with
  | '\\' :: c :: cs =>
    match readEscape s.state.flags (c :: cs) with
    | .ok (_, rest) => cs.take (cs.length - rest.length)
    | .error _ => []
  | _ => []

theorem escapeText_eq {s : Stage} {c : Char} {cs rest : List Char} {e : EscapeSequence}
    (hshown : s.shown = '\\' :: c :: cs)
    (hread : readEscape s.state.flags (c :: cs) = .ok (e, rest)) :
    s.escapeText = cs.take (cs.length - rest.length) := by
  simp [escapeText, hshown, hread]

/-- Whether a scan is misled behind a stage: by a `?` behind an escaped bracket, which it takes for
the front of a group, or by a name with an opening bracket, which it takes for the one of a class. -/
def misleads (s : Stage) : Bool :=
  (match s.shown with
    | '\\' :: '(' :: '?' :: _ => true
    | _ => false) ||
  s.state.names.any (·.contains '[')

theorem head?_of_misleads {s : Stage} {cs : List Char} (h : s.misleads = false)
    (hshown : s.shown = '\\' :: '(' :: cs) : cs.head? ≠ some '?' := by
  intro hhead
  obtain ⟨tail, rfl⟩ := List.head?_eq_some_iff.mp hhead
  simp [misleads, hshown] at h

theorem names_of_misleads {s : Stage} (h : s.misleads = false) :
    ∀ name ∈ s.state.names, '[' ∉ name := by
  simp only [misleads, Bool.or_eq_false_iff, List.any_eq_false, List.contains_iff_mem] at h
  exact h.2

end Stage

variable {st st' : ParseState} {c d : Char} {cs rest r t name : List Char} {f : Flags} {s : State}
variable {before : Option Char}

section Scan

theorem isQuantifier_eq (before : Option Char) (c : Char) :
    isQuantifier before c = (isRepetitionSign c && !(c == '?' && before == some '(')) := by
  by_cases hc : c = '?'
  · simp [isQuantifier, isRepetitionSign, hc, bne]
  · have hc : (c == '?') = false := by simpa using hc
    simp [isQuantifier, isRepetitionSign, hc]

/-- What is before a text counts only for a `?` behind an opening bracket. -/
theorem quantifiedFrom_eq_none (h : before = some '(' → cs.head? ≠ some '?') :
    quantifiedFrom s before cs = quantifiedFrom s none cs := by
  cases cs with
  | nil => rfl
  | cons c cs =>
    have hopen : (c == '?' && before == some '(') = false := by
      by_contra hfalse
      simp only [Bool.not_eq_false, Bool.and_eq_true, beq_iff_eq] at hfalse
      exact h hfalse.2 (congrArg some hfalse.1)
    rw [quantifiedFrom, quantifiedFrom, isQuantifier_eq, isQuantifier_eq, hopen]
    simp

theorem quantifiedFrom_none (h : quantifiedFrom s before cs = true) :
    quantifiedFrom s none cs = true := by
  cases cs with
  | nil => cases h
  | cons c cs =>
    rw [quantifiedFrom, isQuantifier_eq] at h ⊢
    simp only [Bool.or_eq_true, Bool.and_eq_true] at h ⊢
    exact h.imp_left fun h => ⟨h.1, h.2.1, by simp⟩

/-- In a class a scan finds no more than outside of it. -/
theorem quantifiedFrom_outside {escaped inClass : Bool}
    (h : quantifiedFrom ⟨escaped, inClass⟩ before cs = true) :
    quantifiedFrom ⟨escaped, false⟩ before cs = true := by
  induction cs generalizing escaped inClass before with
  | nil => cases h
  | cons c cs ih =>
    rw [quantifiedFrom, Bool.or_eq_true] at h ⊢
    obtain hplain | htail := h
    · left
      rw [Bool.and_eq_true] at hplain ⊢
      refine ⟨?_, hplain.2⟩
      have hescaped := (Bool.and_eq_true_iff.mp hplain.1).1
      rw [State.isPlain, Bool.not_false, Bool.and_true]
      exact hescaped
    · right
      cases escaped with
      | true => exact ih htail
      | false =>
        unfold State.step at htail ⊢
        simp only [Bool.false_eq_true, if_false] at htail ⊢
        split at htail
        · exact ih htail
        · exact htail
        · exact htail
        · exact ih htail

/-- Behind a text without signs a scan finds no more outside of classes than behind that text. -/
theorem quantified_of_append (ht : ∀ c ∈ t, c ≠ '\\' ∧ isRepetitionSign c = false)
    (hs : s.escaped = false) (h : quantifiedFrom s before (t ++ rest) = true) :
    quantified rest = true := by
  induction t generalizing s before with
  | nil =>
    obtain ⟨escaped, inClass⟩ := s
    obtain rfl : escaped = false := hs
    exact quantifiedFrom_none (quantifiedFrom_outside h)
  | cons c t ih =>
    obtain ⟨hc, hsign⟩ := ht c List.mem_cons_self
    rw [List.cons_append, quantifiedFrom, isQuantifier_eq, hsign, Bool.false_and, Bool.and_false,
      Bool.false_or] at h
    exact ih (fun d hd => ht d (List.mem_cons_of_mem c hd)) (State.escaped_step hc) h

theorem quantified_sign (hc : isRepetitionSign c = true) (cs : List Char) :
    quantified (c :: cs) = true := by
  rw [quantified, quantifiedFrom, isQuantifier_eq, hc]
  simp [State.isPlain]

theorem quantifiedFrom_mute (hc : isMute c = true) (before : Option Char) (cs : List Char) :
    quantifiedFrom {} before (c :: cs) = quantified cs := by
  simp only [isMute, Bool.and_eq_true, bne_iff_ne, ne_eq, Bool.not_eq_true'] at hc
  obtain ⟨⟨⟨hopen, hbracket⟩, hbackslash⟩, hsign⟩ := hc
  have hstep : State.step {} c = {} := by
    unfold State.step
    split
    · rfl
    · split
      · exact absurd rfl hbackslash
      · exact absurd rfl hbracket
      · rfl
      · rfl
  rw [quantifiedFrom, isQuantifier_eq, hsign, hstep, Bool.false_and, Bool.and_false, Bool.false_or]
  exact quantifiedFrom_eq_none fun hbefore => absurd (Option.some.inj hbefore) hopen

theorem quantified_append (ht : ∀ c ∈ t, isMute c = true) (rest : List Char) :
    quantified (t ++ rest) = quantified rest := by
  induction t with
  | nil => rfl
  | cons c t ih =>
    have htail := ih fun d hd => ht d (List.mem_cons_of_mem c hd)
    rw [← htail]
    exact quantifiedFrom_mute (ht c List.mem_cons_self) none (t ++ rest)

theorem quantified_escape (c : Char) (cs : List Char) :
    quantified ('\\' :: c :: cs) = quantifiedFrom {} (some c) cs := by
  simp [quantified, quantifiedFrom, State.step, State.isPlain, isQuantifier]

theorem quantified_front (cs : List Char) : quantified ('(' :: '?' :: cs) = quantified cs := by
  have hfront : quantified ('(' :: '?' :: cs) = quantifiedFrom {} (some '?') cs := by
    simp [quantified, quantifiedFrom, State.step, State.isPlain, isQuantifier]
  rw [hfront]
  exact quantifiedFrom_eq_none fun hbefore => absurd (Option.some.inj hbefore) (by decide)

theorem quantified_capture (h : cs.head? ≠ some '?') : quantified ('(' :: cs) = quantified cs := by
  have hopen : quantified ('(' :: cs) = quantifiedFrom {} (some '(') cs := by
    simp [quantified, quantifiedFrom, State.step, isQuantifier]
  rw [hopen]
  exact quantifiedFrom_eq_none fun _ => h

theorem StaysIn.quantifiedFrom_eq (h : StaysIn cs (']' :: r)) (before : Option Char) :
    quantifiedFrom { inClass := true } before cs = quantified r := by
  generalize hrest : ']' :: r = rest at h
  induction h generalizing before with
  | done cs =>
    subst hrest
    have hclose : quantifiedFrom { inClass := true } before (']' :: r) =
        quantifiedFrom {} (some ']') r := by
      simp [quantifiedFrom, State.step, State.isPlain]
    rw [hclose]
    exact quantifiedFrom_eq_none fun hbefore => absurd (Option.some.inj hbefore) (by decide)
  | escape c _ ih =>
    rw [← ih (some c) hrest]
    simp [quantifiedFrom, State.step, State.isPlain]
  | @plain c cs rest hc hclose _ ih =>
    rw [← ih (some c) hrest, quantifiedFrom, State.step_inClass hc hclose]
    simp [State.isPlain]

/-- Behind a bracketed class a scan has found what it had found before it. -/
theorem quantified_class (h : StaysIn cs (']' :: r)) : quantified ('[' :: cs) = quantified r := by
  rw [← h.quantifiedFrom_eq (some '[')]
  simp [quantified, quantifiedFrom, State.step, isQuantifier]

end Scan

theorem isMute_of {p : Char → Bool}
    (hp : (['(', '[', '\\', '*', '+', '{', '?'].all fun d => !p d) = true) (hc : p c = true) :
    isMute c = true := by
  have hne {d : Char} (hd : d ∈ ['(', '[', '\\', '*', '+', '{', '?']) : c ≠ d := by
    rintro rfl
    have hnot := List.all_eq_true.mp hp c hd
    rw [hc] at hnot
    cases hnot
  simp only [isMute, isRepetitionSign, Bool.and_eq_true, bne_iff_ne, Bool.not_eq_true',
    Bool.or_eq_false_iff, beq_eq_false_iff_ne]
  exact ⟨⟨⟨hne (by decide), hne (by decide)⟩, hne (by decide)⟩,
    ⟨⟨hne (by decide), hne (by decide)⟩, hne (by decide)⟩, hne (by decide)⟩

theorem isMute_of_loneProperty {q : Property × Bool} (h : loneProperty [c] = .ok q) :
    isMute c = true := by
  have hrefused : (['(', '[', '\\', '*', '+', '{', '?'].all
      fun d => !(loneProperty [d]).isOk) = true := by
    decide +kernel
  refine isMute_of (p := fun d => (loneProperty [d]).isOk) hrefused ?_
  rw [h]
  rfl

/-- Whether a text consists of mute characters and a rest. -/
def Mutely (cs rest : List Char) : Prop :=
  ∃ t, (∀ c ∈ t, isMute c = true) ∧ cs = t ++ rest

theorem Mutely.refl (cs : List Char) : Mutely cs cs :=
  ⟨[], fun _ hc => absurd hc List.not_mem_nil, rfl⟩

theorem Mutely.quantified_eq (h : Mutely cs rest) : quantified cs = quantified rest := by
  obtain ⟨t, ht, rfl⟩ := h
  exact quantified_append ht rest

theorem sameFinds_of_eq {condition : Prop} (h : quantified cs = quantified rest) :
    SameFinds condition cs rest :=
  ⟨h.symm.trans, fun _ => h⟩

theorem mutely_readFlags {a b : FlagProgress} {colon : Bool}
    (hread : readFlags a cs = .ok ((b, colon), r)) : Mutely cs r := by
  have hmute : ∀ c ∈ settingChars, isMute c = true := List.all_eq_true.mp (by decide)
  obtain ⟨t, rfl, ht⟩ := exists_append_of_readFlags hread
  exact ⟨t, fun c hc => hmute c (ht c hc), rfl⟩

section Escapes

variable (hshows : f.verbose = false)

include hshows

theorem eq_append_of_readHexDigits {n : Nat} (hread : readHexDigits f n cs = .ok (t, r)) :
    cs = t ++ r := by
  induction n generalizing cs t with
  | zero =>
    obtain ⟨rfl, rfl⟩ := Prod.mk.inj (Except.ok.inj hread)
    exact (Flags.skip_eq_self hshows cs).symm
  | succ n ih =>
    rw [readHexDigits, Flags.skip_eq_self hshows] at hread
    split at hread
    · cases hread
    · split at hread
      · split at hread
        · cases hread
        · rename_i u r' hu
          obtain ⟨rfl, rfl⟩ := Prod.mk.inj (Except.ok.inj hread)
          rw [ih hu, List.cons_append]
      · cases hread

theorem mutely_readNumber {n : Nat} {e : EscapeSequence} (hbrace : cs.head? ≠ some '{')
    (hread : readNumber f n cs = .ok (e, r)) : Mutely cs r := by
  unfold readNumber at hread
  rw [Flags.skip_eq_self hshows] at hread
  split at hread
  · cases hread
  · exact absurd rfl hbrace
  · split at hread
    · cases hread
    · rename_i text rest hdigits
      obtain rfl := eq_of_numbered hread
      have hmute : ∀ c, isHexDigit c = true → isMute c = true :=
        fun c => isMute_of (p := isHexDigit) (by decide)
      have htext := forall_isHexDigit_of_readHexDigits hdigits
      exact ⟨text, fun c hc => hmute c (htext c hc), eq_append_of_readHexDigits hshows hdigits⟩

theorem mutely_readProperty {negated : Bool} {e : EscapeSequence} (hbrace : cs.head? ≠ some '{')
    (hread : readProperty f negated cs = .ok (e, r)) : Mutely cs r := by
  unfold readProperty at hread
  rw [Flags.skip_eq_self hshows] at hread
  split at hread
  · cases hread
  · exact absurd rfl hbrace
  · cases hread
  · rename_i d rest _ _
    rw [Flags.skip_eq_self hshows] at hread
    obtain ⟨rfl, q, hq⟩ := eq_of_propertySet hread
    exact ⟨[d], by simpa using isMute_of_loneProperty hq, rfl⟩

/-- A backslash sequence without a brace behind its letter goes on with mute characters. -/
theorem mutely_readEscape {e : EscapeSequence} (hbrace : cs.head? ≠ some '{')
    (hread : readEscape f (c :: cs) = .ok (e, r)) : Mutely cs r := by
  unfold readEscape at hread
  dsimp only at hread
  split at hread
  · cases hread
  · split at hread
    · obtain ⟨-, rfl⟩ := Prod.mk.inj (Except.ok.inj hread)
      exact Mutely.refl cs
    · split at hread
      case h_1 | h_2 | h_3 => exact mutely_readNumber hshows hbrace hread
      case h_4 | h_5 => exact mutely_readProperty hshows hbrace hread
      case h_20 =>
        unfold readWordEdge at hread
        split at hread
        · cases hread
        · rename_i hedge
          obtain ⟨-, rfl⟩ := Prod.mk.inj (Except.ok.inj hread)
          split at hedge
          · exact absurd rfl hbrace
          · obtain ⟨-, rfl⟩ := Prod.mk.inj (Except.ok.inj hedge)
            exact Mutely.refl _
      case h_9 | h_10 | h_11 =>
        split at hread
        · cases hread
        · obtain ⟨-, rfl⟩ := Prod.mk.inj (Except.ok.inj hread)
          exact Mutely.refl cs
      case h_24 => cases hread
      all_goals
        obtain ⟨-, rfl⟩ := Prod.mk.inj (Except.ok.inj hread)
        exact Mutely.refl cs

/-- A scan passes a backslash sequence without braces, if it does not take what follows for the
front of a group. -/
theorem sameFinds_readEscape {e : EscapeSequence} (hbrace : '{' ∉ cs.take (cs.length - r.length))
    (hread : readEscape f (c :: cs) = .ok (e, r)) :
    SameFinds (c = '(' → cs.head? ≠ some '?') ('\\' :: c :: cs) r := by
  have hrest : quantified cs = quantified r := by
    obtain ⟨t, rfl⟩ := (passes_readEscape hread).exists_append
    rw [List.length_append, Nat.add_sub_cancel, List.take_left] at hbrace
    cases t with
    | nil => rfl
    | cons d t =>
      have hhead : (d :: t ++ r).head? ≠ some '{' := by
        intro hd
        obtain rfl := Option.some.inj hd
        exact hbrace List.mem_cons_self
      exact (mutely_readEscape hshows hhead hread).quantified_eq
  constructor
  · rw [quantified_escape, ← hrest]
    exact quantifiedFrom_none
  · intro hfront
    rw [quantified_escape, ← hrest]
    exact quantifiedFrom_eq_none fun hc => hfront (Option.some.inj hc)

end Escapes

theorem isMute_of_isNameChar {b : Bool} (h : isNameChar b c = true) (hc : c ≠ '[') :
    isMute c = true := by
  refine isMute_of (p := fun d => isNameChar b d && d != '[') ?_ ?_
  · cases b <;> decide +kernel
  · simp [h, hc]

/-- A scan passes a name, if that has no opening bracket. -/
theorem sameFinds_readName {first : Bool} (h : readName first cs = .ok (name, r)) :
    SameFinds ('[' ∉ name) cs r := by
  obtain ⟨rfl, hname⟩ := eq_append_of_readName h
  have hclose : quantified ('>' :: r) = quantified r := quantifiedFrom_mute (by decide) none r
  constructor
  · intro h
    rw [← hclose]
    refine quantified_of_append (fun c hc => ?_) rfl h
    obtain ⟨b, hb⟩ := hname c hc
    by_cases hbracket : c = '['
    · subst hbracket
      decide
    · have hmute := isMute_of_isNameChar hb hbracket
      simp only [isMute, Bool.and_eq_true, bne_iff_ne, Bool.not_eq_true'] at hmute
      exact ⟨hmute.1.2, hmute.2⟩
  · intro hbracket
    rw [← hclose]
    apply quantified_append
    intro c hc
    obtain ⟨b, hb⟩ := hname c hc
    apply isMute_of_isNameChar hb
    rintro rfl
    exact hbracket hc

theorem sameFinds_openNamed (h : openNamed st cs = .ok (st', rest)) :
    SameFinds (∀ name ∈ st'.names, '[' ∉ name) cs rest := by
  unfold openNamed at h
  split at h
  · cases h
  · rename_i name after hname
    split at h
    · cases h
    · split at h
      · cases h
      · obtain ⟨rfl, rfl⟩ := Prod.mk.inj (Except.ok.inj h)
        obtain ⟨hsound, hexact⟩ := sameFinds_readName hname
        exact ⟨hsound, fun hnames => hexact (hnames name List.mem_cons_self)⟩

/-- A scan passes the front of a group, if no name has an opening bracket. -/
theorem sameFinds_openGroup (hshows : st.flags.verbose = false)
    (h : openGroup st cs = .ok (st', rest)) :
    SameFinds (∀ name ∈ st'.names, '[' ∉ name) ('(' :: cs) rest := by
  have hfront {t cs : List Char} (ht : ∀ c ∈ t, isMute c = true)
      (hrest : SameFinds (∀ name ∈ st'.names, '[' ∉ name) cs rest) :
      SameFinds (∀ name ∈ st'.names, '[' ∉ name) ('(' :: '?' :: (t ++ cs)) rest := by
    have heq : quantified ('(' :: '?' :: (t ++ cs)) = quantified cs := by
      rw [quantified_front, quantified_append ht]
    exact ⟨fun h => hrest.sound (heq.symm.trans h), fun h => heq.trans (hrest.exact h)⟩
  unfold openGroup at h
  rw [Flags.skip_eq_self hshows] at h
  split at h
  case h_1 | h_2 | h_3 | h_4 | h_7 => cases h
  case h_5 => exact hfront (t := ['P', '<']) (List.all_eq_true.mp (by decide)) (sameFinds_openNamed h)
  case h_6 => exact hfront (t := ['<']) (List.all_eq_true.mp (by decide)) (sameFinds_openNamed h)
  case h_8 after _ _ _ _ _ _ _ =>
    split at h
    · cases h
    · rename_i hflags
      obtain ⟨-, rfl⟩ := Prod.mk.inj (Except.ok.inj h)
      exact hfront (t := []) (by simp) (sameFinds_of_eq (mutely_readFlags hflags).quantified_eq)
    · rename_i hflags
      split at h
      · cases h
      · obtain ⟨-, rfl⟩ := Prod.mk.inj (Except.ok.inj h)
        exact hfront (t := []) (by simp) (sameFinds_of_eq (mutely_readFlags hflags).quantified_eq)
  case h_9 hother =>
    obtain ⟨-, rfl⟩ := Prod.mk.inj (Except.ok.inj h)
    apply sameFinds_of_eq
    apply quantified_capture
    intro hhead
    obtain ⟨tail, rfl⟩ := List.head?_eq_some_iff.mp hhead
    exact hother tail rfl

/-- An item that opens no group, no class and no backslash sequence and repeats nothing is its first
character. -/
theorem eq_rest_of_readItem (hc : isMute c = true) (h : readItem st c cs = .ok (st', rest)) :
    rest = cs := by
  unfold readItem at h
  split at h
  case h_1 | h_4 | h_5 | h_6 | h_7 | h_8 | h_9 => exact absurd hc (by decide)
  case h_2 | h_10 =>
    obtain ⟨next, -, heq⟩ := eq_of_map_eq_ok h
    exact (Prod.mk.inj heq).2.symm
  case h_3 | h_11 | h_12 | h_13 => exact (Prod.mk.inj (Except.ok.inj h)).2.symm

/-- A scan passes a bracketed class that it is meant for. -/
theorem sameFinds_class {condition : Prop} (hsupported : (Stage.mk st ('[' :: cs)).isSupported = true)
    (h : readItem st '[' cs = .ok (st', rest)) : SameFinds condition ('[' :: cs) rest := by
  have hshows := Stage.shows hsupported
  have hflat := Stage.flat hsupported
  obtain ⟨m, hread, -⟩ := exists_readClass h
  rw [Stage.classText_eq (Flags.skip_eq_self hshows _) hread] at hflat
  exact sameFinds_of_eq (quantified_class (staysIn_readClass hshows hflat hread))

/-- A scan passes a backslash sequence that does not mislead it. -/
theorem sameFinds_escape (hshows : st.flags.verbose = false)
    (hbrace : '{' ∉ (Stage.mk st ('\\' :: cs)).escapeText)
    (h : readItem st '\\' cs = .ok (st', rest)) :
    SameFinds ((Stage.mk st ('\\' :: cs)).misleads = false) ('\\' :: cs) rest := by
  obtain ⟨c, after, e, rfl, hread⟩ := exists_readEscape h
  have hshown : (Stage.mk st ('\\' :: c :: after)).shown = '\\' :: c :: after :=
    Flags.skip_eq_self hshows _
  rw [Stage.escapeText_eq hshown hread] at hbrace
  obtain ⟨hsound, hexact⟩ := sameFinds_readEscape hshows hbrace hread
  refine ⟨hsound, fun hmisleads => hexact ?_⟩
  rintro rfl
  exact Stage.head?_of_misleads hmisleads hshown

/-- A scan passes an item that repeats nothing, if it is not misled. -/
theorem sameFinds_readItem (hsupported : (Stage.mk st cs).isSupported = true)
    (hbrace : '{' ∉ (Stage.mk st cs).escapeText) (hshown : st.flags.skip cs = c :: r)
    (hsign : isRepetitionSign c = false) (h : readItem st c r = .ok (st', rest)) :
    SameFinds ((Stage.mk st cs).misleads = false ∧ ∀ name ∈ st'.names, '[' ∉ name) cs rest := by
  have hshows : st.flags.verbose = false := Stage.shows hsupported
  rw [Flags.skip_eq_self hshows] at hshown
  subst hshown
  by_cases hgroup : c = '('
  · subst hgroup
    obtain ⟨hsound, hexact⟩ := sameFinds_openGroup hshows h
    exact ⟨hsound, fun hcondition => hexact hcondition.2⟩
  by_cases hclass : c = '['
  · subst hclass
    exact sameFinds_class hsupported h
  by_cases hbackslash : c = '\\'
  · subst hbackslash
    obtain ⟨hsound, hexact⟩ := sameFinds_escape hshows hbrace h
    exact ⟨hsound, fun hcondition => hexact hcondition.1⟩
  have hmute : isMute c = true := by
    simp [isMute, hgroup, hclass, hbackslash, hsign]
  obtain rfl := eq_rest_of_readItem hmute h
  exact sameFinds_of_eq (quantified_append (t := [c]) (by simpa using hmute) rest)

/-- What a scan finds from a stage on is what it finds behind the next item or what that repeats. -/
theorem found_readItem (hsupported : (Stage.mk st cs).isSupported = true)
    (hbrace : '{' ∉ (Stage.mk st cs).escapeText) (hshown : st.flags.skip cs = c :: r)
    (h : readItem st c r = .ok (st', rest)) :
    ((st.hasRepetition || quantified cs) = true → (st'.hasRepetition || quantified rest) = true) ∧
      ((Stage.mk st cs).misleads = false ∧ (∀ name ∈ st'.names, '[' ∉ name) →
        (st'.hasRepetition || quantified rest) = (st.hasRepetition || quantified cs)) := by
  rw [(becomes_of_readItem h).hasRepetition_eq]
  cases hsign : isRepetitionSign c with
  | true =>
    have hshows : st.flags.verbose = false := Stage.shows hsupported
    rw [Flags.skip_eq_self hshows] at hshown
    simp [hshown, quantified_sign hsign]
  | false =>
    obtain ⟨hsound, hexact⟩ := sameFinds_readItem hsupported hbrace hshown hsign h
    rw [Bool.or_false]
    constructor
    · intro hfound
      rw [Bool.or_eq_true] at hfound ⊢
      exact hfound.imp_right hsound
    · intro hcondition
      rw [hexact hcondition]

/-- What a scan finds has been read as a repetition at the end of a pattern, and if it is not misled,
it finds one if one has been read. -/
theorem quantified_parseFrom (hsupported : ∀ s ∈ stagesFrom st cs, s.isSupported = true)
    (hbraces : ∀ s ∈ stagesFrom st cs, '{' ∉ s.escapeText) (h : parseFrom st cs = .ok st') :
    ((st.hasRepetition || quantified cs) = true → st'.hasRepetition = true) ∧
      ((∀ s ∈ stagesFrom st cs, s.misleads = false) →
        st'.hasRepetition = (st.hasRepetition || quantified cs)) := by
  fun_induction parseFrom st cs with
  | case1 st cs hc =>
    obtain rfl := Except.ok.inj h
    have hshows := Stage.shows (hsupported ⟨st, cs⟩ (mem_stagesFrom st cs))
    rw [Flags.skip_eq_self hshows] at hc
    subst hc
    have hend : (st.hasRepetition || quantified []) = st.hasRepetition := Bool.or_false _
    rw [hend]
    exact ⟨id, fun _ => rfl⟩
  | case2 => cases h
  | case3 st cs c rest hc next rest' hi ih =>
    rw [stagesFrom_cons hc hi] at hsupported hbraces ⊢
    obtain ⟨hsupported, hsupported'⟩ := List.forall_mem_cons.mp hsupported
    obtain ⟨hbrace, hbraces⟩ := List.forall_mem_cons.mp hbraces
    obtain ⟨hstepSound, hstepExact⟩ := found_readItem hsupported hbrace hc hi
    obtain ⟨hsound, hexact⟩ := ih hsupported' hbraces h
    refine ⟨fun hfound => hsound (hstepSound hfound), fun hmisleads => ?_⟩
    obtain ⟨hmisled, hmisleads⟩ := List.forall_mem_cons.mp hmisleads
    have hnames := Stage.names_of_misleads (hmisleads ⟨next, rest'⟩ (mem_stagesFrom next rest'))
    exact (hexact hmisleads).trans (hstepExact ⟨hmisled, hnames⟩)

/-- Where no backslash sequence has braces, a scan finds a quantifier in a pattern only if the
pattern repeats a part, and if it is not misled, exactly then. -/
theorem hasQuantifier_of_isSupported {pattern : String} {caseless : Bool} {regex : Regex}
    (hsupported : ∀ s ∈ stages pattern, s.isSupported = true)
    (hbraces : ∀ s ∈ stages pattern, '{' ∉ s.escapeText)
    (h : Regex.read pattern caseless = .ok regex) :
    (hasQuantifier pattern = true → regex.expr.hasRepetition = true) ∧
      ((∀ s ∈ stages pattern, s.misleads = false) →
        hasQuantifier pattern = regex.expr.hasRepetition) := by
  obtain ⟨base, hbase, hshape⟩ := exists_read_of_read h false
  obtain ⟨st, hparse, hbase⟩ := hasRepetition_of_read hbase
  obtain ⟨hsound, hexact⟩ := quantified_parseFrom hsupported hbraces hparse
  have hregex : regex.expr.hasRepetition = st.hasRepetition := by
    rw [← hbase, ← Expr.hasRepetition_shape, ← hshape, Expr.hasRepetition_shape]
  rw [hregex]
  exact ⟨hsound, fun hmisleads => (hexact hmisleads).symm⟩

/-- Signs behind backslashes and in a class, and a `?` behind the escape of a closing bracket. -/
theorem hasQuantifier_of_isSupported_optional :
    ∃ regex, Regex.read "^(?P<id>[*(]\\.|\\+)(?i:\\)?|\\x3f)$" true = .ok regex ∧
      regex.expr.hasRepetition = true := by
  have hok : (Regex.read "^(?P<id>[*(]\\.|\\+)(?i:\\)?|\\x3f)$" true).isOk = true := by
    decide +kernel
  have hsupported : ∀ s ∈ stages "^(?P<id>[*(]\\.|\\+)(?i:\\)?|\\x3f)$", s.isSupported = true := by
    decide +kernel
  have hbraces : ∀ s ∈ stages "^(?P<id>[*(]\\.|\\+)(?i:\\)?|\\x3f)$", '{' ∉ s.escapeText := by
    decide +kernel
  have hmisleads : ∀ s ∈ stages "^(?P<id>[*(]\\.|\\+)(?i:\\)?|\\x3f)$", s.misleads = false := by
    decide +kernel
  obtain ⟨regex, hregex⟩ := exists_of_isOk hok
  refine ⟨regex, hregex, ?_⟩
  rw [← (hasQuantifier_of_isSupported hsupported hbraces hregex).2 hmisleads]
  decide +kernel

/-- A `?` behind an escaped bracket hides the repetition from a scan, and so does a name with a
bracket. -/
theorem hasQuantifier_misled : ∀ p ∈ ["\\(?", "(?P<a[>x*)"], hasQuantifier p = false ∧
    (∀ s ∈ stages p, s.isSupported = true) ∧ (∀ s ∈ stages p, '{' ∉ s.escapeText) ∧
    (Regex.read p true).toOption.map (·.expr.hasRepetition) = some true := by
  decide +kernel

end PhotoGrouping.PatternScan
