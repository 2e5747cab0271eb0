import PhotoGrouping.Proofs.Regex.ClassShape
import PhotoGrouping.Proofs.Regex.Followed.Escape

namespace PhotoGrouping.Regex

open Text

/-- What the end of a branch does to a reading that has to be read on from: it is left as it is if
the reading stops before the end of the text, and it may do anything if it does not. -/
inductive Enclosed {α : Type} (r : List Char → Reading α) (cs : List Char) : Prop
  | stopped (a : α) (rest : List Char) (own : r cs = .ok (a, rest)) (more : rest ≠ [])
      (all : ∀ tail, EndsBranch tail → r (cs ++ tail) = .ok (a, rest ++ tail))
  | exhausted (a : α) (own : r cs = .ok (a, []))
  | failed (e : ParseError) (own : r cs = .error e)
      (all : ∀ tail, EndsBranch tail → ∃ e', r (cs ++ tail) = .error e')
  | unfinished (e : ParseError) (own : r cs = .error e) (mendable : e.isMendable = true)

section

variable {α β : Type} {like : α → α → Prop} {like' : β → β → Prop} {r r' : List Char → Reading α}
  {k : α → List Char → Reading β} {f : Flags} {cs rest tail : List Char} {c : Char}

theorem Followed.enclosed (h : Followed like r cs) : Enclosed r cs := by
  cases h with
  | closed a rest own all =>
    cases rest with
    | nil => exact .exhausted a own
    | cons c rest => exact .stopped a (c :: rest) own (List.cons_ne_nil c rest) all
  | commented a own bar all => exact .exhausted a own
  | failed e own all => exact .failed e own all
  | unfinished e own mendable => exact .unfinished e own mendable

theorem EndsBranch.ne_cons (htail : EndsBranch tail) (hbar : c ≠ '|') (hparen : c ≠ ')')
    (r : List Char) : tail ≠ c :: r := by
  obtain ⟨d, tail', rfl, rfl | rfl⟩ := htail
  · exact fun heq => hbar (List.cons.inj heq).1.symm
  · exact fun heq => hparen (List.cons.inj heq).1.symm

theorem EndsBranch.append_ne (htail : EndsBranch tail) (hbar : c ≠ '|') (hparen : c ≠ ')')
    (h : ∀ r, rest ≠ c :: r) (r : List Char) : rest ++ tail ≠ c :: r := by
  cases rest with
  | cons d rest =>
    intro heq
    exact h rest (by rw [(List.cons.inj heq).1])
  | nil => exact htail.ne_cons hbar hparen r

namespace Enclosed

theorem of_eq (h : Enclosed r' rest) (own : r cs = r' rest)
    (all : ∀ tail, EndsBranch tail → r (cs ++ tail) = r' (rest ++ tail)) : Enclosed r cs := by
  cases h with
  | stopped a rest' own' more all' =>
    exact .stopped a rest' (own.trans own') more fun tail htail =>
      (all tail htail).trans (all' tail htail)
  | exhausted a own' => exact .exhausted a (own.trans own')
  | failed e own' all' =>
    refine .failed e (own.trans own') fun tail htail => ?_
    rw [all tail htail]
    exact all' tail htail
  | unfinished e own' mendable => exact .unfinished e (own.trans own') mendable

/-- What has to be read on cannot end where the text does. -/
theorem thenRead (h : Enclosed r cs)
    (hk : ∀ a rest, r cs = .ok (a, rest) → rest ≠ [] → Followed like' (k a) rest)
    (hend : ∀ a, ∃ e, k a [] = .error e ∧ e.isMendable = true) :
    Followed like' (fun cs => (r cs).thenRead k) cs := by
  cases h with
  | stopped a rest own more all =>
    refine (hk a rest own more).of_eq (by rw [own]; rfl) fun tail htail => ?_
    rw [all tail htail]
    rfl
  | exhausted a own =>
    obtain ⟨e, he, hmendable⟩ := hend a
    exact .unfinished e (by rw [own]; exact he) hmendable
  | failed e own all =>
    refine .failed e (by rw [own]; rfl) fun tail htail => ?_
    obtain ⟨e', he⟩ := all tail htail
    exact ⟨e', by rw [he]; rfl⟩
  | unfinished e own mendable => exact .unfinished e (by rw [own]; rfl) mendable

end Enclosed

theorem followed_readClassAtom (f : Flags) (c : Char) (cs : List Char) :
    Followed Eq (readClassAtom f c) cs := by
  cases hc : c == '\\' with
  | true =>
    refine (followed_readEscape f cs).of_eq ?_ fun tail _ => ?_
    · rw [readClassAtom, if_pos hc]
    · rw [readClassAtom, if_pos hc]
  | false =>
    refine (Followed.const (.ok (.literal c)) cs).of_eq ?_ fun tail _ => ?_
    · rw [readClassAtom, if_neg (by simp [hc])]
      rfl
    · rw [readClassAtom, if_neg (by simp [hc])]
      rfl

/-- Whether a `-` is a member of its own, as a bracket or a `-` follows. -/
def isLoneDash (f : Flags) (after : List Char) : Bool :=
  visibleAfterDash f after == some ']' || visibleAfterDash f after == some '-'

/-- What has been read at the front, as a range or as a single member. -/
def readFrom (f : Flags) (lo : EscapeSequence) (rest : List Char) : Reading CharClass :=
  match f.skip rest with
  | [] => .error .unclosedClass
  | '-' :: after =>
    if isLoneDash f after then (classAtomSet f lo).map (·, '-' :: after)
    else match f.skip after with
      | [] => .error .unclosedClass
      | d :: rest =>
        (readClassAtom f d rest).thenRead fun hi rest => (classRange f lo hi).map (·, rest)
  | rest => (classAtomSet f lo).map (·, rest)

theorem readFrom_nil {lo : EscapeSequence} (h : f.skip cs = []) :
    readFrom f lo cs = .error .unclosedClass := by
  simp only [readFrom, h]

theorem readFrom_dash {lo : EscapeSequence} (h : f.skip cs = '-' :: rest) :
    readFrom f lo cs =
      if isLoneDash f rest then (classAtomSet f lo).map (·, '-' :: rest)
      else match f.skip rest with
        | [] => .error .unclosedClass
        | d :: rest =>
          (readClassAtom f d rest).thenRead fun hi rest => (classRange f lo hi).map (·, rest) := by
  simp only [readFrom, h]

theorem readFrom_single {lo : EscapeSequence} (h : f.skip cs = c :: rest) (hc : c ≠ '-') :
    readFrom f lo cs = (classAtomSet f lo).map (·, c :: rest) := by
  unfold readFrom
  rw [h]
  split
  · cases ‹_ = []›
  · exact absurd (List.cons.inj ‹_›).1 hc
  · rfl

theorem readMember_eq (f : Flags) (c : Char) (cs : List Char) :
    readMember f c cs = (readClassAtom f c cs).thenRead (readFrom f) := by
  unfold readMember
  cases readClassAtom f c cs with
  | error e => rfl
  | ok x =>
    dsimp only [Reading.thenRead]
    split
    · rename_i hs
      exact (readFrom_nil hs).symm
    · rename_i after hs
      rw [readFrom_dash hs, isLoneDash]
      split
      · rfl
      · cases f.skip after with
        | nil => rfl
        | cons d rest =>
          dsimp only
          cases readClassAtom f d rest <;> rfl
    · rename_i hnil hdash
      cases hs : f.skip x.2 with
      | nil => exact absurd hs hnil
      | cons d rest =>
        exact (readFrom_single hs fun hd => hdash rest (by rw [hs, hd])).symm

/-- The text after blanks and the sign of a comment. -/
def shownText (cs : List Char) : List Char :=
  let shown := cs.dropWhile isBlank
  match shown with
  | '#' :: rest => rest.dropWhile isBlank
  | _ => shown

/-- Whether a character shown after a `-` makes that stand for itself. -/
def closesDash (c : Option Char) : Bool :=
  c == some ']' || c == some '-'

theorem EndsBranch.closesDash_head? (h : EndsBranch tail) : closesDash tail.head? = false := by
  obtain ⟨c, cs, rfl, rfl | rfl⟩ := h
  · rfl
  · rfl

theorem visibleAfterDash_verbose (h : f.verbose = true) (cs : List Char) :
    visibleAfterDash f cs = ((shownText cs).head? <|> cs.head?) := by
  rw [visibleAfterDash, if_pos h]
  rfl

theorem head?_shownText_append (htail : EndsBranch tail) (cs : List Char) :
    (shownText (cs ++ tail)).head? = ((shownText cs).head? <|> tail.head?) := by
  unfold shownText
  rw [htail.dropWhile_append]
  cases cs.dropWhile isBlank with
  | nil =>
    obtain ⟨c, cs', rfl, rfl | rfl⟩ := htail
    · rfl
    · rfl
  | cons c rest =>
    by_cases hc : c = '#'
    · subst hc
      change ((rest ++ tail).dropWhile isBlank).head? = ((rest.dropWhile isBlank).head? <|> tail.head?)
      rw [htail.dropWhile_append]
      cases rest.dropWhile isBlank <;> rfl
    · dsimp only [List.cons_append]
      split
      · exact absurd (List.cons.inj ‹_›).1 hc
      · split
        · exact absurd (List.cons.inj ‹_›).1 hc
        · rfl

/-- A text that shows nothing begins with a blank or a comment, if at all. -/
theorem closesDash_head?_of_shownText (h : shownText cs = []) : closesDash cs.head? = false := by
  cases cs with
  | nil => rfl
  | cons c cs =>
    cases hclose : closesDash (c :: cs).head? with
    | false => rfl
    | true =>
      simp only [closesDash, List.head?_cons, Bool.or_eq_true, beq_iff_eq, Option.some.injEq] at hclose
      obtain rfl | rfl := hclose
      · cases h
      · cases h

/-- The end of a branch is neither a bracket nor a `-`. -/
theorem isLoneDash_append (htail : EndsBranch tail) (f : Flags) (cs : List Char) :
    isLoneDash f (cs ++ tail) = isLoneDash f cs := by
  change closesDash (visibleAfterDash f (cs ++ tail)) = closesDash (visibleAfterDash f cs)
  have hcloses := htail.closesDash_head?
  cases hv : f.verbose with
  | false =>
    have hhead : ∀ cs, visibleAfterDash f cs = cs.head? := fun cs => by
      rw [visibleAfterDash, hv, if_neg Bool.false_ne_true]
    rw [hhead, hhead, List.head?_append]
    cases cs with
    | nil => exact hcloses
    | cons c cs => rfl
  | true =>
    rw [visibleAfterDash_verbose hv, visibleAfterDash_verbose hv, head?_shownText_append htail]
    cases hs : shownText cs with
    | nil =>
      obtain ⟨c, tail', rfl, -⟩ := htail
      change closesDash (some c) = closesDash cs.head?
      rw [closesDash_head?_of_shownText hs]
      exact hcloses
    | cons c rest => rfl

theorem followed_readFrom (f : Flags) (lo : EscapeSequence) (cs : List Char) :
    Followed Eq (readFrom f lo) cs := by
  cases hs : f.skip cs with
  | nil => exact .unfinished .unclosedClass (readFrom_nil hs) rfl
  | cons c rest =>
    have hs' := Flags.skip_append_of_cons hs
    by_cases hc : c = '-'
    · subst hc
      cases hlone : isLoneDash f rest with
      | true =>
        refine (Followed.const (classAtomSet f lo) ('-' :: rest)).of_eq ?_ fun tail htail => ?_
        · rw [readFrom_dash hs, hlone, if_pos rfl]
        · rw [readFrom_dash (hs' tail), isLoneDash_append htail, hlone, if_pos rfl]
          rfl
      | false =>
        cases hafter : f.skip rest with
        | nil =>
          refine .unfinished .unclosedClass ?_ rfl
          rw [readFrom_dash hs, hlone, if_neg Bool.false_ne_true, hafter]
        | cons d rest' =>
          have hrange := (followed_readClassAtom f d rest').thenTry (classRange f lo)
          refine hrange.of_eq ?_ fun tail htail => ?_
          · rw [readFrom_dash hs, hlone, if_neg Bool.false_ne_true, hafter]
          · rw [readFrom_dash (hs' tail), isLoneDash_append htail, hlone,
              if_neg Bool.false_ne_true, Flags.skip_append_of_cons hafter]
    · refine (Followed.const (classAtomSet f lo) (c :: rest)).of_eq (readFrom_single hs hc) ?_
      intro tail _
      exact readFrom_single (hs' tail) hc

theorem followed_readMember (f : Flags) (c : Char) (cs : List Char) :
    Followed Eq (readMember f c) cs := by
  rw [funext (readMember_eq f c)]
  exact (followed_readClassAtom f c cs).enclosed.thenRead
    (fun lo rest _ _ => followed_readFrom f lo rest)
    fun lo => ⟨.unclosedClass, readFrom_nil f.skip_nil, rfl⟩

theorem not_mem_of_asciiClass? {name : List Char} {s : CharClass}
    (h : asciiClass? (String.ofList name) = some s) : '|' ∉ name ∧ ')' ∉ name := by
  have hlower := isLower_of_asciiClass? h
  exact ⟨fun hbar => absurd (hlower '|' hbar) (by decide),
    fun hparen => absurd (hlower ')' hparen) (by decide)⟩

/-- A class with a name, whether or not it is denied, after what tells that. -/
def namedClassAt? (negated : Bool) (cs : List Char) : Option (Bool × CharClass × List Char) :=
  match cs.dropWhile (· != ':') with
  | ':' :: ']' :: rest =>
    (asciiClass? (String.ofList (cs.takeWhile (· != ':')))).map (negated, ·, rest)
  | _ => none

theorem asciiClassAt?_name (h : ∀ cs', cs ≠ '^' :: cs') :
    asciiClassAt? (':' :: cs) = namedClassAt? false cs := by
  simp only [asciiClassAt?]
  rfl

theorem asciiClassAt?_other (h : ∀ cs', cs ≠ ':' :: cs') : asciiClassAt? cs = none := by
  simp only [asciiClassAt?]

/-- A name of a class does not reach over the end of a branch. -/
theorem namedClassAt?_append (htail : EndsBranch tail) (negated : Bool) (cs : List Char) :
    namedClassAt? negated (cs ++ tail) =
      (namedClassAt? negated cs).map fun x => (x.1, x.2.1, x.2.2 ++ tail) := by
  have hlength := congrArg List.length (List.takeWhile_append_dropWhile (p := (· != ':')) (l := cs))
  rw [List.length_append] at hlength
  unfold namedClassAt?
  rw [List.dropWhile_append, List.takeWhile_append]
  cases hd : cs.dropWhile (· != ':') with
  | nil =>
    rw [hd, List.length_nil, Nat.add_zero] at hlength
    rw [if_pos hlength, List.isEmpty_nil, if_pos rfl]
    have hname : asciiClass? (String.ofList (cs ++ tail.takeWhile (· != ':'))) = none := by
      obtain ⟨c, tail', rfl, hc⟩ := htail
      cases hs : asciiClass? (String.ofList (cs ++ (c :: tail').takeWhile (· != ':'))) with
      | none => rfl
      | some s =>
        obtain ⟨hbar, hparen⟩ := not_mem_of_asciiClass? hs
        obtain rfl | rfl := hc
        · exact absurd (List.mem_append_right cs List.mem_cons_self) hbar
        · exact absurd (List.mem_append_right cs List.mem_cons_self) hparen
    rw [hname]
    split <;> rfl
  | cons d rest =>
    have hshort : (cs.takeWhile (· != ':')).length ≠ cs.length := by
      rw [hd, List.length_cons] at hlength
      omega
    rw [if_neg hshort, List.isEmpty_cons, if_neg Bool.false_ne_true]
    by_cases hclose : ∃ rest', d :: rest = ':' :: ']' :: rest'
    · obtain ⟨rest', hclose⟩ := hclose
      rw [hclose]
      cases asciiClass? (String.ofList (cs.takeWhile (· != ':'))) <;> rfl
    · split
      · rename_i rest' heq
        have hne : ∀ r, rest ≠ ']' :: r := by
          rintro r rfl
          exact hclose ⟨r, by rw [(List.cons.inj heq).1]⟩
        exact absurd (List.cons.inj heq).2 (htail.append_ne (by decide) (by decide) hne rest')
      · split
        · exact absurd ⟨_, ‹_›⟩ hclose
        · rfl

theorem asciiClassAt?_append (htail : EndsBranch tail) (cs : List Char) :
    asciiClassAt? (cs ++ tail) =
      (asciiClassAt? cs).map fun x => (x.1, x.2.1, x.2.2 ++ tail) := by
  have hother : ∀ d, (d = ':' ∨ d = '^') → ∀ cs', tail ≠ d :: cs' := by
    obtain ⟨c, tail', rfl, rfl | rfl⟩ := htail
    · rintro d (rfl | rfl) cs' heq <;> cases heq
    · rintro d (rfl | rfl) cs' heq <;> cases heq
  cases cs with
  | nil =>
    rw [List.nil_append, asciiClassAt?_other (hother ':' (Or.inl rfl)), asciiClassAt?_other (by simp)]
    rfl
  | cons c cs =>
    by_cases hc : c = ':'
    · subst hc
      cases cs with
      | nil =>
        rw [List.cons_append, List.nil_append, asciiClassAt?_name (hother '^' (Or.inr rfl)),
          asciiClassAt?_name (by simp)]
        exact namedClassAt?_append htail false []
      | cons d cs =>
        by_cases hd : d = '^'
        · subst hd
          exact namedClassAt?_append htail true cs
        · rw [List.cons_append, List.cons_append, asciiClassAt?_name (by simp [hd]),
            asciiClassAt?_name (by simp [hd])]
          exact namedClassAt?_append htail false (d :: cs)
    · rw [asciiClassAt?_other (by simp [hc]), asciiClassAt?_other (by simp [hc])]
      rfl

theorem readDashes_append {l : ClassLevel} (h : (readDashes f l cs).2 ≠ []) (tail : List Char) :
    readDashes f l (cs ++ tail) = ((readDashes f l cs).1, (readDashes f l cs).2 ++ tail) := by
  fun_induction readDashes f l cs with
  | case1 l rest ih =>
    rw [List.cons_append, readDashes]
    cases hs : f.skip rest with
    | nil =>
      rw [hs, readDashes] at h
      · exact absurd rfl h
      · simp
    | cons c rest' =>
      rw [hs] at h ih
      rw [Flags.skip_append_of_cons hs]
      exact ih h
  | case2 l cs hdash =>
    cases cs with
    | nil => exact absurd rfl h
    | cons c cs =>
      rw [List.cons_append, readDashes]
      rintro rest heq
      exact hdash cs (by rw [(List.cons.inj heq).1])

/-- The front of a bracket after what tells whether it is negated. -/
def bracketFrom (f : Flags) (negated : Bool) (cs : List Char) : ClassLevel × List Char :=
  match readDashes f ⟨negated, none, []⟩ cs with
  | (l, cs) =>
    match l.members, cs with
    | [], ']' :: cs => (l.add ⟨.single ']', 0⟩, cs)
    | _, _ => (l, cs)

theorem openBracket_caret (h : f.skip cs = '^' :: rest) :
    openBracket f cs = bracketFrom f true (f.skip rest) := by
  simp only [openBracket, h]
  rfl

theorem openBracket_other (h : ∀ rest, f.skip cs ≠ '^' :: rest) :
    openBracket f cs = bracketFrom f false (f.skip cs) := by
  simp only [openBracket]
  rfl

theorem readDashes_nil (f : Flags) (l : ClassLevel) : readDashes f l [] = (l, []) := by
  rw [readDashes]
  simp

theorem bracketFrom_nil (f : Flags) (negated : Bool) : (bracketFrom f negated []).2 = [] := by
  simp [bracketFrom, readDashes_nil]

theorem bracketFrom_append {negated : Bool} (h : (bracketFrom f negated cs).2 ≠ [])
    (tail : List Char) :
    bracketFrom f negated (cs ++ tail) =
      ((bracketFrom f negated cs).1, (bracketFrom f negated cs).2 ++ tail) := by
  have happend (h : (readDashes f ⟨negated, none, []⟩ cs).2 ≠ []) := readDashes_append h tail
  unfold bracketFrom at h ⊢
  cases hd : readDashes f ⟨negated, none, []⟩ cs with
  | mk l rest =>
    rw [hd] at happend h
    cases rest with
    | nil => exact absurd (by simp) h
    | cons c rest =>
      rw [happend (List.cons_ne_nil c rest)]
      dsimp only
      cases l.members with
      | cons m ms => rfl
      | nil =>
        by_cases hc : c = ']'
        · subst hc
          rfl
        · simp only [List.cons_append]
          split
          · exact absurd (List.cons.inj ‹_›).1 hc
          · split
            · exact absurd (List.cons.inj ‹_›).1 hc
            · rfl

theorem openBracket_append (h : (openBracket f cs).2 ≠ []) (tail : List Char) :
    openBracket f (cs ++ tail) = ((openBracket f cs).1, (openBracket f cs).2 ++ tail) := by
  by_cases hcaret : ∃ rest, f.skip cs = '^' :: rest
  · obtain ⟨rest, hs⟩ := hcaret
    rw [openBracket_caret hs] at h ⊢
    rw [openBracket_caret (Flags.skip_append_of_cons hs tail)]
    cases hr : f.skip rest with
    | nil =>
      rw [hr, bracketFrom_nil] at h
      exact absurd rfl h
    | cons c rest' =>
      rw [hr] at h
      rw [Flags.skip_append_of_cons hr, ← List.cons_append, bracketFrom_append h]
  · rw [openBracket_other (not_exists.mp hcaret)] at h ⊢
    cases hs : f.skip cs with
    | nil =>
      rw [hs, bracketFrom_nil] at h
      exact absurd rfl h
    | cons c rest =>
      have hs' := Flags.skip_append_of_cons hs tail
      have hcaret' : ∀ rest', f.skip (cs ++ tail) ≠ '^' :: rest' := by
        intro rest' heq
        rw [hs'] at heq
        exact hcaret ⟨rest, by rw [hs, (List.cons.inj heq).1]⟩
      rw [hs] at h
      rw [openBracket_other hcaret', hs', ← List.cons_append, bracketFrom_append h]

theorem readClassBody_nil (f : Flags) (l : ClassLevel) (outer : List ClassLevel) :
    readClassBody f l outer [] = .error .unclosedClass := by
  rw [readClassBody_eq, f.skip_nil]

/-- Whether a character begins a member of a bracket: it is no bracket and no operation. -/
def BeginsMember (c : Char) (rest : List Char) : Prop :=
  c ≠ '[' ∧ c ≠ ']' ∧ (∀ r, c = '&' → rest ≠ '&' :: r) ∧ (∀ r, c = '-' → rest ≠ '-' :: r) ∧
    ∀ r, c = '~' → rest ≠ '~' :: r

theorem BeginsMember.append (h : BeginsMember c rest) (htail : EndsBranch tail) :
    BeginsMember c (rest ++ tail) := by
  obtain ⟨hopen, hclose, hand, hminus, htilde⟩ := h
  refine ⟨hopen, hclose, fun r hc => ?_, fun r hc => ?_, fun r hc => ?_⟩
  · exact htail.append_ne (by decide) (by decide) (fun r => hand r hc) r
  · exact htail.append_ne (by decide) (by decide) (fun r => hminus r hc) r
  · exact htail.append_ne (by decide) (by decide) (fun r => htilde r hc) r

theorem readClassBody_of_beginsMember {l : ClassLevel} {outer : List ClassLevel}
    (hs : f.skip cs = c :: rest) (h : BeginsMember c rest) :
    readClassBody f l outer cs =
      (readMember f c rest).thenRead fun s rest => readClassBody f (l.add ⟨s, 0⟩) outer rest := by
  obtain ⟨hopen, hclose, hand, hminus, htilde⟩ := h
  rw [readClassBody_eq f l outer, hs]
  split
  case h_1 heq => cases heq
  case h_2 heq => exact absurd (List.cons.inj heq).1 hopen
  case h_3 heq => exact absurd (List.cons.inj heq).1 hclose
  case h_4 heq => exact absurd (List.cons.inj heq).2 (hand _ (List.cons.inj heq).1)
  case h_5 heq => exact absurd (List.cons.inj heq).2 (hminus _ (List.cons.inj heq).1)
  case h_6 heq => exact absurd (List.cons.inj heq).2 (htilde _ (List.cons.inj heq).1)
  case h_7 heq =>
    obtain ⟨rfl, rfl⟩ := List.cons.inj heq
    cases readMember f c rest <;> rfl

/-- A member must be followed by more of the bracket. -/
theorem followed_member {l : ClassLevel} {outer : List ClassLevel} (hs : f.skip cs = c :: rest)
    (h : BeginsMember c rest)
    (hnext : ∀ s rest', readMember f c rest = .ok (s, rest') →
      Followed Eq (readClassBody f (l.add ⟨s, 0⟩) outer) rest') :
    Followed Eq (readClassBody f l outer) cs := by
  have hmember := (followed_readMember f c rest).enclosed.thenRead
    (k := fun s rest => readClassBody f (l.add ⟨s, 0⟩) outer rest)
    (fun s rest' hm _ => hnext s rest' hm) fun s => ⟨.unclosedClass, readClassBody_nil f _ outer, rfl⟩
  refine hmember.of_eq (readClassBody_of_beginsMember hs h) fun tail htail => ?_
  exact readClassBody_of_beginsMember (Flags.skip_append_of_cons hs tail) (h.append htail)

/-- A bracket that is closed in the text is read alike with the end of a branch behind it. -/
theorem followed_readClassBody (f : Flags) (l : ClassLevel) (outer : List ClassLevel)
    (cs : List Char) : Followed Eq (readClassBody f l outer) cs := by
  fun_induction readClassBody f l outer cs with
  | case1 l outer cs hc => exact .unfinished .unclosedClass (by rw [readClassBody_eq, hc]) rfl
  | case2 l outer cs rest hc negated s rest' ha e hn =>
    refine .failed e (by simp only [readClassBody_eq f l, hc, ha, hn]) fun tail htail => ⟨e, ?_⟩
    simp only [readClassBody_eq f l, Flags.skip_append_of_cons hc, asciiClassAt?_append htail, ha,
      Option.map_some, hn]
  | case3 l outer cs rest hc negated s rest' ha s' hn ih =>
    refine ih.of_eq (by simp only [readClassBody_eq f l outer, hc, ha, hn]) fun tail htail => ?_
    simp only [readClassBody_eq f l outer, Flags.skip_append_of_cons hc, asciiClassAt?_append htail,
      ha, Option.map_some, hn]
  | case4 l outer cs rest hc ha ih =>
    by_cases hmore : (openBracket f rest).2 = []
    · refine .unfinished .unclosedClass ?_ rfl
      simp only [readClassBody_eq f l, hc, ha, hmore, readClassBody_nil]
    · refine ih.of_eq (by simp only [readClassBody_eq f l, hc, ha]) fun tail htail => ?_
      simp only [readClassBody_eq f l, Flags.skip_append_of_cons hc, asciiClassAt?_append htail, ha,
        Option.map_none, openBracket_append hmore]
  | case5 l outer cs rest hc e he =>
    refine .failed e (by simp only [readClassBody_eq f l, hc, he]) fun tail htail => ⟨e, ?_⟩
    simp only [readClassBody_eq f l, Flags.skip_append_of_cons hc, he]
  | case6 l cs rest hc m hm =>
    refine .closed m rest (by simp only [readClassBody_eq f l, hc, hm]) fun tail _ => ?_
    simp only [readClassBody_eq f l, Flags.skip_append_of_cons hc, hm]
  | case7 l cs rest hc m hm o outer ih =>
    refine ih.of_eq (by simp only [readClassBody_eq f l, hc, hm]) fun tail _ => ?_
    simp only [readClassBody_eq f l, Flags.skip_append_of_cons hc, hm]
  | case8 l outer cs rest hc ih | case9 l outer cs rest hc ih | case10 l outer cs rest hc ih =>
    refine ih.of_eq (by simp only [readClassBody_eq f l outer, hc]) fun tail _ => ?_
    simp only [readClassBody_eq f l outer, Flags.skip_append_of_cons hc, List.cons_append]
  | case11 l outer cs c rest hopen hclose hand hminus htilde hc e hm =>
    refine followed_member hc ⟨hopen, hclose, hand, hminus, htilde⟩ fun s rest' hm' => ?_
    rw [hm] at hm'
    cases hm'
  | case12 l outer cs c rest hopen hclose hand hminus htilde hc s rest' hm ih =>
    refine followed_member hc ⟨hopen, hclose, hand, hminus, htilde⟩ fun s' rest'' hm' => ?_
    rw [hm] at hm'
    cases hm'
    exact ih

theorem followed_readClass (f : Flags) (cs : List Char) : Followed Eq (readClass f) cs := by
  cases hb : (openBracket f cs).2 with
  | nil =>
    refine .unfinished .unclosedClass ?_ rfl
    rw [readClass, hb, readClassBody_nil]
  | cons c rest =>
    have hmore : (openBracket f cs).2 ≠ [] := by
      rw [hb]
      exact List.cons_ne_nil c rest
    refine (followed_readClassBody f (openBracket f cs).1 [] (openBracket f cs).2).of_eq rfl ?_
    intro tail _
    rw [readClass, openBracket_append hmore]

end

end PhotoGrouping.Regex
