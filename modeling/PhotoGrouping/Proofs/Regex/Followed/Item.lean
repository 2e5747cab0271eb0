import PhotoGrouping.Proofs.Regex.Followed.Bracket
import PhotoGrouping.Proofs.Regex.Shape
import PhotoGrouping.Proofs.Regex.Steps

namespace PhotoGrouping.Regex

open Text

section

variable {α : Type} {f : Flags} {cs rest tail : List Char} {c : Char}
  {st : ParseState}

theorem foldl_decimal_le (digits : List Char) (n : Nat) :
    n ≤ digits.foldl (fun n c => n * 10 + (c.toNat - 48)) n := by
  induction digits generalizing n with
  | nil => exact Nat.le_refl n
  | cons c digits ih =>
    rw [List.foldl_cons]
    exact Nat.le_trans (by omega) (ih _)

/-- Further digits make a number no smaller. -/
theorem decimalValue_le_append (digits more : List Char) :
    decimalValue digits ≤ decimalValue (digits ++ more) := by
  rw [decimalValue, decimalValue, List.foldl_append]
  exact foldl_decimal_le more _

theorem readWhile_of_skip {p : Char → Bool} (h : f.skip (c :: cs) = c :: cs) :
    readWhile f p false (c :: cs) =
      if p c then (c :: (readWhile f p false cs).1, (readWhile f p false cs).2) else ([], c :: cs) := by
  rw [readWhile]
  cases hv : f.verbose with
  | false => simp
  | true =>
    obtain ⟨hblank, hsign⟩ := Flags.visible_of_skip h hv
    simp [hblank, hsign]

theorem skip_dropWhile (h : f.skip cs = cs) :
    f.skip (cs.dropWhile isBlank) = cs.dropWhile isBlank := by
  cases hv : f.verbose with
  | false => rw [Flags.skip_eq_self hv]
  | true =>
    cases cs with
    | nil => exact h
    | cons c cs => rw [List.dropWhile_cons, (Flags.visible_of_skip h hv).1, if_neg Bool.false_ne_true, h]

/-- There are no digits where a branch ends. -/
theorem EndsBranch.readWhile_digits (h : EndsBranch tail) (f : Flags) :
    readWhile f Char.isDigit false tail = ([], tail) := by
  have hskip := h.skip f
  obtain ⟨c, cs, rfl, rfl | rfl⟩ := h
  · exact readWhile_of_skip hskip
  · exact readWhile_of_skip hskip

/-- Where nothing is hidden, only the empty text is read to its end without a character read. -/
theorem eq_nil_of_readWhile {p : Char → Bool} (hs : f.skip cs = cs)
    (h : readWhile f p false cs = ([], [])) : cs = [] := by
  cases cs with
  | nil => rfl
  | cons c cs =>
    rw [readWhile_of_skip hs] at h
    split at h
    · cases (Prod.mk.inj h).1
    · cases (Prod.mk.inj h).2

/-- A count is none or too large whatever follows it. -/
theorem countOf_append {e : ParseError} {digits : List Char} (hsome : digits ≠ [])
    (h : countOf digits = .error e) (more : List Char) : countOf (digits ++ more) = .error e := by
  rw [countOf, if_neg (by simpa using hsome)] at h
  split at h
  · rename_i hlarge
    rw [countOf, if_neg (by simp [hsome]), ← h,
      if_pos (Nat.le_trans hlarge (decimalValue_le_append digits more))]
  · cases h

theorem readCount_eq (f : Flags) (cs : List Char) :
    readCount f cs =
      (countOf (readWhile f Char.isDigit false (cs.dropWhile isBlank)).1,
        f.skip ((readWhile f Char.isDigit false (cs.dropWhile isBlank)).2.dropWhile isBlank)) := rfl

/-- A count that ends before the text does is read alike with the end of a branch behind it. -/
theorem readCount_append (hmore : (readCount f cs).2 ≠ []) (htail : EndsBranch tail) :
    readCount f (cs ++ tail) = ((readCount f cs).1, (readCount f cs).2 ++ tail) := by
  obtain hstop | ⟨hnil, -⟩ := readWhile_append f Char.isDigit false (cs.dropWhile isBlank)
  · obtain ⟨c, rest, hc⟩ := List.exists_cons_of_ne_nil hmore
    rw [readCount_eq] at hc
    rw [readCount_eq, htail.dropWhile_append, hstop, readCount_eq, hc, htail.dropWhile_append,
      Flags.skip_append_of_cons hc, List.cons_append]
  · rw [readCount_eq, hnil, List.dropWhile_nil, f.skip_nil] at hmore
    exact absurd rfl hmore

/-- Where there is no count, the end of a branch behind the text does not make one. -/
theorem readCount_error_append {e : ParseError} (hs : f.skip cs = cs)
    (h : (readCount f cs).1 = .error e) (htail : EndsBranch tail) :
    (readCount f (cs ++ tail)).1 = .error e := by
  rw [readCount_eq] at h
  rw [readCount_eq, htail.dropWhile_append]
  obtain hstop | ⟨hnil, b, hall⟩ := readWhile_append f Char.isDigit false (cs.dropWhile isBlank)
  · rw [hstop]
    exact h
  · -- The digits may go on behind a comment, which makes the count no smaller.
    by_cases hsome : (readWhile f Char.isDigit false (cs.dropWhile isBlank)).1 = []
    · have hempty := eq_nil_of_readWhile (skip_dropWhile hs) (Prod.ext hsome hnil)
      rw [hsome] at h
      rw [hempty, List.nil_append, htail.readWhile_digits]
      exact h
    · rw [hall]
      exact countOf_append hsome h _

theorem followed_closeBounds {like : Nat × Option Nat → Nat × Option Nat → Prop} (least : Nat)
    (most : Option Nat) (cs : List Char) : Followed like (closeBounds least most) cs := by
  cases cs with
  | nil => exact .unfinished .unclosedCount rfl rfl
  | cons c rest =>
    refine .of_before fun tail _ => ?_
    rw [List.cons_append, closeBounds, closeBounds]
    split
    · split <;> rfl
    · rfl

theorem readUpper_of_error {least : Nat} {e : ParseError} (h : (readCount f cs).1 = .error e) :
    readUpper f least cs = .error e := by
  unfold readUpper
  split
  · rename_i hcount
    rw [hcount] at h
    rw [Except.error.inj h]
  · rename_i hcount
    rw [hcount] at h
    cases h

theorem readUpper_of_ok {least most : Nat} (h : (readCount f cs).1 = .ok most) :
    readUpper f least cs = closeBounds least (some most) (readCount f cs).2 := by
  unfold readUpper
  split
  · rename_i hcount
    rw [hcount] at h
    cases h
  · rename_i hcount
    rw [hcount] at h ⊢
    rw [Except.ok.inj h]

theorem followed_readUpper {like : Nat × Option Nat → Nat × Option Nat → Prop} (least : Nat)
    (hs : f.skip cs = cs) : Followed like (readUpper f least) cs := by
  cases hcount : (readCount f cs).1 with
  | error e =>
    refine .failed e (readUpper_of_error hcount) fun tail htail => ⟨e, ?_⟩
    exact readUpper_of_error (readCount_error_append hs hcount htail)
  | ok most =>
    by_cases hnil : (readCount f cs).2 = []
    · refine .unfinished .unclosedCount ?_ rfl
      rw [readUpper_of_ok hcount, hnil, closeBounds]
    · refine (followed_closeBounds least (some most) (readCount f cs).2).of_eq ?_ fun tail htail => ?_
      · exact readUpper_of_ok hcount
      · have hmore := readCount_append hnil htail
        rw [readUpper_of_ok (by rw [hmore, hcount]), hmore]

theorem followed_readMost {like : Nat × Option Nat → Nat × Option Nat → Prop} (f : Flags)
    (least : Except ParseError Nat) (cs : List Char) : Followed like (readMost f least) cs := by
  cases cs with
  | nil => exact .unfinished .unclosedCount rfl rfl
  | cons c rest =>
    cases hcomma : c == ',' with
    | false =>
      cases least with
      | error e =>
        refine .failed e (by simp [readMost, hcomma]) fun tail _ => ⟨e, ?_⟩
        simp [readMost, hcomma]
      | ok least =>
        refine (followed_closeBounds least (some least) (c :: rest)).of_eq ?_ fun tail _ => ?_
        · simp [readMost, hcomma]
        · simp [readMost, hcomma]
    | true =>
      cases hs : f.skip rest with
      | nil => exact .unfinished .unclosedCount (by simp [readMost, hcomma, hs]) rfl
      | cons d rest' =>
        have hs' := Flags.skip_append_of_cons hs
        cases least with
        | error e =>
          refine .failed e (by simp [readMost, hcomma, hs]) fun tail _ => ⟨e, ?_⟩
          simp [readMost, hcomma, hs']
        | ok least =>
          cases hclose : d == '}' with
          | true =>
            refine (followed_closeBounds least none (d :: rest')).of_eq ?_ fun tail _ => ?_
            · simp [readMost, hcomma, hs, hclose]
            · simp [readMost, hcomma, hs', hclose]
          | false =>
            have hshown : f.skip (d :: rest') = d :: rest' := by rw [← hs, f.skip_skip]
            refine (followed_readUpper least hshown).of_eq ?_ fun tail _ => ?_
            · simp [readMost, hcomma, hs, hclose]
            · simp [readMost, hcomma, hs', hclose]

theorem followed_readBounds {like : Nat × Option Nat → Nat × Option Nat → Prop} (f : Flags)
    (cs : List Char) : Followed like (readBounds f) cs := by
  cases hs : f.skip cs with
  | nil => exact .unfinished .unclosedCount (by simp only [readBounds, hs]) rfl
  | cons c rest =>
    by_cases hnil : (readCount f (c :: rest)).2 = []
    · refine .unfinished .unclosedCount ?_ rfl
      simp only [readBounds, hs, hnil, readMost]
    · refine (followed_readMost f (readCount f (c :: rest)).1 (readCount f (c :: rest)).2).of_eq ?_ ?_
      · simp only [readBounds, hs]
      · intro tail htail
        have hcount := readCount_append hnil htail
        rw [List.cons_append] at hcount
        simp only [readBounds, Flags.skip_append_of_cons hs, hcount]

/-- Two states of which the second is no other than the first where no group is open, but for the
preference of the last repetition. -/
def Alike (st st' : ParseState) : Prop :=
  st.outer = [] → st = st' ∨ ∃ (base : ParseState) (least : Nat) (most : Option Nat) (b b' : Bool),
    base.repeatLast least most b = .ok st ∧ base.repeatLast least most b' = .ok st'

theorem alike_of_eq {st st' : ParseState} (h : st = st') : Alike st st' :=
  fun _ => Or.inl h

theorem followed_readRepeat {like : ParseState → ParseState → Prop} (st : ParseState) (least : Nat)
    (most : Option Nat) (cs : List Char) : Followed like (readRepeat st least most) cs := by
  apply Followed.of_before
  intro tail htail
  have hlazy : readLazy (cs ++ tail) = ((readLazy cs).1, (readLazy cs).2 ++ tail) := by
    by_cases hmark : ∃ r, cs = '?' :: r
    · obtain ⟨r, rfl⟩ := hmark
      rfl
    · have hother : ∀ cs' : List Char, (∀ r, cs' ≠ '?' :: r) → readLazy cs' = (false, cs') := by
        intro cs' h
        unfold readLazy
        split
        · exact absurd rfl (h _)
        · rfl
      rw [hother cs (not_exists.mp hmark), hother]
      exact htail.append_ne (by decide) (by decide) (not_exists.mp hmark)
  rw [readRepeat, readRepeat, hlazy]
  cases st.repeatLast least most (!(readLazy cs).1) <;> rfl

/-- Whether there is something to repeat does not depend on the preference. -/
theorem repeatLast_error {st : ParseState} {least : Nat} {most : Option Nat} {b : Bool}
    {e : ParseError} (h : st.repeatLast least most b = .error e) (b' : Bool) :
    st.repeatLast least most b' = .error e := by
  unfold ParseState.repeatLast at h ⊢
  split at h
  · cases h
  · exact h

theorem readCounted_eq {st : ParseState} (h : st.canRepeat = true) (cs : List Char) :
    readCounted st cs = (readBounds st.flags cs).thenRead
      fun bounds rest => readRepeat st bounds.1 bounds.2 (st.flags.skip rest) := by
  rw [readCounted, if_pos h]
  cases readBounds st.flags cs <;> rfl

theorem followed_skip_readRepeat
    (st : ParseState) (least : Nat) (most : Option Nat) (cs : List Char) :
    Followed Alike (fun cs => readRepeat st least most (st.flags.skip cs)) cs := by
  cases hs : st.flags.skip cs with
  | cons c rest =>
    refine (followed_readRepeat st least most (c :: rest)).of_eq (by rw [hs]) fun tail _ => ?_
    rw [Flags.skip_append_of_cons hs]
    rfl
  | nil =>
    obtain hall | hbar := Flags.skip_append_of_nil hs
    · refine (followed_readRepeat st least most []).of_eq (by rw [hs]) fun tail htail => ?_
      rw [hall tail htail, List.nil_append]
    · cases hr : st.repeatLast least most true with
      | error e =>
        refine .failed e (by rw [hs, readRepeat, repeatLast_error hr]; rfl) fun tail _ => ⟨e, ?_⟩
        rw [readRepeat, repeatLast_error hr]
        rfl
      | ok st' =>
        have hnil : readRepeat st least most [] = .ok (st', []) := by
          change (st.repeatLast least most true).map _ = _
          rw [hr]
          rfl
        refine .commented st' (by rw [hs, hnil]) (by rw [hbar, hnil]) fun tail _ b rest hb _ => ?_
        obtain ⟨st'', hrepeated, heq⟩ := eq_of_map_eq_ok hb
        obtain ⟨rfl, -⟩ := Prod.mk.inj heq
        exact Or.inr ⟨st, least, most, true, _, hr, hrepeated⟩

theorem followed_readCounted (st : ParseState) (cs : List Char) :
    Followed Alike (readCounted st) cs := by
  cases hrepeat : st.canRepeat with
  | false =>
    have hnone (cs : List Char) : readCounted st cs = .error .nothingToRepeat := by
      rw [readCounted, hrepeat, if_neg Bool.false_ne_true]
    exact .failed .nothingToRepeat (hnone cs) fun tail _ => ⟨_, hnone (cs ++ tail)⟩
  | true =>
    have hbounds : Followed (fun _ _ => False) (readBounds st.flags) cs :=
      followed_readBounds st.flags cs
    have hcounted := hbounds.thenRead
      (fun bounds rest _ => followed_skip_readRepeat st bounds.1 bounds.2 rest)
      fun bounds _ bar all => (all _ endsBranch_bar bounds [] bar).elim
    exact hcounted.of_eq (readCounted_eq hrepeat cs) fun tail _ => readCounted_eq hrepeat (cs ++ tail)

/-- Settings are read up to their end, or the text ends too early. -/
theorem readFlags_append (p : FlagProgress) (cs : List Char) :
    (∀ tail, readFlags p (cs ++ tail) = (readFlags p cs).before tail) ∨
      readFlags p cs = .error .unfinishedFlags := by
  induction cs generalizing p with
  | nil => exact Or.inr rfl
  | cons c cs ih =>
    simp only [List.cons_append, readFlags]
    split
    · refine Or.inl fun tail => ?_
      split <;> rfl
    · split
      · split
        · exact Or.inl fun tail => rfl
        · exact ih _
      · split
        · exact Or.inl fun tail => rfl
        · split
          · exact Or.inl fun tail => rfl
          · exact ih _

theorem followed_readFlags {like : FlagProgress × Bool → FlagProgress × Bool → Prop}
    (p : FlagProgress) (cs : List Char) : Followed like (readFlags p) cs := by
  obtain hall | herror := readFlags_append p cs
  · exact .of_before fun tail _ => hall tail
  · exact .unfinished .unfinishedFlags herror rfl

/-- A name cannot go on with the end of a branch. -/
theorem followed_readName (first : Bool) (cs : List Char) : Followed Eq (readName first) cs := by
  induction cs generalizing first with
  | nil =>
    refine .failed .unfinishedGroupName rfl ?_
    rintro tail ⟨c, cs', rfl, rfl | rfl⟩
    · cases first <;> exact ⟨.invalidGroupName, rfl⟩
    · cases first <;> exact ⟨.invalidGroupName, rfl⟩
  | cons c cs ih =>
    cases hclose : c == '>' with
    | true =>
      refine .closed [] cs ?_ fun tail _ => ?_
      · rw [readName, if_pos hclose]
      · rw [List.cons_append, readName, if_pos hclose]
    | false =>
      cases hname : isNameChar first c with
      | true =>
        refine ((ih false).map (c :: ·)).of_eq ?_ fun tail _ => ?_
        · simp only [readName, hclose, Bool.false_eq_true, if_false, hname, if_true]
          cases readName false cs <;> rfl
        · simp only [List.cons_append, readName, hclose, Bool.false_eq_true, if_false, hname, if_true]
          cases readName false (cs ++ tail) <;> rfl
      | false =>
        refine .failed .invalidGroupName ?_ fun tail _ => ⟨.invalidGroupName, ?_⟩
        · simp only [readName, hclose, Bool.false_eq_true, if_false, hname]
        · simp only [List.cons_append, readName, hclose, Bool.false_eq_true, if_false, hname]

def enterNamed (st : ParseState) (name : List Char) : Except ParseError ParseState :=
  if name.isEmpty then .error .emptyGroupName
  else if st.names.contains name then .error .repeatedGroupName
  else .ok { st.enterCapture with names := name :: st.names }

theorem openNamed_eq (st : ParseState) (cs : List Char) :
    openNamed st cs =
      (readName true cs).thenRead fun name rest => (enterNamed st name).map (·, rest) := by
  unfold openNamed
  cases readName true cs with
  | error e => rfl
  | ok x =>
    dsimp only [Reading.thenRead, enterNamed]
    split
    · rfl
    · split <;> rfl

theorem followed_openNamed (st : ParseState) (cs : List Char) : Followed Eq (openNamed st) cs :=
  ((followed_readName true cs).thenTry (enterNamed st)).of_eq (openNamed_eq st cs)
    fun tail _ => openNamed_eq st (cs ++ tail)

/-- The state after settings, which are those of a new group or of what follows. -/
def withSettings (st : ParseState) (x : FlagProgress × Bool) : Except ParseError ParseState :=
  if x.2 then .ok (st.enter none x.1.flags)
  else if x.1.letters.isEmpty then .error .nothingToRepeat
  else .ok { st with flags := x.1.flags, branch := .setting :: st.branch }

/-- Whether what follows `(?` names the group or refuses it, so that no settings are read. -/
def IsMarked (cs : List Char) : Prop :=
  cs = [] ∨ (∃ r, cs = '=' :: r) ∨ (∃ r, cs = '!' :: r) ∨ (∃ r, cs = '<' :: r) ∨
    ∃ r, cs = 'P' :: '<' :: r

theorem not_isMarked_append (h : ¬ IsMarked rest) (htail : EndsBranch tail) :
    ¬ IsMarked (rest ++ tail) := by
  cases rest with
  | nil => exact absurd (Or.inl rfl) h
  | cons c rest =>
    rintro (heq | ⟨r, heq⟩ | ⟨r, heq⟩ | ⟨r, heq⟩ | ⟨r, heq⟩)
    · cases heq
    · obtain ⟨rfl, -⟩ := List.cons.inj heq
      exact h (Or.inr (Or.inl ⟨rest, rfl⟩))
    · obtain ⟨rfl, -⟩ := List.cons.inj heq
      exact h (Or.inr (Or.inr (Or.inl ⟨rest, rfl⟩)))
    · obtain ⟨rfl, -⟩ := List.cons.inj heq
      exact h (Or.inr (Or.inr (Or.inr (Or.inl ⟨rest, rfl⟩))))
    · obtain ⟨rfl, heq'⟩ := List.cons.inj heq
      have hne : ∀ r', rest ≠ '<' :: r' := by
        rintro r' rfl
        exact h (Or.inr (Or.inr (Or.inr (Or.inr ⟨r', rfl⟩))))
      exact htail.append_ne (by decide) (by decide) hne r heq'

theorem openGroup_settings {st : ParseState} (hs : st.flags.skip cs = '?' :: rest)
    (h : ¬ IsMarked rest) :
    openGroup st cs =
      (readFlags { flags := st.flags } rest).thenRead fun x rest =>
        (withSettings st x).map (·, rest) := by
  unfold openGroup
  rw [hs]
  split
  case h_8 heq =>
    obtain ⟨-, rfl⟩ := List.cons.inj heq
    split
    · rename_i he
      rw [he]
      rfl
    · rename_i hok
      rw [hok]
      rfl
    · rename_i p _ hok
      rw [hok]
      dsimp only [Reading.thenRead, withSettings]
      rw [if_neg Bool.false_ne_true]
      split <;> rfl
  case h_9 hother => exact absurd rfl (hother rest)
  all_goals
    rename_i heq
    obtain ⟨-, rfl⟩ := List.cons.inj heq
    exact absurd (by simp [IsMarked]) h

theorem openGroup_capture {st : ParseState} (h : ∀ r, st.flags.skip cs ≠ '?' :: r) :
    openGroup st cs = .ok (st.enterCapture, st.flags.skip cs) := by
  unfold openGroup
  split
  case h_9 => rfl
  all_goals
    rename_i hs
    exact absurd hs (h _)

/-- A named group that is no look-behind. -/
theorem openGroup_angle {st : ParseState} (hs : st.flags.skip cs = '?' :: '<' :: rest)
    (hlook : ∀ r, rest ≠ '=' :: r) (hnot : ∀ r, rest ≠ '!' :: r) :
    openGroup st cs = openNamed st rest := by
  simp only [openGroup, hs]

/-- A group or a change of settings whose front is marked. -/
theorem followed_openGroup_mark {st : ParseState} (hs : st.flags.skip cs = '?' :: rest) :
    Followed Alike (openGroup st) cs := by
  have hs' := Flags.skip_append_of_cons hs
  by_cases hmarked : IsMarked rest
  · obtain rfl | ⟨r, rfl⟩ | ⟨r, rfl⟩ | ⟨r, rfl⟩ | ⟨r, rfl⟩ := hmarked
    · exact .unfinished .unclosedGroup (by simp only [openGroup, hs]) rfl
    · refine .failed .unsupportedLookAround (by simp only [openGroup, hs]) fun tail _ => ?_
      exact ⟨.unsupportedLookAround, by simp only [openGroup, hs', List.cons_append]⟩
    · refine .failed .unsupportedLookAround (by simp only [openGroup, hs]) fun tail _ => ?_
      exact ⟨.unsupportedLookAround, by simp only [openGroup, hs', List.cons_append]⟩
    · by_cases hlook : ∃ r', r = '=' :: r'
      · obtain ⟨r', rfl⟩ := hlook
        refine .failed .unsupportedLookAround (by simp only [openGroup, hs]) fun tail _ => ?_
        exact ⟨.unsupportedLookAround, by simp only [openGroup, hs', List.cons_append]⟩
      by_cases hnot : ∃ r', r = '!' :: r'
      · obtain ⟨r', rfl⟩ := hnot
        refine .failed .unsupportedLookAround (by simp only [openGroup, hs]) fun tail _ => ?_
        exact ⟨.unsupportedLookAround, by simp only [openGroup, hs', List.cons_append]⟩
      have hnamed := (followed_openNamed st r).mono fun _ _ => alike_of_eq
      refine hnamed.of_eq ?_ fun tail htail => ?_
      · exact openGroup_angle hs (not_exists.mp hlook) (not_exists.mp hnot)
      · exact openGroup_angle (hs' tail)
          (htail.append_ne (by decide) (by decide) (not_exists.mp hlook))
          (htail.append_ne (by decide) (by decide) (not_exists.mp hnot))
    · have hnamed := (followed_openNamed st r).mono fun _ _ => alike_of_eq
      refine hnamed.of_eq (by simp only [openGroup, hs]) fun tail _ => ?_
      simp only [openGroup, hs', List.cons_append]
  · have hsettings : Followed Eq (fun cs => (readFlags { flags := st.flags } cs).thenRead
        fun x rest => (withSettings st x).map (·, rest)) rest :=
      (followed_readFlags { flags := st.flags } rest).thenTry (withSettings st)
    refine (hsettings.mono fun _ _ => alike_of_eq).of_eq ?_ fun tail htail => ?_
    · exact openGroup_settings hs hmarked
    · exact openGroup_settings (hs' tail) (not_isMarked_append hmarked htail)

theorem followed_openGroup (st : ParseState) (cs : List Char) :
    Followed Alike (openGroup st) cs := by
  by_cases hmark : ∃ r, st.flags.skip cs = '?' :: r
  · obtain ⟨r, hs⟩ := hmark
    exact followed_openGroup_mark hs
  · have hown := openGroup_capture (not_exists.mp hmark)
    cases hs : st.flags.skip cs with
    | cons c rest =>
      rw [hs] at hown
      refine .closed st.enterCapture (c :: rest) hown fun tail _ => ?_
      have hs' := Flags.skip_append_of_cons hs tail
      rw [openGroup_capture, hs', List.cons_append]
      intro r heq
      rw [hs'] at heq
      exact hmark ⟨rest, by rw [hs, (List.cons.inj heq).1]⟩
    | nil =>
      rw [hs] at hown
      obtain hall | hbar := Flags.skip_append_of_nil hs
      · refine .closed st.enterCapture [] hown fun tail htail => ?_
        rw [openGroup_capture, hall tail htail, List.nil_append]
        rw [hall tail htail]
        exact htail.ne_cons (by decide) (by decide)
      · refine .commented st.enterCapture hown ?_ fun tail _ b rest _ houter => ?_
        · rw [openGroup_capture (by simp [hbar]), hbar]
        · cases houter

/-- An item of a pattern is read alike with the end of a branch behind the pattern, unless a comment
hides that or the text ends too early. -/
theorem followed_readItem (st : ParseState) (c : Char) (cs : List Char) :
    Followed Alike (readItem st c) cs := by
  fun_cases readItem st c cs with
  | case1 => exact (followed_openGroup st cs).of_eq rfl fun _ _ => rfl
  | case2 => exact (Followed.const st.leave cs).of_eq rfl fun _ _ => rfl
  | case4 | case5 =>
    have hclass := (followed_readClass st.flags cs).map
      fun m => st.push (.node ⟨.oneOf m.set, m.depth⟩)
    refine (hclass.mono fun _ _ => alike_of_eq).of_eq ?_ fun tail _ => ?_
    · dsimp only [readItem]
      cases readClass st.flags cs <;> rfl
    · dsimp only [readItem]
      cases readClass st.flags (cs ++ tail) <;> rfl
  | case6 => exact (followed_readRepeat st 0 (some 1) cs).of_eq rfl fun _ _ => rfl
  | case7 => exact (followed_readRepeat st 0 none cs).of_eq rfl fun _ _ => rfl
  | case8 => exact (followed_readRepeat st 1 none cs).of_eq rfl fun _ _ => rfl
  | case9 => exact (followed_readCounted st cs).of_eq rfl fun _ _ => rfl
  | case10 | case11 =>
    have hescape := (followed_readEscape st.flags cs).map
      fun e => st.pushLeaf (st.flags.escaped e)
    refine (hescape.mono fun _ _ => alike_of_eq).of_eq ?_ fun tail _ => ?_
    · dsimp only [readItem]
      cases readEscape st.flags cs <;> rfl
    · dsimp only [readItem]
      cases readEscape st.flags (cs ++ tail) <;> rfl
  | case12 =>
    refine (Followed.const (st.flags.dot.map st.pushLeaf) cs).of_eq ?_ fun tail _ => ?_
    · dsimp only [readItem]
      cases st.flags.dot <;> rfl
    · dsimp only [readItem]
      cases st.flags.dot <;> rfl
  | case3 | case13 | case14 => exact .closed _ _ rfl fun _ _ => rfl
  | case15 =>
    have hother : ∀ cs', readItem st c cs' = .ok (st.pushLeaf (st.flags.literal c), cs') := by
      intro cs'
      unfold readItem
      split
      case h_13 => rfl
      all_goals exact absurd rfl ‹_›
    exact .closed _ cs (hother cs) fun tail _ => hother (cs ++ tail)

end

end PhotoGrouping.Regex
