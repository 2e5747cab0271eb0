import PhotoGrouping.Proofs.PatternScan.ClassText

namespace PhotoGrouping.PatternScan

open Regex Text

/-- Where the reading of a pattern stands: what has been read, and the text left. -/
structure Stage where
  state : ParseState
  text : List Char

/-- The stages of a reading from one on. -/
def stagesFrom (st : ParseState) (cs : List Char) : List Stage :=
  ⟨st, cs⟩ ::
    match _hc : st.flags.skip cs with
    | [] => []
    | c :: rest =>
      match _hi : readItem st c rest with
      | .error _ => []
      | .ok (st', rest') => stagesFrom st' rest'
  termination_by cs.length
  decreasing_by
    have h1 := st.flags.skip_length_le cs
    have h2 := readItem_length_le ‹_›
    rw [‹st.flags.skip cs = _›, List.length_cons] at h1
    omega

/-- The stages of the reading of a pattern. -/
def stages (pattern : String) : List Stage :=
  stagesFrom { flags := folding false } pattern.toList

namespace Stage

/-- The text left without what is hidden at its front. -/
def shown (s : Stage) : List Char :=
  s.state.flags.skip s.text

/-- The text of the item that a stage is in front of, with what is hidden before it; where the reading
ends, the whole text left. -/
def itemText (s : Stage) : List Char :=
  match s.shown with
  | [] => s.text
  | c :: rest =>
    match readItem s.state c rest with
    | .ok (_, rest') => s.text.take (s.text.length - rest'.length)
    | .error _ => s.text

/-- Whether a scan reads on from a stage as it is meant: the comments up to the next stage are quiet,
nothing is hidden between `(` and `?`, and no name of a group has brackets. -/
def isPlain (s : Stage) : Bool :=
  (!s.state.flags.verbose || (commented false s.itemText).all isQuiet) &&
  (match s.shown with
    | '(' :: rest => (s.state.flags.skip rest).head? != some '?' || rest.head? == some '?'
    | _ => true) &&
  s.state.names.all (·.all isQuiet)

/-- The opening brackets that a scan counts in a bracketed class that a stage is in front of. -/
def strayed (s : Stage) : Nat :=
  match s.shown with
  | '[' :: cs =>
    match readClass s.state.flags cs with
    | .ok (_, rest) => countFrom { inClass := true } (cs.take (cs.length - rest.length))
    | .error _ => 0
  | _ => 0

end Stage

/-- The opening brackets that a scan counts in bracketed classes of a pattern. -/
def strayedCount (pattern : String) : Nat :=
  ((stages pattern).map (·.strayed)).sum

/-- The groups of a pattern that have a name. -/
def namedCount (pattern : String) : Nat :=
  ((stages pattern).getLast?.map (·.state.names.length)).getD 0

variable {st st' : ParseState} {c : Char} {cs rest : List Char} {s : Stage} {pattern : String}

theorem countFrom_cons_quiet (hc : isQuiet c = true) (cs : List Char) :
    countFrom {} (c :: cs) = countFrom {} cs := by
  have hopen : c ≠ '(' := by
    rintro rfl
    revert hc
    decide
  have hstep : State.step {} c = {} := by
    simp only [isQuiet, Bool.and_eq_true, bne_iff_ne, ne_eq] at hc
    unfold State.step
    split
    · rfl
    · split
      · exact absurd rfl hc.2
      · exact absurd rfl hc.1.1.2
      · rfl
      · rfl
  simp [countFrom, hstep, hopen]

theorem countFrom_quietly (h : Quietly cs rest) : countFrom {} cs = countFrom {} rest := by
  obtain ⟨t, ht, rfl⟩ := h
  induction t with
  | nil => rfl
  | cons c t ih =>
    have htail := ih fun d hd => ht d (List.mem_cons_of_mem c hd)
    rw [List.cons_append, countFrom_cons_quiet (ht c List.mem_cons_self), htail]

theorem countFrom_escape (c : Char) (cs : List Char) :
    countFrom {} ('\\' :: c :: cs) = countFrom {} cs := by
  simp [countFrom, State.step, State.isPlain]

theorem countFrom_closing (cs : List Char) : countFrom {} (']' :: cs) = countFrom {} cs := by
  simp [countFrom, State.step, State.isPlain]

theorem countFrom_front (cs : List Char) : countFrom {} ('(' :: '?' :: cs) = countFrom {} cs := by
  simp [countFrom, State.step, State.isPlain]

/-- Whether two states of a reading have the same groups behind them. -/
def SameGroups (st st' : ParseState) : Prop :=
  st'.captures = st.captures ∧ st'.names = st.names

/-- An item that opens no group leaves the groups behind it as they are. -/
theorem sameGroups_of_becomes (h : st.Becomes c st') (hgroup : c ≠ '(') : SameGroups st st' := by
  cases h with
  | leaf r d hr hc => exact ⟨rfl, rfl⟩
  | setting flags hc | enter flags hc | capture names hc => exact absurd hc hgroup
  | nextBranch hc => exact ⟨rfl, rfl⟩
  | leave st' hc h =>
    obtain ⟨o, outer, -, rfl⟩ := ParseState.leave_eq_ok h
    exact ⟨rfl, rfl⟩
  | repeatLast st' least most greedy hc h =>
    obtain ⟨n, rest, -, rfl⟩ := ParseState.repeatLast_eq_ok h
    exact ⟨rfl, rfl⟩

theorem passes_readRepeat {hides : Bool} {least : Nat} {most : Option Nat}
    (h : readRepeat st least most cs = .ok (st', rest)) : Passes hides isQuiet false cs rest := by
  obtain ⟨next, -, heq⟩ := eq_of_map_eq_ok h
  obtain ⟨-, rfl⟩ := Prod.mk.inj heq
  exact passes_readLazy hides cs

theorem passes_readCounted (h : readCounted st cs = .ok (st', rest)) :
    Passes st.flags.verbose isQuiet false cs rest := by
  unfold readCounted at h
  split at h
  · split at h
    · cases h
    · rename_i after hbounds
      exact ((passes_readBounds hbounds).trans (passes_skip st.flags after)).trans (passes_readRepeat h)
  · cases h

/-- A backslash sequence is read from its first character on. -/
theorem exists_readEscape (h : readItem st '\\' cs = .ok (st', rest)) :
    ∃ d after e, cs = d :: after ∧ readEscape st.flags (d :: after) = .ok (e, rest) := by
  cases hescape : readEscape st.flags cs with
  | error e =>
    simp only [readItem, hescape] at h
    cases h
  | ok x =>
    simp only [readItem, hescape] at h
    obtain ⟨-, rfl⟩ := Prod.mk.inj (Except.ok.inj h)
    cases cs with
    | nil => cases hescape
    | cons d after => exact ⟨d, after, x.1, rfl, hescape⟩

/-- A bracketed class is read from its opening bracket on. -/
theorem exists_readClass (h : readItem st '[' cs = .ok (st', rest)) :
    ∃ m, readClass st.flags cs = .ok (m, rest) ∧ st' = st.push (.node ⟨.oneOf m.set, m.depth⟩) := by
  cases hclass : readClass st.flags cs with
  | error e =>
    simp only [readItem, hclass] at h
    cases h
  | ok m =>
    simp only [readItem, hclass] at h
    obtain ⟨rfl, rfl⟩ := Prod.mk.inj (Except.ok.inj h)
    exact ⟨m.1, rfl, rfl⟩

/-- An item that begins with a quiet character has quiet characters only. -/
theorem passes_readItem_of_isQuiet (hc : isQuiet c = true) (hsign : st.flags.verbose = true → c ≠ '#')
    (h : readItem st c cs = .ok (st', rest)) : Passes st.flags.verbose isQuiet false (c :: cs) rest := by
  have hcons (h : Passes st.flags.verbose isQuiet false cs rest) :
      Passes st.flags.verbose isQuiet false (c :: cs) rest :=
    h.plain hc (ne_backslash_of_isQuiet hc) hsign
  apply hcons
  unfold readItem at h
  split at h
  case h_1 | h_4 | h_9 => exact absurd hc (by decide)
  case h_2 | h_10 =>
    obtain ⟨next, -, heq⟩ := eq_of_map_eq_ok h
    obtain ⟨-, rfl⟩ := Prod.mk.inj heq
    exact .done cs
  case h_3 | h_11 | h_12 | h_13 =>
    obtain ⟨-, rfl⟩ := Prod.mk.inj (Except.ok.inj h)
    exact .done cs
  case h_5 | h_6 | h_7 => exact passes_readRepeat h
  case h_8 => exact passes_readCounted h

/-- A name of a group is written with the characters of names, and a closing sign behind it. -/
theorem eq_append_of_readName {first : Bool} {name : List Char}
    (h : readName first cs = .ok (name, rest)) :
    cs = name ++ '>' :: rest ∧ ∀ c ∈ name, ∃ b, isNameChar b c = true := by
  induction cs generalizing first name with
  | nil => cases h
  | cons c cs ih =>
    rw [readName] at h
    split at h
    · rename_i hclose
      obtain rfl := beq_iff_eq.mp hclose
      obtain ⟨rfl, rfl⟩ := Prod.mk.inj (Except.ok.inj h)
      exact ⟨rfl, fun _ hc => absurd hc List.not_mem_nil⟩
    · split at h
      · rename_i hc
        split at h
        · cases h
        · rename_i tail after htail
          obtain ⟨rfl, rfl⟩ := Prod.mk.inj (Except.ok.inj h)
          obtain ⟨rfl, hall⟩ := ih htail
          exact ⟨rfl, List.forall_mem_cons.mpr ⟨⟨first, hc⟩, hall⟩⟩
      · cases h

theorem passes_name {name : List Char} (hname : ∀ c ∈ name, ∃ b, isNameChar b c = true)
    (rest : List Char) (hides : Bool) : PassesOver hides (name ++ rest) rest := by
  induction name with
  | nil => exact .done rest
  | cons c name ih =>
    obtain ⟨⟨b, hc⟩, hname⟩ := List.forall_mem_cons.mp hname
    have hne : c ≠ '\\' ∧ c ≠ '#' := by
      constructor <;>
        · rintro rfl
          cases b <;> exact absurd hc (by decide)
    exact (ih hname).plain rfl hne.1 fun _ => hne.2

theorem passes_openNamed {hides : Bool} (h : openNamed st cs = .ok (st', rest)) :
    PassesOver hides cs rest := by
  unfold openNamed at h
  split at h
  · cases h
  · rename_i name after hname
    obtain ⟨rfl, hall⟩ := eq_append_of_readName hname
    split at h
    · cases h
    · split at h
      · cases h
      · obtain ⟨-, rfl⟩ := Prod.mk.inj (Except.ok.inj h)
        exact (passes_name hall _ hides).trans (passesOver_cons (by decide) (by decide) _)

theorem passes_openGroup (h : openGroup st cs = .ok (st', rest)) :
    PassesOver st.flags.verbose cs rest := by
  have hskip := passesOver_skip st.flags cs
  unfold openGroup at h
  split at h
  case h_1 | h_2 | h_3 | h_4 | h_7 => cases h
  case h_5 after hfront =>
    rw [hfront] at hskip
    have hsigns : PassesOver st.flags.verbose (['?', 'P', '<'] ++ after) after :=
      (passes_append (List.all_eq_true.mp (by decide)) after).any
    exact (hskip.trans hsigns).trans (passes_openNamed h)
  case h_6 after _ _ hfront =>
    rw [hfront] at hskip
    have hsigns : PassesOver st.flags.verbose (['?', '<'] ++ after) after :=
      (passes_append (List.all_eq_true.mp (by decide)) after).any
    exact (hskip.trans hsigns).trans (passes_openNamed h)
  case h_8 after _ _ _ _ _ _ _ hfront =>
    rw [hfront] at hskip
    have hopen := hskip.trans (passesOver_cons (by decide) (by decide) after)
    split at h
    · cases h
    · rename_i hflags
      obtain ⟨-, rfl⟩ := Prod.mk.inj (Except.ok.inj h)
      exact hopen.trans (passes_readFlags hflags).any
    · rename_i hflags
      split at h
      · cases h
      · obtain ⟨-, rfl⟩ := Prod.mk.inj (Except.ok.inj h)
        exact hopen.trans (passes_readFlags hflags).any
  case h_9 =>
    obtain ⟨-, rfl⟩ := Prod.mk.inj (Except.ok.inj h)
    exact hskip

theorem passes_readItem (hshown : st.flags.skip cs = c :: rest) {rest' : List Char}
    (h : readItem st c rest = .ok (st', rest')) : PassesOver st.flags.verbose (c :: rest) rest' := by
  have hsign hverbose := (Flags.visible_of_skip hshown hverbose).2
  by_cases hc : isQuiet c = true
  · exact (passes_readItem_of_isQuiet hc hsign h).any
  · have hspecial : ((c = '(' ∨ c = '[') ∨ c = ']') ∨ c = '\\' := by
      simpa only [Bool.not_eq_true, isQuiet, Bool.and_eq_false_iff, bne_eq_false_iff_eq] using hc
    obtain ((rfl | rfl) | rfl) | rfl := hspecial
    · exact (passesOver_cons (by decide) (by decide) rest).trans (passes_openGroup h)
    · obtain ⟨m, hread, -⟩ := exists_readClass h
      have hclass := passes_readClass hread
      exact ((passesOver_cons (by decide) (by decide) rest).trans hclass).trans
        (passesOver_cons (by decide) (by decide) rest')
    · obtain ⟨-, rfl⟩ := Prod.mk.inj (Except.ok.inj h)
      exact passesOver_cons (by decide) (by decide) rest
    · obtain ⟨d, after, e, rfl, hread⟩ := exists_readEscape h
      exact (passes_readEscape hread).any.escape d rfl

/-- An item that opens neither a group nor a bracket passes a scan by. -/
theorem countFrom_readItem (hides : HidesQuietly st.flags.verbose (c :: cs) rest)
    (hsign : st.flags.verbose = true → c ≠ '#') (hgroup : c ≠ '(') (hclass : c ≠ '[')
    (h : readItem st c cs = .ok (st', rest)) : countFrom {} (c :: cs) = countFrom {} rest := by
  by_cases hc : isQuiet c = true
  · exact countFrom_quietly (hides.quietly (passes_readItem_of_isQuiet hc hsign h))
  · have hspecial : c = ']' ∨ c = '\\' := by
      simp only [isQuiet, Bool.and_eq_true, bne_iff_ne, ne_eq] at hc
      tauto
    obtain rfl | rfl := hspecial
    · obtain ⟨-, rfl⟩ := Prod.mk.inj (Except.ok.inj h)
      exact countFrom_closing cs
    · obtain ⟨d, after, e, rfl, hread⟩ := exists_readEscape h
      have hafter := hides.back ((Passes.done after).escape d rfl : PassesOver _ _ _)
      rw [countFrom_escape, countFrom_quietly (hafter.quietly (passes_readEscape hread))]

theorem quietly_readName {first : Bool} {name : List Char} (h : readName first cs = .ok (name, rest))
    (hname : ∀ c ∈ name, isQuiet c = true) : Quietly cs rest := by
  obtain ⟨rfl, -⟩ := eq_append_of_readName h
  refine ⟨name ++ ['>'], ?_, by rw [List.append_assoc, List.singleton_append]⟩
  intro c hc
  obtain hc | hc := List.mem_append.mp hc
  · exact hname c hc
  · rw [List.mem_singleton.mp hc]
    decide

theorem quietly_readFlags {a b : FlagProgress} {colon : Bool}
    (h : readFlags a cs = .ok ((b, colon), rest)) : Quietly cs rest :=
  (hidesQuietly_of_shows rfl cs rest).quietly (passes_readFlags h)

theorem skip_question (f : Flags) (cs : List Char) : f.skip ('?' :: cs) = '?' :: cs := by
  unfold Flags.skip
  split
  · rfl
  · rfl

/-- A named group begins one group that a scan does not count. -/
theorem balanced_openNamed (hnames : ∀ name ∈ st'.names, ∀ c ∈ name, isQuiet c = true)
    (h : openNamed st cs = .ok (st', rest)) :
    st'.captures = st.captures + 1 ∧ st'.names.length = st.names.length + 1 ∧ Quietly cs rest := by
  unfold openNamed at h
  split at h
  · cases h
  · rename_i name after hname
    split at h
    · cases h
    · split at h
      · cases h
      · obtain ⟨rfl, rfl⟩ := Prod.mk.inj (Except.ok.inj h)
        exact ⟨rfl, rfl, quietly_readName hname (hnames name List.mem_cons_self)⟩

/-- The front of a group is counted by a scan if it begins a group without a name. -/
theorem balanced_openGroup (hides : HidesQuietly st.flags.verbose cs rest)
    (hfront : (st.flags.skip cs).head? = some '?' → cs.head? = some '?')
    (hnames : ∀ name ∈ st'.names, ∀ c ∈ name, isQuiet c = true)
    (h : openGroup st cs = .ok (st', rest)) :
    st'.captures + st.names.length + countFrom {} rest =
      st.captures + countFrom {} ('(' :: cs) + st'.names.length := by
  have hshown {tail : List Char} (hskip : st.flags.skip cs = '?' :: tail) : cs = '?' :: tail := by
    rw [hskip] at hfront
    obtain ⟨tail', rfl⟩ := List.head?_eq_some_iff.mp (hfront rfl)
    rw [skip_question] at hskip
    exact hskip
  unfold openGroup at h
  split at h
  case h_1 | h_2 | h_3 | h_4 | h_7 => cases h
  case h_5 after hskip =>
    obtain ⟨hcaptures, hlength, hquiet⟩ := balanced_openNamed hnames h
    have hfront : Quietly ('P' :: '<' :: after) rest := (hquiet.cons (by decide)).cons (by decide)
    rw [hshown hskip, countFrom_front, countFrom_quietly hfront]
    omega
  case h_6 after _ _ hskip =>
    obtain ⟨hcaptures, hlength, hquiet⟩ := balanced_openNamed hnames h
    have hfront : Quietly ('<' :: after) rest := hquiet.cons (by decide)
    rw [hshown hskip, countFrom_front, countFrom_quietly hfront]
    omega
  case h_8 after _ _ _ _ _ _ _ hskip =>
    rw [hshown hskip, countFrom_front]
    split at h
    · cases h
    · rename_i hflags
      obtain ⟨rfl, rfl⟩ := Prod.mk.inj (Except.ok.inj h)
      rw [countFrom_quietly (quietly_readFlags hflags)]
      exact Nat.add_right_comm st.captures st.names.length _
    · rename_i hflags
      split at h
      · cases h
      · obtain ⟨rfl, rfl⟩ := Prod.mk.inj (Except.ok.inj h)
        rw [countFrom_quietly (quietly_readFlags hflags)]
        exact Nat.add_right_comm st.captures st.names.length _
  case h_9 hother =>
    obtain ⟨rfl, rfl⟩ := Prod.mk.inj (Except.ok.inj h)
    have hhead : cs.head? ≠ some '?' := by
      intro hhead
      obtain ⟨tail, rfl⟩ := List.head?_eq_some_iff.mp hhead
      exact hother tail (skip_question st.flags tail)
    have hcount : countFrom {} ('(' :: cs) = 1 + countFrom {} cs := by
      simp [countFrom, State.isPlain, State.step, hhead]
    have hcaptures : st.enterCapture.captures = st.captures + 1 := rfl
    have hnamed : st.enterCapture.names = st.names := rfl
    rw [hcount, countFrom_quietly (hides.quietly (passes_skip st.flags cs)), hcaptures, hnamed]
    omega

theorem stagesFrom_eq (st : ParseState) (cs : List Char) :
    stagesFrom st cs = ⟨st, cs⟩ ::
      match st.flags.skip cs with
      | [] => []
      | c :: rest =>
        match readItem st c rest with
        | .error _ => []
        | .ok (st', rest') => stagesFrom st' rest' := by
  rw [stagesFrom]
  split
  · rename_i hc
    rw [hc]
  · rename_i c rest hc
    rw [hc]
    dsimp only
    split
    · rename_i e hi
      rw [hi]
    · rename_i next rest' hi
      rw [hi]

theorem stagesFrom_cons (hshown : st.flags.skip cs = c :: rest) {rest' : List Char}
    (h : readItem st c rest = .ok (st', rest')) :
    stagesFrom st cs = ⟨st, cs⟩ :: stagesFrom st' rest' := by
  rw [stagesFrom_eq]
  simp only [hshown, h]

theorem mem_stagesFrom (st : ParseState) (cs : List Char) : ⟨st, cs⟩ ∈ stagesFrom st cs := by
  rw [stagesFrom_eq]
  exact List.mem_cons_self

theorem Stage.hidesQuietly (h : s.isPlain = true) (hitem : ∀ t, s.text = t ++ rest → s.itemText = t) :
    HidesQuietly s.state.flags.verbose s.text rest := by
  have hcomments := (Bool.and_eq_true_iff.mp (Bool.and_eq_true_iff.mp h).1).1
  intro hverbose t ht
  rw [hverbose, Bool.not_true, Bool.false_or, hitem t ht] at hcomments
  exact List.all_eq_true.mp hcomments

theorem Stage.itemText_of_readItem (hshown : s.shown = c :: cs)
    (h : readItem s.state c cs = .ok (st', rest)) {t : List Char} (ht : s.text = t ++ rest) :
    s.itemText = t := by
  simp [Stage.itemText, hshown, h, ht]

theorem Stage.itemText_of_shown_eq_nil (hshown : s.shown = []) : s.itemText = s.text := by
  simp [Stage.itemText, hshown]

theorem Stage.front_shown (h : s.isPlain = true) (hshown : s.shown = '(' :: cs)
    (hquestion : (s.state.flags.skip cs).head? = some '?') : cs.head? = some '?' := by
  have hfront := (Bool.and_eq_true_iff.mp (Bool.and_eq_true_iff.mp h).1).2
  simpa [hshown, hquestion] using hfront

theorem Stage.quiet_of_mem_names (h : s.isPlain = true) :
    ∀ name ∈ s.state.names, ∀ c ∈ name, isQuiet c = true := by
  have hnames := (Bool.and_eq_true_iff.mp h).2
  intro name hname
  exact List.all_eq_true.mp (List.all_eq_true.mp hnames name hname)

/-- From stage to stage a scan counts the groups that begin, but for those with a name, and those that
it takes for some in a bracketed class. -/
theorem balanced_readItem (hplain : (Stage.mk st cs).isPlain = true)
    (hshown : st.flags.skip cs = c :: rest) {rest' : List Char}
    (hnames : ∀ name ∈ st'.names, ∀ c ∈ name, isQuiet c = true)
    (h : readItem st c rest = .ok (st', rest')) :
    st'.captures + st.names.length + (Stage.mk st cs).strayed + countFrom {} rest' =
      st.captures + countFrom {} cs + st'.names.length := by
  have hides : HidesQuietly st.flags.verbose cs rest' :=
    Stage.hidesQuietly hplain fun _ => Stage.itemText_of_readItem (s := ⟨st, cs⟩) hshown h
  have hskip := passes_skip st.flags cs
  rw [hshown] at hskip
  have hitem := hides.back hskip
  have hpasses := passes_readItem hshown h
  rw [countFrom_quietly ((hides.front hskip hpasses.exists_append).quietly hskip)]
  by_cases hgroup : c = '('
  · subst hgroup
    have hstrayed : (Stage.mk st cs).strayed = 0 := by
      simp [Stage.strayed, Stage.shown, hshown]
    have hfront := hitem.back (passesOver_cons (by decide) (by decide) rest)
    have hbalanced := balanced_openGroup hfront (Stage.front_shown hplain hshown) hnames h
    rw [hstrayed]
    exact hbalanced
  · by_cases hclass : c = '['
    · subst hclass
      obtain ⟨m, hread, rfl⟩ := exists_readClass h
      have hstrayed : (Stage.mk st cs).strayed =
          countFrom { inClass := true } (rest.take (rest.length - rest'.length)) := by
        simp [Stage.strayed, Stage.shown, hshown, hread]
      have hbracket := (hitem.back (passesOver_cons (by decide) (by decide) rest)).front
        (passes_readClass hread) ⟨[']'], rfl⟩
      have hcount := countFrom_class hbracket hread
      have hcaptures (p : Piece) : (st.push p).captures = st.captures := rfl
      have hnamed (p : Piece) : (st.push p).names = st.names := rfl
      rw [hstrayed, hcount, hcaptures, hnamed]
      omega
    · have hstrayed : (Stage.mk st cs).strayed = 0 := by
        simp [Stage.strayed, Stage.shown, hshown, hclass]
      obtain ⟨hcaptures, hsame⟩ := sameGroups_of_becomes (becomes_of_readItem h) hgroup
      have hsign hverbose := (Flags.visible_of_skip hshown hverbose).2
      rw [hstrayed, countFrom_readItem hitem hsign hgroup hclass h, hcaptures, hsame]
      omega

/-- Over a whole reading a scan counts the groups but for those with a name, and those that it takes
for some in a bracketed class. -/
theorem balanced_parseFrom (hplain : ∀ s ∈ stagesFrom st cs, s.isPlain = true)
    (h : parseFrom st cs = .ok st') :
    st'.captures + st.names.length + ((stagesFrom st cs).map (·.strayed)).sum =
      st.captures + countFrom {} cs + st'.names.length := by
  fun_induction parseFrom st cs with
  | case1 st cs hc =>
    obtain rfl := Except.ok.inj h
    have hides : HidesQuietly st.flags.verbose cs [] := by
      refine Stage.hidesQuietly (hplain ⟨st, cs⟩ (mem_stagesFrom st cs)) fun t ht => ?_
      rw [Stage.itemText_of_shown_eq_nil (s := ⟨st, cs⟩) hc, ht, List.append_nil]
    have hskip := passes_skip st.flags cs
    rw [hc] at hskip
    have hstrayed : (Stage.mk st cs).strayed = 0 := by
      simp [Stage.strayed, Stage.shown, hc]
    rw [countFrom_quietly (hides.quietly hskip), stagesFrom_eq]
    simp [hc, hstrayed, countFrom]
  | case2 => cases h
  | case3 st cs c rest hc next rest' hi ih =>
    rw [stagesFrom_cons hc hi] at hplain ⊢
    have htail : ∀ s ∈ stagesFrom next rest', s.isPlain = true :=
      fun s hs => hplain s (List.mem_cons_of_mem _ hs)
    have hnames : ∀ name ∈ next.names, ∀ c ∈ name, isQuiet c = true :=
      Stage.quiet_of_mem_names (htail ⟨next, rest'⟩ (mem_stagesFrom next rest'))
    have hitem := balanced_readItem (hplain ⟨st, cs⟩ List.mem_cons_self) hc hnames hi
    have hrest := ih htail h
    rw [List.map_cons, List.sum_cons]
    omega

theorem getLast?_stagesFrom (h : parseFrom st cs = .ok st') :
    (stagesFrom st cs).getLast?.map (·.state) = some st' := by
  fun_induction parseFrom st cs with
  | case1 st cs hc =>
    obtain rfl := Except.ok.inj h
    rw [stagesFrom_eq]
    simp [hc]
  | case2 => cases h
  | case3 st cs c rest hc next rest' hi ih =>
    have hne : stagesFrom next rest' ≠ [] := List.ne_nil_of_mem (mem_stagesFrom next rest')
    rw [stagesFrom_cons hc hi, List.getLast?_cons_of_ne_nil hne]
    exact ih h

/-- A pattern has as many groups as a scan counts, with those that have a name and without those that
the scan takes for some in a bracketed class; they are numbered from one. -/
theorem captureCount_of_read {regex : Regex} (hplain : ∀ s ∈ stages pattern, s.isPlain = true)
    (h : Regex.read pattern false = .ok regex) :
    regex.captureCount + strayedCount pattern = captureCount pattern + namedCount pattern ∧
      regex.expr.indices = List.range' 1 regex.captureCount := by
  obtain ⟨st, hparse, hindices⟩ := indices_of_read h
  have hcaptures : regex.captureCount = st.captures := by
    rw [Regex.captureCount, ← Expr.length_indices, hindices, List.length_range']
  have hnamed : namedCount pattern = st.names.length := by
    have hlast := getLast?_stagesFrom hparse
    rw [Option.map_eq_some_iff] at hlast
    obtain ⟨s, hs, rfl⟩ := hlast
    rw [namedCount, stages, hs]
    rfl
  have hbalanced := balanced_parseFrom hplain hparse
  simp only [List.length_nil, Nat.add_zero, Nat.zero_add] at hbalanced
  rw [hcaptures, hnamed]
  exact ⟨hbalanced, hindices⟩

end PhotoGrouping.PatternScan
