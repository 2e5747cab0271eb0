import PhotoGrouping.Proofs.PatternScan.Fragment

namespace PhotoGrouping.PatternScan

open Regex Text

/-- Whether a scan passes over a character without a change of its state. -/
def isQuiet (c : Char) : Bool :=
  c != '(' && c != '[' && c != ']' && c != '\\'

/-- Whether a quiet character begins no comment. -/
def isInert (c : Char) : Bool :=
  isQuiet c && c != '#'

/-- The characters of the comments of a text that hides them; a `#` behind a backslash begins none.
The flag tells whether a comment is open. -/
def commented : Bool → List Char → List Char
  | _, [] => []
  | true, c :: cs => c :: commented (c != '\n') cs
  | false, '\\' :: _ :: cs => commented false cs
  | false, c :: cs => commented (c == '#') cs

/-- How a text is passed over up to a rest: by characters of a set, by backslashes with the character
behind them if the set has them, and by comments if there are any. -/
inductive Passes (hides : Bool) (p : Char → Bool) : Bool → List Char → List Char → Prop
  | done (cs : List Char) : Passes hides p false cs cs
  | ended : Passes hides p true [] []
  | comment {c : Char} {cs rest : List Char} :
    hides = true → Passes hides p (c != '\n') cs rest → Passes hides p true (c :: cs) rest
  | sign {cs rest : List Char} :
    hides = true → Passes hides p true cs rest → Passes hides p false ('#' :: cs) rest
  | plain {c : Char} {cs rest : List Char} :
    p c = true → c ≠ '\\' → (hides = true → c ≠ '#') →
      Passes hides p false cs rest → Passes hides p false (c :: cs) rest
  | escape (c : Char) {cs rest : List Char} :
    p '\\' = true → Passes hides p false cs rest → Passes hides p false ('\\' :: c :: cs) rest

/-- How a text is passed over up to a rest by whatever characters. -/
abbrev PassesOver (hides : Bool) (cs rest : List Char) : Prop :=
  Passes hides (fun _ => true) false cs rest

/-- Whether the comments of a text up to a rest are quiet, if there are any. -/
def HidesQuietly (hides : Bool) (cs rest : List Char) : Prop :=
  hides = true → ∀ t, cs = t ++ rest → ∀ c ∈ commented false t, isQuiet c = true

/-- Whether a text consists of quiet characters and a rest. -/
def Quietly (cs rest : List Char) : Prop :=
  ∃ t, (∀ c ∈ t, isQuiet c = true) ∧ cs = t ++ rest

/-- Whether a scan that no backslash has just stopped does not end a text behind one. -/
def IsEven (t : List Char) : Prop :=
  ∀ s : State, s.escaped = false → (t.foldl State.step s).escaped = false

/-- Whether a text consists of an even one and a rest. -/
def Evenly (cs rest : List Char) : Prop :=
  ∃ t, IsEven t ∧ cs = t ++ rest

variable {hides comment : Bool} {p q : Char → Bool} {c : Char} {cs mid rest r t u : List Char}
  {s : State}

theorem ne_backslash_of_isQuiet (hc : isQuiet c = true) : c ≠ '\\' := by
  rintro rfl
  cases hc

theorem isQuiet_of (hp : (['(', '[', ']', '\\'].all fun d => !p d) = true) (hc : p c = true) :
    isQuiet c = true := by
  by_contra hquiet
  have hmem : c ∈ ['(', '[', ']', '\\'] := by
    simp only [isQuiet, Bool.and_eq_true, bne_iff_ne, ne_eq] at hquiet
    simp only [List.mem_cons, List.not_mem_nil, or_false]
    tauto
  have hnot := List.all_eq_true.mp hp c hmem
  rw [hc] at hnot
  cases hnot

theorem isQuiet_of_isBlank (h : isBlank c = true) : isQuiet c = true :=
  isQuiet_of (p := isBlank) (by decide) h

theorem commented_cons (hc : c ≠ '\\') (cs : List Char) :
    commented false (c :: cs) = commented (c == '#') cs := by
  rw [commented]
  rintro d cs' rfl
  exact absurd rfl hc

theorem commented_plain (hc : c ≠ '\\') (hsign : c ≠ '#') (cs : List Char) :
    commented false (c :: cs) = commented false cs := by
  rw [commented_cons hc, beq_false_of_ne hsign]

theorem State.escaped_step (hc : c ≠ '\\') : (s.step c).escaped = false := by
  unfold State.step
  split
  · rfl
  · rename_i hs
    have hs : s.escaped = false := by simpa using hs
    split
    · exact absurd rfl hc
    · exact hs
    · exact hs
    · exact hs

theorem IsEven.nil : IsEven [] :=
  fun _ hs => hs

theorem IsEven.cons (h : IsEven t) (hc : c ≠ '\\') : IsEven (c :: t) :=
  fun _ _ => h _ (State.escaped_step hc)

theorem IsEven.escape (h : IsEven t) (c : Char) : IsEven ('\\' :: c :: t) := by
  intro s hs
  have hstep : ((s.step '\\').step c).escaped = false := by simp [State.step, hs]
  exact h _ hstep

theorem Quietly.cons (h : Quietly cs rest) (hc : isQuiet c = true) : Quietly (c :: cs) rest := by
  obtain ⟨t, ht, rfl⟩ := h
  exact ⟨c :: t, List.forall_mem_cons.mpr ⟨hc, ht⟩, rfl⟩

namespace Passes

theorem trans (h : Passes hides p comment cs mid) (h' : Passes hides p false mid rest) :
    Passes hides p comment cs rest := by
  induction h with
  | done cs => exact h'
  | ended =>
    cases h' with
    | done => exact .ended
  | comment hhides _ ih => exact (ih h').comment hhides
  | sign hhides _ ih => exact (ih h').sign hhides
  | plain hc hbackslash hsign _ ih => exact (ih h').plain hc hbackslash hsign
  | escape c hp _ ih => exact (ih h').escape c hp

theorem mono (hpq : ∀ c, p c = true → q c = true) (h : Passes hides p comment cs rest) :
    Passes hides q comment cs rest := by
  induction h with
  | done cs => exact .done cs
  | ended => exact .ended
  | comment hhides _ ih => exact ih.comment hhides
  | sign hhides _ ih => exact ih.sign hhides
  | plain hc hbackslash hsign _ ih => exact ih.plain (hpq _ hc) hbackslash hsign
  | escape c hp _ ih => exact ih.escape c (hpq _ hp)

theorem any (h : Passes hides p false cs rest) : PassesOver hides cs rest :=
  h.mono fun _ _ => rfl

/-- A character that counts and does not mislead a scan. -/
theorem cons (h : Passes hides isQuiet false cs rest) (hc : isQuiet c = true) (hsign : c ≠ '#') :
    Passes hides isQuiet false (c :: cs) rest :=
  h.plain hc (ne_backslash_of_isQuiet hc) fun _ => hsign

theorem blank (h : Passes hides isQuiet false cs rest) (hc : isBlank c = true) :
    Passes hides isQuiet false (c :: cs) rest := by
  refine h.cons (isQuiet_of_isBlank hc) ?_
  rintro rfl
  revert hc
  decide

/-- The comments of a text are those of what is passed over and those behind it. -/
theorem commented_append (h : Passes true p comment cs mid) :
    ∃ t, cs = t ++ mid ∧
      ∀ u v, mid = u ++ v → commented comment (t ++ u) = commented comment t ++ commented false u := by
  induction h with
  | done cs => exact ⟨[], rfl, fun u v _ => rfl⟩
  | ended =>
    refine ⟨[], rfl, fun u v hu => ?_⟩
    rw [(List.append_eq_nil_iff.mp hu.symm).1]
    rfl
  | @comment c cs rest _ _ ih =>
    obtain ⟨t, rfl, ht⟩ := ih
    refine ⟨c :: t, rfl, fun u v hu => ?_⟩
    rw [List.cons_append, commented, ht u v hu, commented, List.cons_append]
  | sign _ _ ih =>
    obtain ⟨t, rfl, ht⟩ := ih
    refine ⟨'#' :: t, rfl, fun u v hu => ?_⟩
    rw [List.cons_append, commented_cons (by decide), commented_cons (by decide)]
    exact ht u v hu
  | @plain c cs rest _ hbackslash hsign _ ih =>
    obtain ⟨t, rfl, ht⟩ := ih
    refine ⟨c :: t, rfl, fun u v hu => ?_⟩
    rw [List.cons_append, commented_plain hbackslash (hsign rfl), commented_plain hbackslash (hsign rfl)]
    exact ht u v hu
  | escape c _ _ ih =>
    obtain ⟨t, rfl, ht⟩ := ih
    exact ⟨'\\' :: c :: t, rfl, ht⟩

theorem exists_append (h : Passes hides p comment cs rest) : ∃ t, cs = t ++ rest := by
  induction h with
  | done cs => exact ⟨[], rfl⟩
  | ended => exact ⟨[], rfl⟩
  | @comment c cs rest _ _ ih | @plain c cs rest _ _ _ _ ih =>
    obtain ⟨t, rfl⟩ := ih
    exact ⟨c :: t, rfl⟩
  | sign _ _ ih =>
    obtain ⟨t, rfl⟩ := ih
    exact ⟨'#' :: t, rfl⟩
  | escape c _ _ ih =>
    obtain ⟨t, rfl⟩ := ih
    exact ⟨'\\' :: c :: t, rfl⟩

/-- A text that is passed over by quiet characters is quiet if its comments are. -/
theorem exists_quiet (h : Passes hides isQuiet comment cs rest) :
    ∃ t, cs = t ++ rest ∧ ((hides = true → ∀ c ∈ commented comment t, isQuiet c = true) →
      ∀ c ∈ t, isQuiet c = true) := by
  induction h with
  | done cs => exact ⟨[], rfl, fun _ => List.forall_mem_nil _⟩
  | ended => exact ⟨[], rfl, fun _ => List.forall_mem_nil _⟩
  | @comment c cs rest hhides _ ih =>
    obtain ⟨t, rfl, ht⟩ := ih
    refine ⟨c :: t, rfl, fun hquiet => ?_⟩
    obtain ⟨hc, hquiet⟩ := List.forall_mem_cons.mp (hquiet hhides)
    exact List.forall_mem_cons.mpr ⟨hc, ht fun _ => hquiet⟩
  | sign hhides _ ih =>
    obtain ⟨t, rfl, ht⟩ := ih
    refine ⟨'#' :: t, rfl, fun hquiet => List.forall_mem_cons.mpr ⟨by decide, ht ?_⟩⟩
    rwa [commented_cons (by decide)] at hquiet
  | @plain c cs rest hc hbackslash hsign _ ih =>
    obtain ⟨t, rfl, ht⟩ := ih
    refine ⟨c :: t, rfl, fun hquiet => List.forall_mem_cons.mpr ⟨hc, ht fun hhides => ?_⟩⟩
    have hquiet := hquiet hhides
    rwa [commented_plain hbackslash (hsign hhides)] at hquiet
  | escape c hp _ ih => cases hp

/-- A text that is passed over is even if its comments are quiet. -/
theorem exists_isEven (h : Passes hides p comment cs rest) :
    ∃ t, cs = t ++ rest ∧ ((hides = true → ∀ c ∈ commented comment t, isQuiet c = true) →
      IsEven t) := by
  induction h with
  | done cs => exact ⟨[], rfl, fun _ => IsEven.nil⟩
  | ended => exact ⟨[], rfl, fun _ => IsEven.nil⟩
  | @comment c cs rest hhides _ ih =>
    obtain ⟨t, rfl, ht⟩ := ih
    refine ⟨c :: t, rfl, fun hquiet => ?_⟩
    obtain ⟨hc, hquiet⟩ := List.forall_mem_cons.mp (hquiet hhides)
    exact (ht fun _ => hquiet).cons (ne_backslash_of_isQuiet hc)
  | sign hhides _ ih =>
    obtain ⟨t, rfl, ht⟩ := ih
    refine ⟨'#' :: t, rfl, fun hquiet => (ht ?_).cons (by decide)⟩
    rwa [commented_cons (by decide)] at hquiet
  | @plain c cs rest hc hbackslash hsign _ ih =>
    obtain ⟨t, rfl, ht⟩ := ih
    refine ⟨c :: t, rfl, fun hquiet => (ht fun hhides => ?_).cons hbackslash⟩
    have hquiet := hquiet hhides
    rwa [commented_plain hbackslash (hsign hhides)] at hquiet
  | escape c _ _ ih =>
    obtain ⟨t, rfl, ht⟩ := ih
    exact ⟨'\\' :: c :: t, rfl, fun hquiet => (ht hquiet).escape c⟩

end Passes

theorem passesOver_cons (hc : c ≠ '\\') (hsign : c ≠ '#') (cs : List Char) :
    PassesOver hides (c :: cs) cs :=
  (Passes.done cs).plain rfl hc fun _ => hsign

namespace HidesQuietly

/-- The comments of the front of a text are quiet if those of the whole are. -/
theorem front (hhides : HidesQuietly hides cs rest) (h : Passes hides p false cs mid)
    (hmid : ∃ u, mid = u ++ rest) : HidesQuietly hides cs mid := by
  rintro rfl t ht c hc
  obtain ⟨u, hu⟩ := hmid
  obtain ⟨t', hcs, happend⟩ := h.commented_append
  obtain rfl : t = t' := List.append_cancel_right (ht.symm.trans hcs)
  refine hhides rfl (t ++ u) (by rw [ht, hu, List.append_assoc]) c ?_
  rw [happend u rest hu]
  exact List.mem_append_left _ hc

/-- The comments behind the front of a text are quiet if those of the whole are. -/
theorem back (hhides : HidesQuietly hides cs rest) (h : Passes hides p false cs mid) :
    HidesQuietly hides mid rest := by
  rintro rfl u hu c hc
  obtain ⟨t, hcs, happend⟩ := h.commented_append
  refine hhides rfl (t ++ u) (by rw [hcs, hu, List.append_assoc]) c ?_
  rw [happend u rest hu]
  exact List.mem_append_right _ hc

theorem quietly (hhides : HidesQuietly hides cs rest) (h : Passes hides isQuiet false cs rest) :
    Quietly cs rest := by
  obtain ⟨t, rfl, ht⟩ := h.exists_quiet
  exact ⟨t, ht fun hverbose => hhides hverbose t rfl, rfl⟩

theorem evenly (hhides : HidesQuietly hides cs rest) (h : Passes hides p false cs rest) :
    Evenly cs rest := by
  obtain ⟨t, rfl, ht⟩ := h.exists_isEven
  exact ⟨t, ht fun hverbose => hhides hverbose t rfl, rfl⟩

end HidesQuietly

theorem hidesQuietly_of_shows (hshows : hides = false) (cs rest : List Char) :
    HidesQuietly hides cs rest :=
  fun hhides => absurd (hhides.symm.trans hshows) Bool.true_eq_false.mp

end PhotoGrouping.PatternScan
