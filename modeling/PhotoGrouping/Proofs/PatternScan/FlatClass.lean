import PhotoGrouping.Proofs.PatternScan.Stages

namespace PhotoGrouping.PatternScan

open Regex Text

/-- Whether a character occurs in a text outside of backslash sequences. -/
def holdsBare (d : Char) : List Char → Bool
  | [] => false
  | '\\' :: _ :: cs => holdsBare d cs
  | c :: cs => c == d || holdsBare d cs

/-- Whether a text runs on to a rest with no closing bracket but behind backslashes. -/
inductive StaysIn : List Char → List Char → Prop
  | done (cs : List Char) : StaysIn cs cs
  | escape (c : Char) {cs rest : List Char} : StaysIn cs rest → StaysIn ('\\' :: c :: cs) rest
  | plain {c : Char} {cs rest : List Char} :
    c ≠ '\\' → c ≠ ']' → StaysIn cs rest → StaysIn (c :: cs) rest

variable {c d : Char} {cs rest r t : List Char} {f : Flags}

theorem holdsBare_cons (hc : c ≠ '\\') (cs : List Char) :
    holdsBare d (c :: cs) = (c == d || holdsBare d cs) := by
  rw [holdsBare]
  rintro c' cs' rfl
  exact absurd rfl hc

theorem StaysIn.trans (h : StaysIn cs rest) (h' : StaysIn rest r) : StaysIn cs r := by
  induction h with
  | done cs => exact h'
  | escape c _ ih => exact (ih h').escape c
  | plain hc hclose _ ih => exact (ih h').plain hc hclose

theorem staysIn_twice (hc : c ≠ '\\') (hclose : c ≠ ']') (cs : List Char) :
    StaysIn (c :: c :: cs) cs :=
  ((StaysIn.done cs).plain hc hclose).plain hc hclose

theorem Quietly.staysIn (h : Quietly cs rest) : StaysIn cs rest := by
  obtain ⟨t, ht, rfl⟩ := h
  induction t with
  | nil => exact .done rest
  | cons c t ih =>
    have htail := ih fun d hd => ht d (List.mem_cons_of_mem c hd)
    have hc := ht c List.mem_cons_self
    simp only [isQuiet, Bool.and_eq_true, bne_iff_ne, ne_eq] at hc
    exact htail.plain hc.2 hc.1.2

/-- What a text runs on to has no bare character that the whole does not have. -/
theorem StaysIn.exists_append (h : StaysIn cs rest) :
    ∃ p, cs = p ++ rest ∧ ∀ d t, holdsBare d (p ++ t) = false → holdsBare d t = false := by
  induction h with
  | done cs => exact ⟨[], rfl, fun _ _ ht => ht⟩
  | escape c _ ih =>
    obtain ⟨p, rfl, hp⟩ := ih
    refine ⟨'\\' :: c :: p, rfl, ?_⟩
    intro d t ht
    exact hp d t ht
  | @plain c cs rest hc _ _ ih =>
    obtain ⟨p, rfl, hp⟩ := ih
    refine ⟨c :: p, rfl, ?_⟩
    intro d t ht
    rw [List.cons_append, holdsBare_cons hc, Bool.or_eq_false_iff] at ht
    exact hp d t ht.2

theorem State.step_inClass (hc : c ≠ '\\') (hclose : c ≠ ']') :
    State.step { inClass := true } c = { inClass := true } := by
  unfold State.step
  split
  · rfl
  · split
    · exact absurd rfl hc
    · rfl
    · exact absurd rfl hclose
    · rfl

theorem StaysIn.countFrom_eq (h : StaysIn cs rest) :
    countFrom { inClass := true } cs = countFrom { inClass := true } rest := by
  induction h with
  | done cs => rfl
  | escape c _ ih => simpa [countFrom, State.step, State.isPlain] using ih
  | plain hc hclose _ ih => simpa [countFrom, State.step_inClass hc hclose, State.isPlain] using ih

/-- Whether the text of a bracket up to its end, given the rest after it, has no bare `[`. -/
def IsFlatUpTo (r cs : List Char) : Prop :=
  ∀ t, cs = t ++ ']' :: r → holdsBare '[' t = false

theorem IsFlatUpTo.of_staysIn (h : IsFlatUpTo r cs) (hrest : StaysIn cs rest) :
    IsFlatUpTo r rest := by
  intro t ht
  obtain ⟨p, rfl, hp⟩ := hrest.exists_append
  apply hp
  apply h
  rw [ht, List.append_assoc]

theorem IsFlatUpTo.not_append (h : IsFlatUpTo r ('[' :: cs)) : ¬ ∃ t, cs = t ++ ']' :: r := by
  rintro ⟨t, rfl⟩
  have ht := h ('[' :: t) rfl
  rw [holdsBare_cons (by decide)] at ht
  cases ht

section Reading

variable (hshows : f.verbose = false)

include hshows

theorem staysIn_readClassAtom {e : EscapeSequence} (hclose : c ≠ ']')
    (hread : readClassAtom f c cs = .ok (e, r)) : StaysIn (c :: cs) r := by
  unfold readClassAtom at hread
  split at hread
  · rename_i hc
    obtain rfl := beq_iff_eq.mp hc
    cases cs with
    | nil => cases hread
    | cons d cs =>
      have hquiet := (hidesQuietly_of_shows hshows cs r).quietly (passes_readEscape hread)
      exact hquiet.staysIn.escape d
  · rename_i hc
    obtain ⟨-, rfl⟩ := Prod.mk.inj (Except.ok.inj hread)
    exact (StaysIn.done cs).plain (by simpa using hc) hclose

theorem staysIn_readMember {m : CharClass} (hclose : c ≠ ']')
    (hread : readMember f c cs = .ok (m, r)) : StaysIn (c :: cs) r := by
  unfold readMember at hread
  split at hread
  · cases hread
  · rename_i lo after hlo
    have hatom := staysIn_readClassAtom hshows hclose hlo
    rw [Flags.skip_eq_self hshows] at hread
    split at hread
    · cases hread
    · rename_i behind
      split at hread
      · obtain ⟨m', -, heq⟩ := eq_of_map_eq_ok hread
        obtain ⟨-, rfl⟩ := Prod.mk.inj heq
        exact hatom
      · rename_i hvisible
        have hdash := hatom.trans ((StaysIn.done behind).plain (by decide) (by decide))
        rw [Flags.skip_eq_self hshows] at hread
        split at hread
        · cases hread
        · rename_i d tail
          have hd : d ≠ ']' := by
            rintro rfl
            simp [visibleAfterDash, hshows] at hvisible
          split at hread
          · cases hread
          · rename_i hi back hhi
            obtain ⟨m', -, heq⟩ := eq_of_map_eq_ok hread
            obtain ⟨-, rfl⟩ := Prod.mk.inj heq
            exact hdash.trans (staysIn_readClassAtom hshows hd hhi)
    · obtain ⟨m', -, heq⟩ := eq_of_map_eq_ok hread
      obtain ⟨-, rfl⟩ := Prod.mk.inj heq
      exact hatom

theorem staysIn_readDashes (l : ClassLevel) (cs : List Char) :
    StaysIn cs (readDashes f l cs).2 := by
  fun_induction readDashes f l cs with
  | case1 l rest ih =>
    rw [Flags.skip_eq_self hshows] at ih ⊢
    exact ih.plain (by decide) (by decide)
  | case2 l cs => exact StaysIn.done cs

end Reading

theorem members_readDashes (f : Flags) (l : ClassLevel) (cs : List Char) :
    l.members <+: (readDashes f l cs).1.members := by
  fun_induction readDashes f l cs with
  | case1 l rest ih => exact (List.prefix_append l.members _).trans ih
  | case2 l cs => exact List.prefix_refl l.members

/-- A bracket without members has no `-` at its front. -/
theorem readDashes_of_members_eq_nil {l : ClassLevel}
    (h : (readDashes f l cs).1.members = []) : (readDashes f l cs).2 = cs := by
  fun_induction readDashes f l cs with
  | case1 l rest ih =>
    have hprefix := members_readDashes f (l.add ⟨.single '-', 0⟩) (f.skip rest)
    rw [h, List.prefix_nil] at hprefix
    simp [ClassLevel.add] at hprefix
  | case2 l cs => rfl

/-- The text of a bracket behind the `^` at its front, if there is one. -/
def behindCaret : List Char → List Char
  | '^' :: cs => cs
  | cs => cs

section Reading

variable (hshows : f.verbose = false)

include hshows

theorem staysIn_openBracket (hfirst : (behindCaret cs).head? ≠ some ']') :
    StaysIn cs (openBracket f cs).2 := by
  unfold openBracket
  rw [Flags.skip_eq_self hshows]
  split
  rename_i negated rest heq
  obtain ⟨hcaret, hrest⟩ : StaysIn cs rest ∧ rest = behindCaret cs := by
    split at heq
    · rename_i after
      rw [Flags.skip_eq_self hshows] at heq
      obtain ⟨-, rfl⟩ := Prod.mk.inj heq
      exact ⟨(StaysIn.done after).plain (by decide) (by decide), rfl⟩
    · rename_i hsign
      obtain ⟨-, rfl⟩ := Prod.mk.inj heq
      refine ⟨StaysIn.done cs, ?_⟩
      unfold behindCaret
      split
      · rename_i after
        exact absurd rfl (hsign after)
      · rfl
  have hdashes := hcaret.trans (staysIn_readDashes hshows ⟨negated, none, []⟩ rest)
  have hnone : (readDashes f ⟨negated, none, []⟩ rest).1.members = [] →
      (readDashes f ⟨negated, none, []⟩ rest).2 = rest := readDashes_of_members_eq_nil
  split
  rename_i l after hread
  rw [hread] at hdashes hnone
  split
  · rename_i tail hmembers
    have hrest' : ']' :: tail = behindCaret cs := (hnone hmembers).trans hrest
    rw [← hrest'] at hfirst
    exact absurd rfl hfirst
  · exact hdashes

/-- A bracket whose text has no bare `[` is read up to its first bare `]`. -/
theorem staysIn_readClassBody {l : ClassLevel} {m : ClassMember} (hflat : IsFlatUpTo r cs)
    (hread : readClassBody f l [] cs = .ok (m, r)) : StaysIn cs (']' :: r) := by
  have hskip (cs : List Char) : f.skip cs = cs := Flags.skip_eq_self hshows cs
  generalize houter : ([] : List ClassLevel) = outer at hread
  fun_induction readClassBody f l outer cs with
  | case1 => cases hread
  | case2 => cases hread
  | case3 l outer cs rest hc negated s rest' ha s' hn ih =>
    rw [hskip] at hc
    rw [hc] at hflat
    have hback := (passes_asciiClassAt? ha).trans (passes_readClassBody hread)
    exact absurd hback.exists_append hflat.not_append
  | case4 l outer cs rest hc ha ih =>
    rw [hskip] at hc
    rw [hc] at hflat
    have hback := (passes_openBracket f rest).trans (passes_readClassBody hread)
    exact absurd hback.exists_append hflat.not_append
  | case5 => cases hread
  | case6 l cs rest hc m' hm =>
    rw [hskip] at hc
    obtain ⟨-, rfl⟩ := Prod.mk.inj (Except.ok.inj hread)
    rw [hc]
    exact StaysIn.done _
  | case7 => cases houter
  | case8 l outer cs rest hc ih | case9 l outer cs rest hc ih | case10 l outer cs rest hc ih =>
    rw [hskip] at hc
    rw [hc] at hflat ⊢
    have hrest := hflat.of_staysIn (staysIn_twice (by decide) (by decide) rest)
    exact (staysIn_twice (by decide) (by decide) rest).trans (ih hrest houter hread)
  | case11 => cases hread
  | case12 l outer cs c rest _ hclose _ _ _ hc s rest' hm ih =>
    rw [hskip] at hc
    rw [hc] at hflat ⊢
    have hmember := staysIn_readMember hshows hclose hm
    exact hmember.trans (ih (hflat.of_staysIn hmember) houter hread)

end Reading

/-- Whether the text of a bracket has no bare `[`, and no `]` as its first member. -/
def isFlatText (t : List Char) : Bool :=
  !holdsBare '[' t && (behindCaret t).head? != some ']'

theorem holdsBare_append (hd : d ≠ '\\') (h : holdsBare d (t ++ r) = false) :
    holdsBare d t = false := by
  fun_induction holdsBare d t with
  | case1 => rfl
  | case2 c cs ih => exact ih h
  | case3 c cs hc ih =>
    by_cases hbackslash : c = '\\'
    · subst hbackslash
      cases cs with
      | nil => simpa [holdsBare] using hd.symm
      | cons c cs => exact absurd rfl (hc c cs rfl)
    · rw [List.cons_append, holdsBare_cons hbackslash, Bool.or_eq_false_iff] at h
      rw [h.1, ih h.2, Bool.or_false]

theorem head?_behindCaret_append_bracket (t r : List Char) :
    (behindCaret (t ++ ']' :: r)).head? = (behindCaret (t ++ [']'])).head? := by
  have hhead (t : List Char) : (t ++ ']' :: r).head? = (t ++ [']']).head? := by
    cases t with
    | nil => rfl
    | cons c t => rfl
  cases t with
  | nil => rfl
  | cons c t =>
    by_cases hc : c = '^'
    · subst hc
      exact hhead t
    · have hsame (cs : List Char) : behindCaret (c :: cs) = c :: cs := by
        unfold behindCaret
        split
        · rename_i heq
          exact absurd (List.cons.inj heq).1 hc
        · rfl
      rw [List.cons_append, List.cons_append, hsame, hsame, List.head?_cons, List.head?_cons]

theorem staysIn_readClass {m : ClassMember} (hshows : f.verbose = false)
    (hflat : isFlatText (cs.take (cs.length - r.length)) = true)
    (hread : readClass f cs = .ok (m, r)) : StaysIn cs (']' :: r) := by
  obtain ⟨t, rfl⟩ := (passes_readClass hread).exists_append
  have htext : (t ++ ']' :: r).take ((t ++ ']' :: r).length - r.length) = t ++ [']'] := by
    rw [List.append_cons, List.length_append, Nat.add_sub_cancel, List.take_left]
  rw [htext, isFlatText, Bool.and_eq_true, Bool.not_eq_true', bne_iff_ne] at hflat
  have hbare : IsFlatUpTo r (t ++ ']' :: r) := by
    intro u hu
    rw [← List.append_cancel_right hu]
    exact holdsBare_append (by decide) hflat.1
  have hfirst := hflat.2
  rw [← head?_behindCaret_append_bracket t r] at hfirst
  have hopen := staysIn_openBracket hshows hfirst
  exact hopen.trans (staysIn_readClassBody hshows (hbare.of_staysIn hopen) hread)

/-- A scan counts no group in a class whose text is flat. -/
theorem countFrom_of_isFlatText {m : ClassMember} (hshows : f.verbose = false)
    (hflat : isFlatText (cs.take (cs.length - r.length)) = true)
    (hread : readClass f cs = .ok (m, r)) :
    countFrom { inClass := true } (cs.take (cs.length - r.length)) = 0 := by
  have hstays := staysIn_readClass hshows hflat hread
  have hclass := countFrom_class (hidesQuietly_of_shows hshows cs (']' :: r)) hread
  have hopen : countFrom {} ('[' :: cs) = countFrom { inClass := true } cs := by
    simp [countFrom, State.step]
  have hclose : countFrom { inClass := true } (']' :: r) = countFrom {} r := by
    simp [countFrom, State.step, State.isPlain]
  rw [hopen, hstays.countFrom_eq, hclose] at hclass
  omega

end PhotoGrouping.PatternScan
