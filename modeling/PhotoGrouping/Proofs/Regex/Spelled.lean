import PhotoGrouping.Proofs.Regex.Alike
import PhotoGrouping.Proofs.Regex.Followed.Item
import PhotoGrouping.Proofs.Regex.Items

namespace PhotoGrouping.Regex

open Text
open List (Forall₂)

/-- Whether each letter of a pattern text stands for itself: there are no bracketed classes, counts
and settings, and backslashes only before signs. -/
def isSpelled : List Char → Bool
  | [] => true
  | '\\' :: c :: cs => isMeta c && isSpelled cs
  | c :: cs =>
    c != '\\' && c != '[' && c != '{' && !(c == '(' && cs.head? == some '?') && isSpelled cs

/-- Whether two texts differ, character by character, in case only. -/
def SameButCase (cs ds : List Char) : Prop :=
  Forall₂ (fun c d => foldChar c = foldChar d) cs ds

variable {st st' : ParseState} {c d : Char} {cs ds : List Char}

theorem alike_literal (h : foldChar c = foldChar d) :
    ((folding true).literal c).Alike ((folding true).literal d) := by
  have hcontains (c e : Char) : (CharClass.caseless (.single c)).contains e = true ↔
      foldChar c = foldChar e := by
    rw [← mem_caseVariants_iff]
    simp only [CharClass.contains, CharClass.contains_single, Bool.or_eq_true, decide_eq_true_eq,
      List.any_eq_true, exists_eq_right, or_iff_right_iff_imp]
    rintro rfl
    exact mem_caseVariants_iff.mpr rfl
  refine .oneOf fun e => ?_
  rw [Bool.eq_iff_iff]
  change (CharClass.caseless (.single c)).contains e = true ↔
    (CharClass.caseless (.single d)).contains e = true
  rw [hcontains, hcontains, h]

theorem eq_of_isMeta (hc : isMeta c = true) (h : foldChar c = foldChar d) : d = c := by
  have hall : metaChars.all (fun c => isUncased c && foldChar c == c) = true := by decide +kernel
  have hsign := List.all_eq_true.mp hall c (List.contains_iff_mem.mp hc)
  rw [Bool.and_eq_true, beq_iff_eq] at hsign
  exact eq_of_foldChar_eq hsign.1 (h.symm.trans hsign.2)

theorem SameButCase.head?_ne (h : SameButCase cs ds) (hc : isMeta c = true)
    (hcs : cs.head? ≠ some c) : ds.head? ≠ some c := by
  cases h with
  | nil => exact hcs
  | cons hd _ =>
    rw [List.head?_cons] at hcs ⊢
    intro heq
    obtain rfl := Option.some.inj heq
    exact hcs (congrArg some (eq_of_isMeta hc hd.symm))

/-- What is left of two texts behind alike states. -/
structure LeftAlike (x y : ParseState × List Char) : Prop where
  state : x.1.Alike y.1
  texts : SameButCase x.2 y.2
  spelled : isSpelled x.2 = true

theorem agree_map_rest {x y : Except ParseError ParseState} (h : Agree ParseState.Alike x y)
    (htexts : SameButCase cs ds) (hspelled : isSpelled cs = true) :
    Agree LeftAlike (x.map (·, cs)) (y.map (·, ds)) := by
  rcases h.cases with ⟨e, e', rfl, rfl⟩ | ⟨st, st', rfl, rfl, hst⟩
  · trivial
  · exact ⟨hst, htexts, hspelled⟩

theorem isSpelled_cons (hc : c ≠ '\\') (cs : List Char) :
    isSpelled (c :: cs) = (c != '\\' && c != '[' && c != '{' &&
      !(c == '(' && cs.head? == some '?') && isSpelled cs) := by
  rw [isSpelled]
  rintro d cs rfl
  exact absurd rfl hc

theorem isSpelled_of_cons (hc : c ≠ '\\') (h : isSpelled (c :: cs) = true) :
    isSpelled cs = true := by
  rw [isSpelled_cons hc] at h
  exact (Bool.and_eq_true_iff.mp h).2

theorem readLazy_of_sameButCase (h : SameButCase cs ds) (hspelled : isSpelled cs = true) :
    (readLazy cs).1 = (readLazy ds).1 ∧ SameButCase (readLazy cs).2 (readLazy ds).2 ∧
      isSpelled (readLazy cs).2 = true := by
  by_cases hlazy : cs.head? = some '?'
  · obtain ⟨rest, rfl⟩ := List.head?_eq_some_iff.mp hlazy
    cases h with
    | cons hd hrest =>
      obtain rfl := eq_of_isMeta (by decide) hd
      exact ⟨rfl, hrest, isSpelled_of_cons (by decide) hspelled⟩
  · have hgreedy {cs : List Char} (h : cs.head? ≠ some '?') : readLazy cs = (false, cs) := by
      unfold readLazy
      split
      · exact absurd rfl h
      · rfl
    rw [hgreedy hlazy, hgreedy (h.head?_ne (by decide) hlazy)]
    exact ⟨rfl, h, hspelled⟩

theorem agree_readRepeat (h : st.Alike st') (htexts : SameButCase cs ds)
    (hspelled : isSpelled cs = true) (least : Nat) (most : Option Nat) :
    Agree LeftAlike (readRepeat st least most cs) (readRepeat st' least most ds) := by
  obtain ⟨hlazy, hrest, hspelled⟩ := readLazy_of_sameButCase htexts hspelled
  unfold readRepeat
  rw [← hlazy]
  exact agree_map_rest (h.repeatLast least most _) hrest hspelled

theorem openGroup_of_head? (hflags : st.flags = folding true) (h : cs.head? ≠ some '?') :
    openGroup st cs = .ok (st.enterCapture, cs) := by
  have hskip : st.flags.skip cs = cs := by
    rw [hflags]
    exact Flags.skip_eq_self rfl cs
  have hopen : ∀ r, st.flags.skip cs ≠ '?' :: r := by
    intro r hr
    rw [← hskip, hr] at h
    exact h rfl
  rw [openGroup_capture hopen, hskip]

theorem agree_openGroup (h : st.Alike st') (htexts : SameButCase cs ds)
    (hspelled : isSpelled ('(' :: cs) = true) :
    Agree LeftAlike (openGroup st cs) (openGroup st' ds) := by
  have hcs : cs.head? ≠ some '?' := by
    intro hhead
    simp [isSpelled_cons, hhead] at hspelled
  rw [openGroup_of_head? h.flags.1 hcs, openGroup_of_head? h.flags.2 (htexts.head?_ne (by decide) hcs)]
  exact ⟨h.enterCapture, htexts, isSpelled_of_cons (by decide) hspelled⟩

theorem agree_escape (h : st.Alike st') (htexts : SameButCase cs ds)
    (hspelled : isSpelled ('\\' :: cs) = true) :
    Agree LeftAlike (readItem st '\\' cs) (readItem st' '\\' ds) := by
  obtain ⟨hflags, hflags'⟩ := h.flags
  cases htexts with
  | nil => cases hspelled
  | @cons c d cs ds hcd hrest =>
    rw [isSpelled, Bool.and_eq_true] at hspelled
    obtain ⟨hc, hspelled⟩ := hspelled
    obtain rfl := eq_of_isMeta hc hcd
    simp only [readItem, readEscape_of_isMeta hc, hflags, hflags']
    exact ⟨h.pushLeaf (alike_literal rfl), hrest, hspelled⟩

/-- Items that differ in case only are read alike. -/
theorem agree_readItem (h : st.Alike st') (hcd : foldChar c = foldChar d)
    (htexts : SameButCase cs ds) (hspelled : isSpelled (c :: cs) = true) :
    Agree LeftAlike (readItem st c cs) (readItem st' d ds) := by
  obtain ⟨hflags, hflags'⟩ := h.flags
  by_cases hc : isMeta c = true
  · obtain rfl := eq_of_isMeta hc hcd
    by_cases hbackslash : d = '\\'
    · subst hbackslash
      exact agree_escape h htexts hspelled
    · have hrest := isSpelled_of_cons hbackslash hspelled
      unfold readItem
      split
      case h_1 => exact agree_openGroup h htexts hspelled
      case h_2 => exact agree_map_rest h.leave htexts hrest
      case h_3 => exact ⟨h.nextBranch, htexts, hrest⟩
      case h_5 | h_6 | h_7 => exact agree_readRepeat h htexts hrest _ _
      case h_4 | h_8 => cases hspelled
      case h_9 => exact absurd rfl hbackslash
      case h_10 =>
        rw [hflags, hflags']
        exact ⟨h.pushLeaf (.oneOf fun _ => rfl), htexts, hrest⟩
      case h_11 | h_12 =>
        rw [hflags, hflags']
        exact ⟨h.pushLeaf (.look _), htexts, hrest⟩
      case h_13 =>
        rw [hflags, hflags']
        exact ⟨h.pushLeaf (alike_literal rfl), htexts, hrest⟩
  · rw [Bool.not_eq_true] at hc
    have hd : isMeta d = false := by
      by_contra hd
      rw [Bool.not_eq_false] at hd
      rw [eq_of_isMeta hd hcd.symm, hd] at hc
      cases hc
    have hbackslash : c ≠ '\\' := by
      rintro rfl
      cases hc
    rw [readItem_of_not_isMeta hc, readItem_of_not_isMeta hd, hflags, hflags']
    exact ⟨h.pushLeaf (alike_literal hcd), htexts, isSpelled_of_cons hbackslash hspelled⟩

theorem agree_parseFrom (h : st.Alike st') (htexts : SameButCase cs ds)
    (hspelled : isSpelled cs = true) :
    Agree ParseState.Alike (parseFrom st cs) (parseFrom st' ds) := by
  have hskip {st : ParseState} (hflags : st.flags = folding true) (cs : List Char) :
      st.flags.skip cs = cs := by
    rw [hflags]
    exact Flags.skip_eq_self rfl cs
  -- The induction is on the first reading; the second one follows it item by item.
  fun_induction parseFrom st cs generalizing st' ds with
  | case1 st cs hc =>
    rw [hskip h.flags.1] at hc
    subst hc
    obtain rfl := List.forall₂_nil_left_iff.mp htexts
    rw [parseFrom_eq, hskip h.flags.2]
    exact h
  | case2 st cs c rest hc e hi =>
    rw [hskip h.flags.1] at hc
    subst hc
    obtain ⟨d, ds, hcd, hrest, rfl⟩ := List.forall₂_cons_left_iff.mp htexts
    have hitem := agree_readItem h hcd hrest hspelled
    rw [hi] at hitem
    rcases hitem.cases with ⟨e, e', -, hi'⟩ | ⟨x, y, hx, -, -⟩
    · simp only [parseFrom_eq st' (d :: ds), hskip h.flags.2, hi']
      trivial
    · cases hx
  | case3 st cs c rest hc next after hi ih =>
    rw [hskip h.flags.1] at hc
    subst hc
    obtain ⟨d, ds, hcd, hrest, rfl⟩ := List.forall₂_cons_left_iff.mp htexts
    have hitem := agree_readItem h hcd hrest hspelled
    rw [hi] at hitem
    rcases hitem.cases with ⟨e, e', he, -⟩ | ⟨x, y, hx, hi', hnext⟩
    · cases he
    · obtain rfl := Except.ok.inj hx
      simp only [parseFrom_eq st' (d :: ds), hskip h.flags.2, hi']
      exact ih hnext.state hnext.texts hnext.spelled

theorem agree_finish (h : st.Alike st') : Agree Expr.Alike st.finish st'.finish := by
  have hgroup := h.groupNode
  have houter := h.outer
  unfold ParseState.finish
  cases hst : st.outer with
  | cons o outer =>
    rw [hst] at houter
    obtain ⟨o', outer', -, -, hst'⟩ := List.forall₂_cons_left_iff.mp houter
    rw [hst']
    trivial
  | nil =>
    rw [hst, List.forall₂_nil_left_iff] at houter
    rw [houter]
    dsimp only
    rw [← hgroup.depth]
    split
    · trivial
    · exact hgroup.expr

/-- Patterns whose letters all stand for themselves, and that differ in case only, are read alike
without regard to case. -/
theorem readAlike_of_sameButCase {text text' : String} (hspelled : isSpelled text.toList = true)
    (htexts : SameButCase text.toList text'.toList) :
    ReadAlike (Regex.parse text true) (Regex.parse text' true) := by
  have hstart : ParseState.Alike { flags := folding true } { flags := folding true } :=
    ⟨⟨rfl, rfl⟩, .nil, .nil, .nil, rfl⟩
  have hparse := agree_parseFrom hstart htexts hspelled
  unfold ReadAlike Regex.parse Regex.read
  rcases hparse.cases with ⟨e, e', hx, hy⟩ | ⟨st, st', hx, hy, hst⟩
  · simp only [folding] at hx hy
    simp only [hx, hy]
    trivial
  · simp only [folding] at hx hy
    simp only [hx, hy]
    rcases (agree_finish hst).cases with ⟨e, e', hx, hy⟩ | ⟨r, r', hx, hy, hr⟩
    · simp only [hx, hy]
      trivial
    · have hfits : Regex.fits ⟨r⟩ = Regex.fits ⟨r'⟩ := by
        rw [Regex.fits, Regex.fits, hr.weight_eq]
      simp only [hx, hy]
      rw [← hfits]
      split
      · exact hr
      · trivial

end PhotoGrouping.Regex
