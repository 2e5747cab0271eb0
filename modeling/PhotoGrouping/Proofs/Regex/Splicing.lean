import PhotoGrouping.Proofs.Regex.Growth
import PhotoGrouping.Proofs.Regex.Within

namespace PhotoGrouping.Regex

/-- What a text comes to that stands at the front of a branch, before the end of the branch, where a
pattern has been read as far as `s`: the text is read within the pattern as it is read alone, unless
a name clashes; or a comment at its end hides the end of the branch, and it is read alike at most;
or it is refused within the pattern as it is alone, unless it ends too early. -/
inductive Spliced (s st : ParseState) (cs : List Char) : Prop
  | closed (st' : ParseState) (own : parseFrom st cs = .ok st')
      (all : ∀ tail, EndsBranch tail →
        parseFrom (s.within st) (cs ++ tail) = parseFrom (s.within st') tail ∨
          s.Clashes st' ∧ ∃ e, parseFrom (s.within st) (cs ++ tail) = .error e)
  | commented (st' : ParseState) (own : parseFrom st cs = .ok st')
      (bar : parseFrom st (cs ++ ['|']) = .ok st')
      (all : ∀ tail, EndsBranch tail → (∃ e, parseFrom (s.within st) (cs ++ tail) = .error e) ∨
        ∃ st'' rest, Alike st' st'' ∧
          parseFrom (s.within st) (cs ++ tail) = parseFrom (s.within st'') rest)
  | failed (e : ParseError) (own : parseFrom st cs = .error e)
      (all : ∀ tail, EndsBranch tail → ∃ e', parseFrom (s.within st) (cs ++ tail) = .error e')
  | unfinished (e : ParseError) (own : parseFrom st cs = .error e) (mendable : e.isMendable = true)

section

variable {s st st' : ParseState} {c : Char} {cs cs' rest rest' tail : List Char} {e : ParseError}

theorem parseFrom_of_skip_nil (h : st.flags.skip cs = []) : parseFrom st cs = .ok st := by
  rw [parseFrom_eq, h]

theorem parseFrom_of_skip
    (hs : st.flags.skip cs = c :: rest) (hi : readItem st c rest = .ok (st', rest')) :
    parseFrom st cs = parseFrom st' rest' := by
  rw [parseFrom_eq, hs]
  simp only [hi]

theorem parseFrom_error (hs : st.flags.skip cs = c :: rest) (hi : readItem st c rest = .error e) :
    parseFrom st cs = .error e := by
  rw [parseFrom_eq, hs]
  simp only [hi]

/-- Where nothing that counts comes before the end of a branch, that is read next. -/
theorem parseFrom_endsBranch (htail : EndsBranch tail) (hs : st.flags.skip cs = tail) :
    parseFrom st cs = parseFrom st tail := by
  rw [parseFrom_eq, hs, parseFrom_eq st tail, htail.skip]

theorem outer_ne_nil_of_readItem (hi : readItem st c rest = .ok (st', rest')) (hc : c = ')') :
    st.outer ≠ [] := by
  subst hc
  intro houter
  obtain ⟨next, hleave, -⟩ := eq_of_map_eq_ok hi
  obtain ⟨o, outer, hcons, -⟩ := ParseState.leave_eq_ok hleave
  rw [houter] at hcons
  cases hcons

/-- An item that is read alone is read within a pattern, unless a name clashes. -/
theorem readItem_within (own : readItem st c rest = .ok (st', rest')) :
    readItem (s.within st) c rest = .ok (s.within st', rest') ∨
      s.Clashes st' ∧ ∃ e, readItem (s.within st) c rest = .error e := by
  obtain hthrough | ⟨e, he, hclash⟩ := carries_readItem (s := s) (outer_ne_nil_of_readItem own) rest
  · left
    rw [hthrough, own]
    rfl
  · exact Or.inr ⟨hclash st' rest' own, e, he⟩

/-- An item that is refused alone is refused within a pattern, unless it closes a group that the
text has not opened. -/
theorem readItem_within_error (hclose : c = ')' → st.outer ≠ [])
    (own : readItem st c rest = .error e) :
    ∃ e', readItem (s.within st) c rest = .error e' := by
  obtain hthrough | ⟨e', he', -⟩ := carries_readItem (s := s) hclose rest
  · exact ⟨e, by rw [hthrough, own]; rfl⟩
  · exact ⟨e', he'⟩

namespace Spliced

/-- An item before a text. -/
theorem prepend (h : Spliced s st' rest) (own : parseFrom st cs = parseFrom st' rest)
    (bar : parseFrom st (cs ++ ['|']) = parseFrom st' (rest ++ ['|']))
    (all : ∀ tail, EndsBranch tail →
      parseFrom (s.within st) (cs ++ tail) = parseFrom (s.within st') (rest ++ tail) ∨
        s.Clashes st' ∧ ∃ e, parseFrom (s.within st) (cs ++ tail) = .error e) : Spliced s st cs := by
  cases h with
  | closed last hown hall =>
    refine .closed last (own.trans hown) fun tail htail => ?_
    obtain heq | ⟨⟨name, hname, hbefore⟩, herror⟩ := all tail htail
    · rw [heq]
      exact hall tail htail
    · exact Or.inr ⟨⟨name, (grows_of_parseFrom hown).2.2 hname, hbefore⟩, herror⟩
  | commented last hown hbar hall =>
    refine .commented last (own.trans hown) (bar.trans hbar) fun tail htail => ?_
    obtain heq | ⟨-, herror⟩ := all tail htail
    · rw [heq]
      exact hall tail htail
    · exact Or.inl herror
  | failed e hown hall =>
    refine .failed e (own.trans hown) fun tail htail => ?_
    obtain heq | ⟨-, herror⟩ := all tail htail
    · rw [heq]
      exact hall tail htail
    · exact herror
  | unfinished e hown mendable => exact .unfinished e (own.trans hown) mendable

end Spliced

/-- A text at the front of a branch of a pattern, before the end of the branch. -/
theorem spliced (s st : ParseState) (cs : List Char) : Spliced s st cs := by
  -- By induction on the reading of the text alone: each item says what the end of the branch does.
  fun_induction parseFrom st cs with
  | case1 st cs hc =>
    obtain hall | hbar := Flags.skip_append_of_nil hc
    · refine .closed st (parseFrom_of_skip_nil hc) fun tail htail => Or.inl ?_
      exact parseFrom_endsBranch htail (hall tail htail)
    · exact .commented st (parseFrom_of_skip_nil hc) (parseFrom_of_skip_nil hbar) fun tail _ =>
        Or.inr ⟨st, cs ++ tail, alike_of_eq rfl, rfl⟩
  | case2 st cs c rest hc e hi =>
    have hc' := Flags.skip_append_of_cons hc
    have hwithin (tail) : (s.within st).flags.skip (cs ++ tail) = c :: (rest ++ tail) := hc' tail
    have hown : parseFrom st cs = .error e := parseFrom_error hc hi
    by_cases hclose : c = ')' → st.outer ≠ []
    · cases followed_readItem st c rest with
      | closed a rest' own all =>
        rw [hi] at own
        cases own
      | commented a own bar all =>
        rw [hi] at own
        cases own
      | failed e' own all =>
        refine .failed e hown fun tail htail => ?_
        obtain ⟨e₁, he₁⟩ := all tail htail
        obtain ⟨e₂, he₂⟩ := readItem_within_error (s := s) hclose he₁
        exact ⟨e₂, parseFrom_error (hwithin tail) he₂⟩
      | unfinished e' own mendable =>
        obtain rfl := Except.error.inj (hi.symm.trans own)
        exact .unfinished e hown mendable
    · -- A bracket that closes a group of the pattern around the text.
      obtain ⟨rfl, houter⟩ := Classical.not_imp.mp hclose
      have hunopened : readItem st ')' rest = .error .unopenedGroup := by
        change st.leave.map _ = _
        rw [ParseState.leave, not_not.mp houter]
        rfl
      obtain rfl := Except.error.inj (hi.symm.trans hunopened)
      exact .unfinished _ hown rfl
  | case3 st cs c rest hc next rest' hi ih =>
    have hc' := Flags.skip_append_of_cons hc
    have hwithin (tail) : (s.within st).flags.skip (cs ++ tail) = c :: (rest ++ tail) := hc' tail
    have hown : parseFrom st cs = parseFrom next rest' := parseFrom_of_skip hc hi
    cases followed_readItem st c rest with
    | closed a rest₁ own all =>
      obtain ⟨rfl, rfl⟩ := Prod.mk.inj (Except.ok.inj (hi.symm.trans own))
      refine ih.prepend hown (parseFrom_of_skip (hc' _) (all _ endsBranch_bar)) fun tail htail => ?_
      obtain hok | ⟨hclash, e, he⟩ := readItem_within (s := s) (all tail htail)
      · exact Or.inl (parseFrom_of_skip (hwithin tail) hok)
      · exact Or.inr ⟨hclash, e, parseFrom_error (hwithin tail) he⟩
    | commented a own bar all =>
      obtain ⟨rfl, rfl⟩ := Prod.mk.inj (Except.ok.inj (hi.symm.trans own))
      have hend : parseFrom next [] = .ok next := parseFrom_of_skip_nil next.flags.skip_nil
      refine .commented next (hown.trans hend) ((parseFrom_of_skip (hc' _) bar).trans hend) ?_
      intro tail htail
      cases hitem : readItem st c (rest ++ tail) with
      | error e =>
        obtain ⟨e', he'⟩ := readItem_within_error (s := s) (outer_ne_nil_of_readItem hi) hitem
        exact Or.inl ⟨e', parseFrom_error (hwithin tail) he'⟩
      | ok x =>
        obtain hok | ⟨-, e, he⟩ := readItem_within (s := s) hitem
        · exact Or.inr ⟨x.1, x.2, all tail htail x.1 x.2 hitem,
            parseFrom_of_skip (hwithin tail) hok⟩
        · exact Or.inl ⟨e, parseFrom_error (hwithin tail) he⟩
    | failed e own all =>
      rw [hi] at own
      cases own
    | unfinished e own mendable =>
      rw [hi] at own
      cases own

end

end PhotoGrouping.Regex
