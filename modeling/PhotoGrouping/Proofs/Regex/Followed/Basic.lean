import PhotoGrouping.Proofs.Regex.Reads

namespace PhotoGrouping.Regex

open Text

/-- Whether an error says that a text ends too early, or closes a group that it does not open, so
that the text around it may make up for that. -/
def ParseError.isMendable : ParseError → Bool
  | .unopenedGroup | .unclosedGroup | .unclosedClass | .unfinishedEscape | .unfinishedFlags
  | .unclosedCount | .unclosedWordEdge | .unfinishedWordEdge => true
  | _ => false

/-- Whether a text begins with the end of a branch. -/
def EndsBranch (tail : List Char) : Prop :=
  ∃ c cs, tail = c :: cs ∧ (c = '|' ∨ c = ')')

/-- A reading with a text after what it leaves. -/
def Reading.before {α : Type} (x : Reading α) (tail : List Char) : Reading α :=
  x.map (Prod.map id (· ++ tail))

/-- A reading whose result and rest are read on. -/
def Reading.thenRead {α β : Type} (x : Reading α) (k : α → List Char → Reading β) : Reading β :=
  match x with
  | .error e => .error e
  | .ok (a, rest) => k a rest

/-- What the end of a branch behind a text does to a reading of the text: it is left as it is,
behind what the reading leaves; or a comment hides it, and what comes after the comment makes a like
result at most; or the text is refused with it as without it, unless the text ends too early. -/
inductive Followed {α : Type} (like : α → α → Prop) (r : List Char → Reading α) (cs : List Char) : Prop
  | closed (a : α) (rest : List Char) (own : r cs = .ok (a, rest))
      (all : ∀ tail, EndsBranch tail → r (cs ++ tail) = .ok (a, rest ++ tail))
  | commented (a : α) (own : r cs = .ok (a, [])) (bar : r (cs ++ ['|']) = .ok (a, []))
      (all : ∀ tail, EndsBranch tail → ∀ b rest, r (cs ++ tail) = .ok (b, rest) → like a b)
  | failed (e : ParseError) (own : r cs = .error e)
      (all : ∀ tail, EndsBranch tail → ∃ e', r (cs ++ tail) = .error e')
  | unfinished (e : ParseError) (own : r cs = .error e) (mendable : e.isMendable = true)

section

variable {α β : Type} {like : α → α → Prop} {like' : β → β → Prop} {r r' : List Char → Reading α}
  {k : α → List Char → Reading β} {f : Flags} {cs rest tail : List Char} {c : Char} {p : Char → Bool}

theorem endsBranch_bar : EndsBranch ['|'] :=
  ⟨'|', [], rfl, Or.inl rfl⟩

/-- The end of a branch is not hidden. -/
theorem EndsBranch.skipHidden (h : EndsBranch tail) : skipHidden false tail = tail := by
  obtain ⟨c, cs, rfl, rfl | rfl⟩ := h
  · rfl
  · rfl

theorem EndsBranch.skip (h : EndsBranch tail) (f : Flags) : f.skip tail = tail := by
  unfold Flags.skip
  split
  · exact h.skipHidden
  · rfl

theorem EndsBranch.dropWhile_append (h : EndsBranch tail) (cs : List Char) :
    (cs ++ tail).dropWhile isBlank = cs.dropWhile isBlank ++ tail := by
  rw [List.dropWhile_append]
  cases cs.dropWhile isBlank with
  | nil =>
    obtain ⟨c, cs', rfl, rfl | rfl⟩ := h
    · rfl
    · rfl
  | cons c rest => rfl

namespace Followed

/-- A reading that comes to another one, with the end of a branch as without it. -/
theorem of_eq (h : Followed like r' rest) (own : r cs = r' rest)
    (all : ∀ tail, EndsBranch tail → r (cs ++ tail) = r' (rest ++ tail)) : Followed like r cs := by
  cases h with
  | closed a rest' own' all' =>
    exact .closed a rest' (own.trans own') fun tail htail => (all tail htail).trans (all' tail htail)
  | commented a own' bar all' =>
    refine .commented a (own.trans own') ((all _ endsBranch_bar).trans bar) ?_
    intro tail htail b rest' hb
    exact all' tail htail b rest' ((all tail htail).symm.trans hb)
  | failed e own' all' =>
    refine .failed e (own.trans own') fun tail htail => ?_
    rw [all tail htail]
    exact all' tail htail
  | unfinished e own' mendable => exact .unfinished e (own.trans own') mendable

/-- A reading that stays within the text. -/
theorem of_before (h : ∀ tail, EndsBranch tail → r (cs ++ tail) = (r cs).before tail) :
    Followed like r cs := by
  cases hr : r cs with
  | error e =>
    refine .failed e hr fun tail htail => ⟨e, ?_⟩
    rw [h tail htail, hr]
    rfl
  | ok x =>
    refine .closed x.1 x.2 hr fun tail htail => ?_
    rw [h tail htail, hr]
    rfl

/-- An attempt that does not look at the text. -/
theorem const (x : Except ParseError α) (cs : List Char) :
    Followed like (fun cs => x.map (·, cs)) cs := by
  apply of_before
  intro tail _
  cases x with
  | error e => rfl
  | ok a => rfl

/-- A text that ends too early for what is read first ends too early for all. -/
theorem thenRead (h : Followed like r cs)
    (hk : ∀ a rest, r cs = .ok (a, rest) → Followed like' (k a) rest)
    (hend : ∀ a, r cs = .ok (a, []) → r (cs ++ ['|']) = .ok (a, []) →
      (∀ tail, EndsBranch tail → ∀ b rest, r (cs ++ tail) = .ok (b, rest) → like a b) →
      Followed like' (fun cs => (r cs).thenRead k) cs) :
    Followed like' (fun cs => (r cs).thenRead k) cs := by
  cases h with
  | closed a rest own all =>
    refine (hk a rest own).of_eq (by rw [own]; rfl) fun tail htail => ?_
    rw [all tail htail]
    rfl
  | commented a own bar all => exact hend a own bar all
  | failed e own all =>
    refine .failed e (by rw [own]; rfl) fun tail htail => ?_
    obtain ⟨e', he⟩ := all tail htail
    exact ⟨e', by rw [he]; rfl⟩
  | unfinished e own mendable => exact .unfinished e (by rw [own]; rfl) mendable

theorem mono (h : Followed like r cs) {like' : α → α → Prop} (hl : ∀ a b, like a b → like' a b) :
    Followed like' r cs := by
  cases h with
  | closed a rest own all => exact .closed a rest own all
  | commented a own bar all =>
    exact .commented a own bar fun tail htail b rest hb => hl a b (all tail htail b rest hb)
  | failed e own all => exact .failed e own all
  | unfinished e own mendable => exact .unfinished e own mendable

/-- An attempt with what has been read, which does not look at the text. -/
theorem thenTry (h : Followed Eq r cs) (x : α → Except ParseError β) :
    Followed Eq (fun cs => (r cs).thenRead fun a rest => (x a).map (·, rest)) cs := by
  refine h.thenRead (fun a rest _ => .const (x a) rest) fun a own bar all => ?_
  cases hx : x a with
  | ok b =>
    have hk : ∀ rest, Reading.thenRead (.ok (a, rest)) (fun a rest => (x a).map (·, rest)) =
        .ok (b, rest) := fun rest => by rw [Reading.thenRead, hx]; rfl
    refine .commented b (by rw [own, hk]) (by rw [bar, hk]) fun tail htail b' rest hb => ?_
    cases hr : r (cs ++ tail) with
    | error e =>
      rw [hr] at hb
      cases hb
    | ok y =>
      obtain rfl := all tail htail y.1 y.2 hr
      rw [hr, hk] at hb
      exact (Prod.mk.inj (Except.ok.inj hb)).1
  | error e =>
    have hk : ∀ rest, Reading.thenRead (.ok (a, rest)) (fun a rest => (x a).map (·, rest)) =
        .error e := fun rest => by rw [Reading.thenRead, hx]; rfl
    refine .failed e (by rw [own, hk]) fun tail htail => ?_
    cases hr : r (cs ++ tail) with
    | error e' => exact ⟨e', rfl⟩
    | ok y =>
      obtain rfl := all tail htail y.1 y.2 hr
      exact ⟨e, hk y.2⟩

/-- A result that something is made of. -/
theorem map (h : Followed Eq r cs) (g : α → β) :
    Followed Eq (fun cs => (r cs).thenRead fun a rest => .ok (g a, rest)) cs :=
  h.thenTry fun a => .ok (g a)

end Followed

theorem skipHidden_append_of_cons {comment : Bool} (h : skipHidden comment cs = c :: rest)
    (tail : List Char) : skipHidden comment (cs ++ tail) = c :: (rest ++ tail) := by
  fun_induction skipHidden comment cs with
  | case1 => cases h
  | case2 c' cs ih => exact ih h
  | case3 c' cs hblank ih =>
    rw [List.cons_append, skipHidden, if_pos hblank]
    exact ih h
  | case4 c' cs hblank hhash ih =>
    rw [List.cons_append, skipHidden, if_neg hblank, if_pos hhash]
    exact ih h
  | case5 c' cs hblank hhash =>
    rw [List.cons_append, skipHidden, if_neg hblank, if_neg hhash, ← List.cons_append, h,
      List.cons_append]

/-- A text of which nothing counts ends with a comment open or not. -/
theorem skipHidden_append_of_nil {comment : Bool} (h : skipHidden comment cs = []) :
    ∃ b, ∀ tail, skipHidden comment (cs ++ tail) = skipHidden b tail := by
  fun_induction skipHidden comment cs with
  | case1 b => exact ⟨b, fun _ => rfl⟩
  | case2 c' cs ih => exact ih h
  | case3 c' cs hblank ih =>
    obtain ⟨b, hb⟩ := ih h
    refine ⟨b, fun tail => ?_⟩
    rw [List.cons_append, skipHidden, if_pos hblank, hb]
  | case4 c' cs hblank hhash ih =>
    obtain ⟨b, hb⟩ := ih h
    refine ⟨b, fun tail => ?_⟩
    rw [List.cons_append, skipHidden, if_neg hblank, if_pos hhash, hb]
  | case5 => cases h

theorem Flags.skip_nil (f : Flags) : f.skip [] = [] := by
  unfold Flags.skip
  split <;> rfl

theorem Flags.skip_append_of_cons (h : f.skip cs = c :: rest) (tail : List Char) :
    f.skip (cs ++ tail) = c :: (rest ++ tail) := by
  unfold Flags.skip at h ⊢
  split
  · rename_i hv
    rw [if_pos hv] at h
    exact skipHidden_append_of_cons h tail
  · rename_i hv
    rw [if_neg hv] at h
    rw [h, List.cons_append]

/-- Where nothing that counts is left, the end of a branch is next unless a comment hides it. -/
theorem Flags.skip_append_of_nil (h : f.skip cs = []) :
    (∀ tail, EndsBranch tail → f.skip (cs ++ tail) = tail) ∨ f.skip (cs ++ ['|']) = [] := by
  unfold Flags.skip at h ⊢
  split
  · rename_i hv
    rw [if_pos hv] at h
    obtain ⟨b, hb⟩ := skipHidden_append_of_nil h
    cases b with
    | false => exact Or.inl fun tail htail => by rw [hb, htail.skipHidden]
    | true => exact Or.inr (by rw [hb]; rfl)
  · rename_i hv
    rw [if_neg hv] at h
    exact Or.inl fun tail _ => by rw [h, List.nil_append]

theorem skipHidden_idem (comment : Bool) (cs : List Char) :
    skipHidden false (skipHidden comment cs) = skipHidden comment cs := by
  fun_induction skipHidden comment cs with
  | case1 => rfl
  | case2 c' cs ih => exact ih
  | case3 c' cs hblank ih => exact ih
  | case4 c' cs hblank hhash ih => exact ih
  | case5 c' cs hblank hhash => rw [skipHidden, if_neg hblank, if_neg hhash]

theorem Flags.skip_skip (f : Flags) (cs : List Char) : f.skip (f.skip cs) = f.skip cs := by
  unfold Flags.skip
  split
  · exact skipHidden_idem false cs
  · rfl

/-- An attempt that does not look at the text, with what is left after skipping. -/
theorem followed_const_skip (x : Except ParseError α) (f : Flags) (cs : List Char) :
    Followed Eq (fun cs => x.map (·, f.skip cs)) cs := by
  cases x with
  | error e => exact .failed e rfl fun tail _ => ⟨e, rfl⟩
  | ok a =>
    cases hs : f.skip cs with
    | cons c rest =>
      refine .closed a (c :: rest) (by rw [hs]; rfl) fun tail _ => ?_
      rw [Flags.skip_append_of_cons hs]
      rfl
    | nil =>
      obtain hall | hbar := Flags.skip_append_of_nil hs
      · refine .closed a [] (by rw [hs]; rfl) fun tail htail => ?_
        rw [hall tail htail]
        rfl
      · exact .commented a (by rw [hs]; rfl) (by rw [hbar]; rfl) fun tail _ b rest hb =>
          (Prod.mk.inj (Except.ok.inj hb)).1

end

end PhotoGrouping.Regex
