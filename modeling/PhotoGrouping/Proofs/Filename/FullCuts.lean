import Mathlib.Computability.Language
import Mathlib.Data.List.Chain
import PhotoGrouping.Proofs.Filename.Runs

namespace PhotoGrouping.Filename

/-- Whether a text can be cut into words of languages with runs of delimiters between them. -/
def Fits (Ls : List (Language Char)) (cs : List Char) : Prop :=
  ∃ ws us, List.Forall₂ (fun w L => w ∈ L) ws Ls ∧ Joined ws us cs

/-- A cut of a text into words of languages in which every run takes as many delimiters as leave the
languages after it something to cut. -/
inductive CutFully : List (Language Char) → List (List Char) → List (List Char) → List Char → Prop
  | last {L : Language Char} {w : List Char} (hw : w ∈ L) : CutFully [L] [w] [] w
  | cons {L : Language Char} {Ls : List (Language Char)} {w u cs : List Char}
      {ws us : List (List Char)} (hw : w ∈ L) (hne : u ≠ []) (hu : ∀ c ∈ u, isDelimiter c = true)
      (hfull : ∀ y rest, y ≠ [] → (∀ c ∈ y, isDelimiter c = true) → cs = y ++ rest → ¬ Fits Ls rest)
      (h : CutFully Ls ws us cs) : CutFully (L :: Ls) (w :: ws) (u :: us) (w ++ (u ++ cs))

/-- Whether a word of a language leaves delimiters on both sides in a run. -/
def HasRoom (L : Language Char) (u : List Char) : Prop :=
  ∃ a m b, a ≠ [] ∧ b ≠ [] ∧ m ∈ L ∧ u = a ++ (m ++ b)

/-- How many runs of delimiters begin in a text, which may follow on a delimiter. -/
def runStarts : Bool → List Char → Nat
  | _, [] => 0
  | after, c :: cs => (if isDelimiter c && !after then 1 else 0) + runStarts (isDelimiter c) cs

variable {v w u u' x y z cs : List Char} {vs ws us us' : List (List Char)} {c : Char} {after : Bool}
variable {L : Language Char} {Ls : List (Language Char)}

theorem CutFully.joined (h : CutFully Ls ws us cs) : Joined ws us cs := by
  induction h with
  | last hw => exact .last _
  | cons hw hne hu hfull h ih => exact .cons hne hu ih

theorem CutFully.forall₂ (h : CutFully Ls ws us cs) : List.Forall₂ (fun w L => w ∈ L) ws Ls := by
  induction h with
  | last hw => exact .cons hw .nil
  | cons hw hne hu hfull h ih => exact .cons hw ih

theorem runStarts_append (after : Bool) (x y : List Char) :
    runStarts after (x ++ y) =
      runStarts after x + runStarts ((x.getLast?.map isDelimiter).getD after) y := by
  induction x generalizing after with
  | nil => simp [runStarts]
  | cons c x ih =>
    have hlast : ((c :: x).getLast?.map isDelimiter).getD after =
        (x.getLast?.map isDelimiter).getD (isDelimiter c) := by
      cases x with
      | nil => rfl
      | cons d x => simp [List.getLast?_cons]
    rw [List.cons_append, runStarts, ih, hlast, runStarts, Nat.add_assoc]

/-- The runs of a text begin where its delimiters say. -/
theorem runStarts_congr (h : v.map isDelimiter = w.map isDelimiter) :
    runStarts after v = runStarts after w := by
  induction v generalizing after w with
  | nil =>
    obtain rfl := List.map_eq_nil_iff.mp h.symm
    rfl
  | cons c v ih =>
    cases w with
    | nil => cases h
    | cons d w =>
      obtain ⟨hc, hv⟩ := List.cons.inj h
      rw [runStarts, runStarts, ih hv, hc]

theorem runStarts_solid (h : isSolid v = true) : runStarts after v = 0 := by
  induction v generalizing after with
  | nil => rfl
  | cons c v ih =>
    obtain ⟨hc, hv⟩ : (!isDelimiter c) = true ∧ isSolid v = true := by simpa [isSolid] using h
    rw [Bool.not_eq_true'] at hc
    rw [runStarts, ih hv, hc]
    rfl

theorem runStarts_run (h : ∀ c ∈ u, isDelimiter c = true) (hne : u ≠ []) :
    runStarts after u = if after then 0 else 1 := by
  have hall {u : List Char} (h : ∀ c ∈ u, isDelimiter c = true) : runStarts true u = 0 := by
    induction u with
    | nil => rfl
    | cons c u ih =>
      rw [runStarts, h c List.mem_cons_self, ih fun d hd => h d (List.mem_cons_of_mem c hd)]
      rfl
  cases u with
  | nil => exact absurd rfl hne
  | cons c u =>
    rw [runStarts, h c List.mem_cons_self, hall fun d hd => h d (List.mem_cons_of_mem c hd)]
    cases after
    · rfl
    · rfl

theorem getLast?_run (h : ∀ c ∈ u, isDelimiter c = true) (hne : u ≠ []) :
    (u.getLast?.map isDelimiter).getD after = true := by
  rw [List.getLast?_eq_some_getLast hne, Option.map_some, Option.getD_some]
  exact h _ (List.getLast_mem hne)

/-- A run between a text that ends firmly and another text begins once. -/
theorem runStarts_firm (hv : HasFirmEnds v) (hu : ∀ c ∈ u, isDelimiter c = true) (hne : u ≠ [])
    (cs : List Char) :
    runStarts after (v ++ (u ++ cs)) = runStarts true v + 1 + runStarts true cs := by
  have hback : (v.getLast?.map isDelimiter).getD after = false := by
    obtain ⟨-, c, hc, hfirm⟩ := hv
    rw [Option.mem_def.mp hc]
    exact hfirm
  have hfront : runStarts after v = runStarts true v := by
    obtain ⟨⟨c, hc, hfirm⟩, -⟩ := hv
    obtain ⟨v, rfl⟩ := List.head?_eq_some_iff.mp hc
    rw [runStarts, runStarts, hfirm]
    rfl
  rw [runStarts_append, hback, runStarts_append, runStarts_run hu hne, getLast?_run hu hne, hfront]
  simp [Nat.add_assoc]

theorem Joined.runStarts_eq (h : Joined vs us cs) (hfirm : ∀ v ∈ vs, HasFirmEnds v) :
    runStarts true cs = (vs.map (runStarts true)).sum + us.length := by
  induction h with
  | last v => simp
  | cons hne hu h ih =>
    have hrest := ih fun v hv => hfirm v (List.mem_cons_of_mem _ hv)
    rw [runStarts_firm (hfirm _ List.mem_cons_self) hu hne, hrest, List.map_cons, List.sum_cons,
      List.length_cons]
    omega

/-- A run begins behind a character that is not a delimiter. -/
theorem one_le_runStarts (hv : ∃ c ∈ v, isDelimiter c = false) (hu : ∀ c ∈ u, isDelimiter c = true)
    (hne : u ≠ []) (cs : List Char) : 1 + runStarts true cs ≤ runStarts after (v ++ (u ++ cs)) := by
  have hstart {x : List Char} : 1 ≤ runStarts false (x ++ u) := by
    induction x with
    | nil => simp [runStarts_run hu hne]
    | cons c x ih =>
      rw [List.cons_append, runStarts]
      cases isDelimiter c with
      | true => simp
      | false => simpa using ih
  have hone : 1 ≤ runStarts after (v ++ u) := by
    induction v generalizing after with
    | nil =>
      obtain ⟨c, hc, -⟩ := hv
      cases hc
    | cons c v ih =>
      rw [List.cons_append, runStarts]
      cases hc : isDelimiter c with
      | false => simpa using hstart
      | true =>
        obtain ⟨d, hd, hfirm⟩ := hv
        obtain rfl | hd := List.mem_cons.mp hd
        · rw [hc] at hfirm
          cases hfirm
        · exact Nat.le_add_left_of_le (ih ⟨d, hd, hfirm⟩)
  have hlast : ((v ++ u).getLast?.map isDelimiter).getD after = true := by
    rw [List.getLast?_append_of_ne_nil _ hne]
    exact getLast?_run hu hne
  rw [← List.append_assoc, runStarts_append, hlast]
  omega

/-- Whether no two delimiters stand in a row in a text. -/
def IsSparse (cs : List Char) : Prop :=
  cs.IsChain fun c d => isDelimiter c = true → isDelimiter d = false

theorem isSparse_iff : IsSparse cs ↔ (cs.map isDelimiter).IsChain fun c d => c = true → d = false := by
  rw [IsSparse, List.isChain_map]

theorem IsSparse.of_isSolid (h : isSolid cs = true) : IsSparse cs := by
  induction cs with
  | nil => exact .nil
  | cons c cs ih =>
    obtain ⟨hc, hcs⟩ : (!isDelimiter c) = true ∧ isSolid cs = true := by simpa [isSolid] using h
    rw [Bool.not_eq_true'] at hc
    refine List.isChain_cons.mpr ⟨fun d _ hd => ?_, ih hcs⟩
    rw [hc] at hd
    cases hd

/-- A value does not end within several delimiters in a row. -/
theorem IsSparse.not_run_of_suffix (hs : IsSparse v) (hfirm : HasFirmEnds v) (hz : z ≠ [])
    (hsuffix : z <:+ v) (hu : ∀ c ∈ u, isDelimiter c = true) (htwo : 2 ≤ u.length) :
    u ++ y ≠ z ++ x := by
  intro heq
  obtain ⟨p, rfl⟩ := hsuffix
  have hback : ∃ c ∈ z.getLast?, isDelimiter c = false := by
    rw [← List.getLast?_append_of_ne_nil p hz]
    exact hfirm.2
  match u, htwo, z, hz with
  | c :: d :: u, _, [e], _ =>
    obtain ⟨rfl, -⟩ := List.cons.inj heq
    obtain ⟨f, hf, hfirm⟩ := hback
    rw [List.getLast?_singleton] at hf
    obtain rfl := Option.some.inj hf
    rw [hu c List.mem_cons_self] at hfirm
    cases hfirm
  | c :: d :: u, _, e :: f :: z, _ =>
    obtain ⟨rfl, htail⟩ := List.cons.inj heq
    obtain ⟨rfl, -⟩ := List.cons.inj htail
    have hpair : isDelimiter c = true → isDelimiter d = false :=
      (List.isChain_cons_cons.mp hs.right_of_append).1
    rw [hu d (by simp)] at hpair
    cases hpair (hu c (by simp))

/-- Delimiters in front of a text that begins firmly are in the run before it. -/
theorem exists_run_append (hu : ∀ c ∈ u, isDelimiter c = true)
    (hcs : ∀ c ∈ cs.head?, isDelimiter c = false) (heq : u' ++ cs = u ++ x) :
    ∃ y, u' = u ++ y ∧ x = y ++ cs := by
  obtain ⟨y, rfl, rfl⟩ | ⟨y, rfl, rfl⟩ := List.append_eq_append_iff.mp heq
  · cases y with
    | nil => exact ⟨[], by simp, rfl⟩
    | cons c y =>
      have hfirm := hcs c rfl
      rw [hu c (by simp)] at hfirm
      cases hfirm
  · exact ⟨y, rfl, rfl⟩

theorem Joined.head?_eq_false (h : Joined vs us cs) (hfirm : ∀ v ∈ vs, HasFirmEnds v) :
    ∀ c ∈ cs.head?, isDelimiter c = false := by
  cases vs with
  | nil => exact absurd rfl h.ne_nil
  | cons v vs => exact (hfirm v List.mem_cons_self).head?_eq_false h

/-- Several delimiters in a row stand in one of the runs between values. -/
theorem Joined.exists_run_of_infix (h : Joined vs us cs) (hfirm : ∀ v ∈ vs, HasFirmEnds v)
    (hsparse : ∀ v ∈ vs, IsSparse v) (hu : ∀ c ∈ u, isDelimiter c = true) (htwo : 2 ≤ u.length)
    (hwithin : u <:+: cs) : ∃ w ∈ us, u <:+: w := by
  have hne : u ≠ [] := List.length_pos_iff.mp (by omega)
  induction h with
  | last v =>
    obtain ⟨p, q, rfl⟩ := hwithin
    have hsuffix : u ++ q <:+ p ++ u ++ q := ⟨p, by simp⟩
    have hsame : u ++ q = u ++ q ++ [] := (List.append_nil _).symm
    exact absurd hsame ((hsparse _ List.mem_cons_self).not_run_of_suffix
      (hfirm _ List.mem_cons_self) (List.append_ne_nil_of_left_ne_nil hne q) hsuffix hu htwo)
  | @cons v w cs vs us _ hall h ih =>
    have hlater (hwithin : u <:+: cs) : ∃ w' ∈ w :: us, u <:+: w' := by
      obtain ⟨w', hw', hrun⟩ := ih (fun v hv => hfirm v (List.mem_cons_of_mem _ hv))
        (fun v hv => hsparse v (List.mem_cons_of_mem _ hv)) hwithin
      exact ⟨w', List.mem_cons_of_mem w hw', hrun⟩
    have hhead := h.head?_eq_false fun v hv => hfirm v (List.mem_cons_of_mem _ hv)
    obtain ⟨p, q, heq⟩ := hwithin
    rw [List.append_assoc] at heq
    obtain ⟨p, heq⟩ : ∃ p, p ++ (u ++ q) = w ++ cs := by
      obtain ⟨z, hv, hz⟩ | ⟨p, -, hp⟩ := List.append_eq_append_iff.mp heq
      · by_cases hnil : z = []
        · rw [hnil] at hz
          exact ⟨[], hz⟩
        · exact absurd hz ((hsparse v List.mem_cons_self).not_run_of_suffix
            (hfirm v List.mem_cons_self) hnil ⟨p, hv.symm⟩ hu htwo)
      · exact ⟨p, hp.symm⟩
    obtain ⟨z, hw, hz⟩ | ⟨p, -, hp⟩ := List.append_eq_append_iff.mp heq
    · by_cases hnil : z = []
      · rw [hnil] at hz
        exact hlater ⟨[], q, by simpa using hz⟩
      · obtain ⟨y, rfl, -⟩ := exists_run_append hu hhead hz.symm
        exact ⟨w, List.mem_cons_self, p, y, by simpa using hw.symm⟩
    · exact hlater ⟨p, q, by simpa using hp.symm⟩

/-- A place in a text: what may stand there, the value that is meant, and the word of a cut. -/
structure Place where
  language : Language Char
  value : List Char
  word : List Char

namespace Place

/-- Whether the words of a place are told from the delimiters around them as its value is. -/
def IsRigid (x : Place) : Prop :=
  ∀ w ∈ x.language, Alike x.value w ∧ runStarts true x.value ≤ runStarts true w

/-- What is meant by the value of a place: it is a word of the place, and only the delimiters in it may
be like those of its words. -/
structure IsMeant (x : Place) : Prop where
  mem_language : x.value ∈ x.language
  firm : HasFirmEnds x.value
  sparse : IsSparse x.value
  rigid_or_solid : x.IsRigid ∨ isSolid x.value = true

end Place

variable {places : List Place} {x : Place}

section Rigid

variable {k : Nat}

/-- A word behind rigid places only is its value. -/
theorem Joined.word_eq_of_take (h : Joined (places.map (·.value)) us cs)
    (h' : Joined (places.map (·.word)) us' cs) (hwords : ∀ x ∈ places, x.word ∈ x.language)
    (hrigid : ∀ x ∈ places.take (k + 1), x.IsRigid) (hx : places[k]? = some x) :
    x.word = x.value := by
  have hvalues : Joined ((places.map fun x => (x.value, x.word)).map (·.1)) us cs := by
    simpa [Function.comp_def] using h
  have hothers : Joined ((places.map fun x => (x.value, x.word)).map (·.2)) us' cs := by
    simpa [Function.comp_def] using h'
  have hmem : x ∈ places.take (k + 1) :=
    List.mem_of_getElem? (by rw [List.getElem?_take_of_lt (Nat.lt_succ_self k), hx])
  symm
  refine hvalues.take_eq hothers (k := k) ?_ (x.value, x.word) ?_
  · intro z hz
    rw [← List.map_take] at hz
    obtain ⟨y, hy, rfl⟩ := List.mem_map.mp hz
    exact (hrigid y hy y.word (hwords y (List.mem_of_mem_take hy))).1
  · rw [← List.map_take]
    exact List.mem_map_of_mem hmem

/-- A word ahead of rigid places only is its value. -/
theorem Joined.word_eq_of_drop (h : Joined (places.map (·.value)) us cs)
    (h' : Joined (places.map (·.word)) us' cs) (hwords : ∀ x ∈ places, x.word ∈ x.language)
    (hrigid : ∀ x ∈ places.drop k, x.IsRigid) (hx : places[k]? = some x) : x.word = x.value := by
  have hvalues : Joined ((places.map fun x => (x.value, x.word)).map (·.1)) us cs := by
    simpa [Function.comp_def] using h
  have hothers : Joined ((places.map fun x => (x.value, x.word)).map (·.2)) us' cs := by
    simpa [Function.comp_def] using h'
  have hmem : x ∈ places.drop k := by
    apply List.mem_of_getElem? (i := 0)
    rw [List.getElem?_drop, Nat.add_zero, hx]
  symm
  refine hvalues.drop_eq hothers (k := k) ?_ (x.value, x.word) ?_
  · intro z hz
    rw [← List.map_drop] at hz
    obtain ⟨y, hy, rfl⟩ := List.mem_map.mp hz
    exact (hrigid y hy y.word (hwords y (List.mem_of_mem_drop hy))).1
  · rw [← List.map_drop]
    exact List.mem_map_of_mem hmem

end Rigid

/-- Where no word has room between delimiters, a text after a run has the runs between its words and
those within them. -/
theorem Joined.sum_le_runStarts (h : Joined (places.map (·.word)) us cs)
    (hwords : ∀ x ∈ places, x.word ∈ x.language)
    (hplaces : ∀ x ∈ places, x.IsRigid ∨ isSolid x.value = true)
    (hu : ∀ c ∈ u, isDelimiter c = true) (hne : u ≠ [])
    (hroom : ∀ w, (∀ c ∈ w, isDelimiter c = true) → w <:+: u ++ cs → ∀ x ∈ places.dropLast,
      ¬ HasRoom x.language w) :
    (places.map (runStarts true ·.value)).sum + us.length ≤ runStarts true cs := by
  induction places generalizing us cs u with
  | nil => exact absurd rfl h.ne_nil
  | cons x places ih =>
    have hx := hplaces x List.mem_cons_self
    have hword := hwords x List.mem_cons_self
    cases places with
    | nil =>
      obtain ⟨rfl, rfl⟩ := h.of_singleton
      obtain hrigid | hsolid := hx
      · simpa using (hrigid x.word hword).2
      · simp [runStarts_solid hsolid]
    | cons y places =>
      obtain ⟨u', us, cs, rfl, hne', hu', rfl, hrest⟩ := h.of_cons (by simp)
      have hsuffix : u' ++ cs <:+ u ++ (x.word ++ (u' ++ cs)) :=
        (List.suffix_append x.word (u' ++ cs)).trans (List.suffix_append u _)
      have hrest := ih hrest (fun z hz => hwords z (List.mem_cons_of_mem x hz))
        (fun z hz => hplaces z (List.mem_cons_of_mem x hz)) hu' hne'
        (fun w hw hwithin z hz => hroom w hw (hwithin.trans hsuffix.isInfix) z
          (List.mem_cons_of_mem x hz))
      have hfront : runStarts true x.value + 1 + runStarts true cs ≤
          runStarts true (x.word ++ (u' ++ cs)) := by
        obtain hrigid | hsolid := hx
        · obtain ⟨halike, hle⟩ := hrigid x.word hword
          rw [runStarts_firm halike.right hu' hne']
          omega
        · rw [runStarts_solid hsolid, Nat.zero_add]
          apply one_le_runStarts _ hu' hne'
          -- A word of delimiters alone would have room between the runs around it.
          by_contra hall
          have hall : ∀ c ∈ x.word, isDelimiter c = true := by simpa using hall
          refine hroom (u ++ (x.word ++ u')) ?_ ?_ x List.mem_cons_self
            ⟨u, x.word, u', hne, hne', hword, rfl⟩
          · intro c hc
            obtain hc | hc := List.mem_append.mp hc
            · exact hu c hc
            · exact (List.mem_append.mp hc).elim (hall c) (hu' c)
          · exact ⟨[], cs, by simp⟩
      simp only [List.map_cons, List.sum_cons, List.length_cons] at hrest ⊢
      omega

theorem HasRoom.of_infix (h : HasRoom L w) (hwithin : w <:+: u) : HasRoom L u := by
  obtain ⟨a, m, b, ha, hb, hm, rfl⟩ := h
  obtain ⟨p, q, rfl⟩ := hwithin
  exact ⟨p ++ a, m, b ++ q, by simp [ha], by simp [hb], hm, by simp⟩

theorem HasRoom.two_le_length (h : HasRoom L u) : 2 ≤ u.length := by
  obtain ⟨a, m, b, ha, hb, -, rfl⟩ := h
  have ha := List.length_pos_iff.mpr ha
  have hb := List.length_pos_iff.mpr hb
  simp only [List.length_append]
  omega

theorem forall₂_mem_iff : List.Forall₂ (fun w L => w ∈ L) (places.map (·.word))
    (places.map (·.language)) ↔ ∀ x ∈ places, x.word ∈ x.language := by
  rw [List.forall₂_map_left_iff, List.forall₂_map_right_iff, List.forall₂_same]

theorem fits_of_joined (h : Joined (places.map (·.value)) us cs)
    (hplaces : ∀ x ∈ places, x.IsMeant) : Fits (places.map (·.language)) cs := by
  refine ⟨places.map (·.value), us, ?_, h⟩
  rw [List.forall₂_map_left_iff, List.forall₂_map_right_iff, List.forall₂_same]
  exact fun x hx => (hplaces x hx).mem_language

/-- Words cannot stand behind the first one of the runs between their values if none has room in a
run. -/
theorem Joined.not_taken (h : Joined (places.map (·.value)) us (z ++ (u ++ cs)))
    (h' : Joined (places.map (·.word)) us' cs) (hwords : ∀ x ∈ places, x.word ∈ x.language)
    (hplaces : ∀ x ∈ places, x.IsMeant) (hz : ∃ c ∈ z, isDelimiter c = false)
    (hu : ∀ c ∈ u, isDelimiter c = true) (hne : u ≠ [])
    (hroom : ∀ v ∈ us, ∀ x ∈ places.dropLast, ¬ HasRoom x.language v) : False := by
  have hfirm : ∀ v ∈ places.map (·.value), HasFirmEnds v := by
    simpa using fun x hx => (hplaces x hx).firm
  have hsparse : ∀ v ∈ places.map (·.value), IsSparse v := by
    simpa using fun x hx => (hplaces x hx).sparse
  have hleft : ∀ w, (∀ c ∈ w, isDelimiter c = true) → w <:+: u ++ cs → ∀ x ∈ places.dropLast,
      ¬ HasRoom x.language w := by
    intro w hw hwithin x hx hhas
    have htext : w <:+: z ++ (u ++ cs) := hwithin.trans (List.suffix_append z (u ++ cs)).isInfix
    obtain ⟨v, hv, hwv⟩ := h.exists_run_of_infix hfirm hsparse hw hhas.two_le_length htext
    exact hroom v hv x hx (hhas.of_infix hwv)
  have hruns := h.runStarts_eq hfirm
  have hfewer := h'.sum_le_runStarts hwords (fun x hx => (hplaces x hx).rigid_or_solid) hu hne hleft
  have hone : 1 + runStarts true cs ≤ runStarts true (z ++ (u ++ cs)) := one_le_runStarts hz hu hne cs
  have hlength := h.length_eq
  have hlength' := h'.length_eq
  rw [List.map_map] at hruns
  simp only [List.length_map, Function.comp_def] at hlength hlength' hruns
  omega

/-- A word at the front of a cut is its value, perhaps with delimiters behind it, if no later word has
room in the runs after it. -/
theorem Joined.word_eq_append (h : Joined ((x :: places).map (·.value)) us cs)
    (h' : Joined ((x :: places).map (·.word)) us' cs)
    (hwords : ∀ y ∈ x :: places, y.word ∈ y.language) (hplaces : ∀ y ∈ x :: places, y.IsMeant)
    (hroom : x.IsRigid ∨ ∀ u ∈ us.tail, ∀ y ∈ places.dropLast, ¬ HasRoom y.language u) :
    ∃ y, x.word = x.value ++ y ∧ ∀ c ∈ y, isDelimiter c = true := by
  have hx := hplaces x List.mem_cons_self
  cases places with
  | nil =>
    obtain ⟨-, rfl⟩ := h.of_singleton
    obtain ⟨-, hword⟩ := h'.of_singleton
    exact ⟨[], by simp [← hword], by simp⟩
  | cons x' places =>
    obtain ⟨u, us, cs₀, rfl, hne, hu, rfl, hrest⟩ := h.of_cons (by simp)
    obtain ⟨u', us', cs₀', rfl, hne', hu', heq, hrest'⟩ := h'.of_cons (by simp)
    have hrigid (hrigid : x.IsRigid) : ∃ y, x.word = x.value ++ y ∧ ∀ c ∈ y, isDelimiter c = true := by
      have halike := (hrigid x.word (hwords x List.mem_cons_self)).1
      exact ⟨[], by simp [(halike.eq_of_append hu hu' hne hne' heq).1], by simp⟩
    obtain hr | hroom := hroom
    · exact hrigid hr
    obtain hr | hsolid := hx.rigid_or_solid
    · exact hrigid hr
    obtain ⟨y, hword, hafter⟩ | ⟨y, hvalue, hafter⟩ := List.append_eq_append_iff.mp heq
    · refine ⟨y, hword, ?_⟩
      by_contra hall
      obtain ⟨c, hc, hfirm⟩ : ∃ c ∈ y, isDelimiter c = false := by simpa using hall
      obtain ⟨z, rfl, rfl⟩ | ⟨z, rfl, -⟩ := List.append_eq_append_iff.mp hafter
      · -- The word takes a whole run, so too few runs are left for the words after it.
        have hz : ∃ c ∈ z, isDelimiter c = false := by
          obtain hc | hc := List.mem_append.mp hc
          · rw [hu c hc] at hfirm
            cases hfirm
          · exact ⟨c, hc, hfirm⟩
        exact hrest.not_taken hrest' (fun y hy => hwords y (List.mem_cons_of_mem x hy))
          (fun y hy => hplaces y (List.mem_cons_of_mem x hy)) hz hu' hne' hroom
      · rw [hu c (List.mem_append_left z hc)] at hfirm
        cases hfirm
    · -- A word ends in front of a delimiter, and there is none in the value.
      cases y with
      | nil => exact ⟨[], by simpa using hvalue.symm, by simp⟩
      | cons c y =>
        have hfirm : isDelimiter c = false := by
          have hall := List.all_eq_true.mp hsolid c (by simp [hvalue])
          simpa using hall
        have hc : isDelimiter c = true := by
          cases u' with
          | nil => exact absurd rfl hne'
          | cons d u' =>
            obtain ⟨rfl, -⟩ := List.cons.inj hafter
            exact hu' d List.mem_cons_self
        rw [hc] at hfirm
        cases hfirm

theorem CutFully.of_cons (h : CutFully (L :: Ls) (w :: ws) us cs) (hws : ws ≠ []) :
    ∃ u us₀ cs₀, us = u :: us₀ ∧ u ≠ [] ∧ (∀ c ∈ u, isDelimiter c = true) ∧ cs = w ++ (u ++ cs₀) ∧
      (∀ y rest, y ≠ [] → (∀ c ∈ y, isDelimiter c = true) → cs₀ = y ++ rest → ¬ Fits Ls rest) ∧
      CutFully Ls ws us₀ cs₀ := by
  cases h with
  | last => exact absurd rfl hws
  | cons hw hne hu hfull h => exact ⟨_, _, _, rfl, hne, hu, rfl, hfull, h⟩

/-- Whether the word of a place is its value with some delimiters of the run after it, but not all. -/
def Place.TakesOf (x : Place) (u : List Char) : Prop :=
  ∃ y rest, x.word = x.value ++ y ∧ u = y ++ rest ∧ (rest = [] → y = [])

theorem Place.TakesOf.of_eq (h : x.word = x.value) (u : List Char) : x.TakesOf u :=
  ⟨[], u, by simp [h], rfl, fun _ => rfl⟩

theorem Place.TakesOf.eq_of_nil (h : x.TakesOf []) : x.word = x.value := by
  obtain ⟨y, rest, hword, hnil, -⟩ := h
  obtain ⟨rfl, -⟩ := List.append_eq_nil_iff.mp hnil.symm
  rw [hword, List.append_nil]

/-- Where every run takes as many delimiters as it can, words are values with delimiters behind them,
if no word behind the first one that may hold delimiters has room in a run. -/
theorem CutFully.takesOf_front (h : Joined (places.map (·.value)) us cs)
    (h' : CutFully (places.map (·.language)) (places.map (·.word)) us' cs)
    (hplaces : ∀ x ∈ places, x.IsMeant)
    (hroom : ∀ k u, us[k]? = some u → (∀ y ∈ places.tail.dropLast, ¬ HasRoom y.language u) ∨
      ∀ y ∈ places.take (k + 1), y.IsRigid) {k : Nat} (hx : places[k]? = some x) :
    x.TakesOf (us[k]?.getD []) := by
  induction places generalizing us us' cs k with
  | nil => cases hx
  | cons x' places ih =>
    have hfront : x'.IsRigid ∨ ∀ u ∈ us.tail, ∀ y ∈ places.dropLast, ¬ HasRoom y.language u := by
      by_cases hrigid : x'.IsRigid
      · exact Or.inl hrigid
      right
      intro u hu
      obtain ⟨k, hk⟩ := List.getElem?_of_mem hu
      rw [List.getElem?_tail] at hk
      exact (hroom (k + 1) u hk).resolve_right fun hall => hrigid (hall x' (by simp))
    obtain ⟨y, hword, hy⟩ := h.word_eq_append h'.joined (forall₂_mem_iff.mp h'.forall₂) hplaces hfront
    have hmeant : ∀ y ∈ places, y.IsMeant := fun y hy => hplaces y (List.mem_cons_of_mem x' hy)
    by_cases hnil : places = []
    · subst hnil
      obtain ⟨rfl, rfl⟩ := h.of_singleton
      obtain ⟨-, hsame⟩ := h'.joined.of_singleton
      cases k with
      | zero =>
        obtain rfl := Option.some.inj hx
        exact ⟨[], [], by simp [← hsame], rfl, fun _ => rfl⟩
      | succ k => cases hx
    obtain ⟨u, us₀, cs₀, rfl, hu, hall, rfl, hrest⟩ := h.of_cons (by simpa using hnil)
    obtain ⟨u', us₀', cs₀', rfl, hu', hall', heq, hfull, hrest'⟩ := h'.of_cons (by simpa using hnil)
    have hhead := hrest.head?_eq_false (by simpa using fun y hy => (hmeant y hy).firm)
    have hafter : u ++ cs₀ = y ++ u' ++ cs₀' := by
      dsimp only at heq
      rw [hword, List.append_assoc] at heq
      rw [List.append_cancel_left heq, List.append_assoc]
    have hdelimiters : ∀ c ∈ y ++ u', isDelimiter c = true := by
      intro c hc
      exact (List.mem_append.mp hc).elim (hy c) (hall' c)
    obtain ⟨z, rfl, rfl⟩ := exists_run_append hdelimiters hhead hafter
    obtain rfl : z = [] := by
      by_contra hz
      exact hfull z cs₀ hz (fun c hc => hall c (by simp [hc])) rfl (fits_of_joined hrest hmeant)
    cases k with
    | zero =>
      obtain rfl := Option.some.inj hx
      exact ⟨y, u', hword, by simp, fun hnil => absurd hnil hu'⟩
    | succ k =>
      refine ih hrest hrest' hmeant ?_ hx
      intro k u hk
      refine (hroom (k + 1) u hk).imp (fun hno z hz => hno z ?_) fun hrigid z hz => hrigid z ?_
      · rw [← List.tail_dropLast] at hz
        exact List.mem_of_mem_tail hz
      · exact List.mem_cons_of_mem x' hz

theorem Fits.concat (h : Fits Ls cs) (hne : u ≠ []) (hu : ∀ c ∈ u, isDelimiter c = true)
    (hw : w ∈ L) : Fits (Ls ++ [L]) (cs ++ (u ++ w)) := by
  obtain ⟨ws, us, hwords, hjoined⟩ := h
  exact ⟨ws ++ [w], us ++ [u], List.rel_append hwords (.cons hw .nil), hjoined.concat hne hu w⟩

theorem CutFully.of_concat (h : CutFully (Ls ++ [L]) (ws ++ [w]) us cs) (hws : ws ≠ []) :
    ∃ us₀ u cs₀, us = us₀ ++ [u] ∧ u ≠ [] ∧ (∀ c ∈ u, isDelimiter c = true) ∧ cs = cs₀ ++ (u ++ w) ∧
      w ∈ L ∧ CutFully Ls ws us₀ cs₀ := by
  induction ws generalizing Ls us cs with
  | nil => exact absurd rfl hws
  | cons w₀ ws ih =>
    cases Ls with
    | nil =>
      have hlength := h.forall₂.length_eq
      simp at hlength
    | cons L₀ Ls =>
      obtain ⟨hw₀, -⟩ := List.forall₂_cons.mp h.forall₂
      obtain ⟨u, us, cs, rfl, hne, hu, rfl, hfull, hrest⟩ := h.of_cons (by simp)
      by_cases hnil : ws = []
      · subst hnil
        have hlength := hrest.forall₂.length_eq
        obtain rfl : Ls = [] := by simpa using hlength
        obtain ⟨rfl, rfl⟩ := hrest.joined.of_singleton
        obtain ⟨hw, -⟩ := List.forall₂_cons.mp hrest.forall₂
        exact ⟨[], u, w₀, rfl, hne, hu, rfl, hw, .last hw₀⟩
      · obtain ⟨us₀, u₀, cs₀, rfl, hne₀, hu₀, rfl, hw, hfront⟩ := ih hrest hnil
        refine ⟨u :: us₀, u₀, w₀ ++ (u ++ cs₀), rfl, hne₀, hu₀, by simp, hw,
          .cons hw₀ hne hu ?_ hfront⟩
        intro y rest hy hall heq hfits
        exact hfull y (rest ++ (u₀ ++ w)) hy hall (by simp [heq]) (hfits.concat hne₀ hu₀ hw)

/-- The last one of two rigid places at the back has its value for its word, and is cut off. -/
theorem CutFully.back_eq {rest : List Place} {y z : Place}
    (h : Joined ((rest ++ [y] ++ [z]).map (·.value)) us cs)
    (h' : CutFully ((rest ++ [y] ++ [z]).map (·.language)) ((rest ++ [y] ++ [z]).map (·.word)) us' cs)
    (hy : y.IsRigid) (hz : z.IsRigid) :
    z.word = z.value ∧ ∃ u us₀ us₀' cs₀, us = us₀ ++ [u] ∧ Joined ((rest ++ [y]).map (·.value)) us₀ cs₀ ∧
      CutFully ((rest ++ [y]).map (·.language)) ((rest ++ [y]).map (·.word)) us₀' cs₀ := by
  have hwords := forall₂_mem_iff.mp h'.forall₂
  have hlast : Alike z.value z.word := (hz z.word (hwords z (by simp))).1
  have hbefore : Alike y.value y.word := (hy y.word (hwords y (by simp))).1
  simp only [List.map_append, List.map_singleton] at h h'
  obtain ⟨hvalue, u, us₀, us₀', cs₀, rfl, rfl, rfl, hrest, -⟩ := h.back_eq h'.joined hlast hbefore
  obtain ⟨us₁, u₁, cs₁, hus, -, -, hcs, -, hfront⟩ := h'.of_concat (by simp)
  obtain ⟨rfl, hu⟩ := List.append_inj' hus rfl
  obtain rfl := List.singleton_inj.mp hu
  rw [hvalue] at hcs
  obtain rfl := List.append_cancel_right hcs
  exact ⟨hvalue.symm, u, us₀, us₀', cs₀, rfl, by simpa using hrest, by simpa using hfront⟩

/-- A run between places has two of them behind the places in front of it. -/
theorem exists_last_two (h : Joined (places.map (·.value)) us cs) {k : Nat} (hk : k < us.length) :
    ∃ rest y z, places = rest ++ [y] ++ [z] ∧ y ∈ places.drop k ∧ z ∈ places.drop k := by
  have hlength := h.length_eq
  rw [List.length_map] at hlength
  obtain rfl | ⟨front, z, rfl⟩ := List.eq_nil_or_concat' places
  · simp at hlength
  · obtain rfl | ⟨rest, y, rfl⟩ := List.eq_nil_or_concat' front
    · rw [List.nil_append, List.length_singleton] at hlength
      omega
    · have hmem : ∀ x ∈ [y] ++ [z], x ∈ (rest ++ [y] ++ [z]).drop k := by
        intro x hx
        simp only [List.length_append, List.length_singleton] at hlength
        rw [List.append_assoc, List.drop_append_of_le_length (by omega)]
        exact List.mem_append_right _ hx
      exact ⟨rest, y, z, rfl, hmem y (by simp), hmem z (by simp)⟩

/-- Whether no word between the first and the last place has room in a run, but in those that have only
rigid places in front of them, or from the one in front of them on. -/
def LeavesNoRoom (places : List Place) (us : List (List Char)) : Prop :=
  ∀ k u, us[k]? = some u → (∀ y ∈ places.tail.dropLast, ¬ HasRoom y.language u) ∨
    (∀ y ∈ places.take (k + 1), y.IsRigid) ∨ ∀ y ∈ places.drop k, y.IsRigid

theorem LeavesNoRoom.of_concat (h : LeavesNoRoom (places ++ [x]) (us ++ [u])) :
    LeavesNoRoom places us := by
  intro k w hw
  have hk : (us ++ [u])[k]? = some w := by
    rw [List.getElem?_append_left (List.getElem?_eq_some_iff.mp hw).1, hw]
  obtain hno | hall | hall := h k w hk
  · refine Or.inl fun y hy => hno y ?_
    rw [← List.tail_dropLast, List.dropLast_concat]
    exact List.mem_of_mem_dropLast hy
  · refine Or.inr (Or.inl fun y hy => hall y ?_)
    rw [List.take_append]
    exact List.mem_append_left _ hy
  · refine Or.inr (Or.inr fun y hy => hall y ?_)
    rw [List.drop_append]
    exact List.mem_append_left _ hy

/-- Where every run takes as many delimiters as it can, and no word has room in one, words are values
with delimiters behind them. -/
theorem CutFully.takesOf (h : Joined (places.map (·.value)) us cs)
    (h' : CutFully (places.map (·.language)) (places.map (·.word)) us' cs)
    (hplaces : ∀ x ∈ places, x.IsMeant) (hroom : LeavesNoRoom places us) {k : Nat}
    (hx : places[k]? = some x) : x.TakesOf (us[k]?.getD []) := by
  induction hn : places.length using Nat.strongRecOn generalizing places us us' cs k with
  | _ n ih =>
    by_cases hback : ∃ rest y z, places = rest ++ [y] ++ [z] ∧ y.IsRigid ∧ z.IsRigid
    · obtain ⟨rest, y, z, rfl, hy, hz⟩ := hback
      obtain ⟨hword, u, us₀, us₀', cs₀, rfl, hrest, hrest'⟩ := CutFully.back_eq h h' hy hz
      by_cases hk : k < (rest ++ [y]).length
      · rw [List.getElem?_append_left hk] at hx
        have htakes := ih (rest ++ [y]).length (by simp [← hn]) hrest hrest'
          (fun x hx => hplaces x (List.mem_append_left [z] hx)) hroom.of_concat hx rfl
        by_cases hlt : k < us₀.length
        · rw [List.getElem?_append_left hlt]
          exact htakes
        · rw [List.getElem?_eq_none (Nat.le_of_not_lt hlt)] at htakes
          exact .of_eq htakes.eq_of_nil _
      · rw [List.getElem?_append_right (Nat.le_of_not_lt hk), List.getElem?_singleton] at hx
        split at hx
        · obtain rfl := Option.some.inj hx
          exact .of_eq hword _
        · cases hx
    · refine CutFully.takesOf_front h h' hplaces ?_ hx
      intro k u hk
      refine (hroom k u hk).imp_right fun hrigid => hrigid.resolve_right fun hall => hback ?_
      obtain ⟨rest, y, z, hplaces, hy, hz⟩ := exists_last_two h (List.getElem?_eq_some_iff.mp hk).1
      exact ⟨rest, y, z, hplaces, hall y hy, hall z hz⟩

end PhotoGrouping.Filename
