import PhotoGrouping.Proofs.Filename.FullCuts

namespace PhotoGrouping.Filename

/-- Where a word of a cut begins, by its index. -/
def startOf : List (List Char) → List (List Char) → Nat → Nat
  | w :: ws, u :: us, k + 1 => w.length + u.length + startOf ws us k
  | _, _, _ => 0

/-- Whether the words of a language hold equally many delimiters. -/
def IsEven (L : Language Char) : Prop :=
  ∀ v ∈ L, ∀ w ∈ L, v.countP isDelimiter = w.countP isDelimiter

/-- Whether the ends of words of a language are words of it. -/
def IsSuffixClosed (L : Language Char) : Prop :=
  ∀ x y, x ++ y ∈ L → y ≠ [] → y ∈ L

/-- A cut of a text into words of languages in which every word of a flexible language, and every run,
takes as much as leaves the languages after it something to cut. -/
inductive CutGreedily (flexible : Language Char → Prop) :
    List (Language Char) → List (List Char) → List (List Char) → List Char → Prop
  | last {L : Language Char} {w : List Char} (hw : w ∈ L) : CutGreedily flexible [L] [w] [] w
  | cons {L : Language Char} {Ls : List (Language Char)} {w u cs : List Char}
      {ws us : List (List Char)} (hw : w ∈ L)
      (hlongest : flexible L → ∀ z y rest, z ≠ [] → w ++ z ∈ L → y ≠ [] →
        (∀ c ∈ y, isDelimiter c = true) → u ++ cs = z ++ (y ++ rest) → ¬ Fits Ls rest)
      (hne : u ≠ []) (hu : ∀ c ∈ u, isDelimiter c = true)
      (hfull : ∀ y rest, y ≠ [] → (∀ c ∈ y, isDelimiter c = true) → cs = y ++ rest → ¬ Fits Ls rest)
      (h : CutGreedily flexible Ls ws us cs) :
      CutGreedily flexible (L :: Ls) (w :: ws) (u :: us) (w ++ (u ++ cs))

variable {v w w' u x y z cs : List Char} {vs ws ws' us us' : List (List Char)} {k : Nat}
variable {flexible : Language Char → Prop} {Ls : List (Language Char)} {d : Char}

theorem CutGreedily.cutFully (h : CutGreedily flexible Ls ws us cs) : CutFully Ls ws us cs := by
  induction h with
  | last hw => exact .last hw
  | cons hw _ hne hu hfull h ih => exact .cons hw hne hu hfull ih

section Starts

theorem startOf_zero (ws us : List (List Char)) : startOf ws us 0 = 0 := by
  cases ws with
  | nil => rfl
  | cons w ws =>
    cases us with
    | nil => rfl
    | cons u us => rfl

theorem drop_length_add (v u cs : List Char) (n : Nat) :
    (v ++ (u ++ cs)).drop (v.length + u.length + n) = cs.drop n := by
  rw [← List.drop_drop, ← List.append_assoc, ← List.length_append, List.drop_left]

theorem Joined.drop (h : Joined ws us cs) (hk : k < ws.length) :
    Joined (ws.drop k) (us.drop k) (cs.drop (startOf ws us k)) := by
  induction h generalizing k with
  | last v =>
    obtain rfl : k = 0 := by simpa using hk
    exact .last v
  | @cons v u cs vs us hne hu h ih =>
    cases k with
    | zero => exact .cons hne hu h
    | succ k =>
      rw [startOf, drop_length_add]
      exact ih (Nat.lt_of_succ_lt_succ hk)

theorem Joined.startOf_succ (h : Joined ws us cs) (hw : ws[k]? = some w) (hu : us[k]? = some u) :
    startOf ws us (k + 1) = startOf ws us k + w.length + u.length := by
  induction h generalizing k with
  | last v => cases hu
  | @cons v u' cs vs us hne hall h ih =>
    cases k with
    | zero =>
      obtain rfl := Option.some.inj hw
      obtain rfl := Option.some.inj hu
      rw [startOf, startOf_zero, startOf_zero]
      omega
    | succ k =>
      have hrest := ih hw hu
      rw [startOf, hrest, startOf]
      omega

/-- A word of a cut stands where it begins. -/
theorem Joined.drop_startOf (h : Joined ws us cs) (hw : ws[k]? = some w) :
    ∃ rest, cs.drop (startOf ws us k) = w ++ rest := by
  obtain ⟨hk, rfl⟩ := List.getElem?_eq_some_iff.mp hw
  have hdrop := h.drop hk
  rw [List.drop_eq_getElem_cons hk] at hdrop
  exact hdrop.exists_append

theorem Joined.take_drop_startOf (h : Joined ws us cs) (hw : ws[k]? = some w) :
    (cs.drop (startOf ws us k)).take w.length = w := by
  obtain ⟨rest, hrest⟩ := h.drop_startOf hw
  rw [hrest, List.take_left]

/-- The last word of a cut ends the text. -/
theorem Joined.startOf_add_last (h : Joined ws us cs) (hw : ws[k]? = some w)
    (hlast : k + 1 = ws.length) : startOf ws us k + w.length = cs.length := by
  induction h generalizing k with
  | last v =>
    obtain rfl : k = 0 := by simpa using hlast
    obtain rfl := Option.some.inj hw
    rw [startOf_zero, Nat.zero_add]
  | @cons v u cs vs us hne hall h ih =>
    have hlength := h.length_eq
    cases k with
    | zero =>
      simp only [List.length_cons] at hlast
      omega
    | succ k =>
      have hrest := ih hw (by simpa using hlast)
      simp only [startOf, List.length_append]
      omega

/-- Ahead of a word that is not the first one stands a delimiter. -/
theorem Joined.exists_delimiter (h : Joined ws us cs) (hk : k + 1 < ws.length) :
    ∃ d start, isDelimiter d = true ∧ startOf ws us (k + 1) = start + 1 ∧
      cs.drop start = d :: cs.drop (startOf ws us (k + 1)) := by
  induction h generalizing k with
  | last v => simp at hk
  | @cons v u cs vs us hne hall h ih =>
    cases k with
    | zero =>
      obtain ⟨front, d, rfl⟩ := (List.eq_nil_or_concat' u).resolve_left hne
      have hstart : startOf (v :: vs) ((front ++ [d]) :: us) (0 + 1) = (v ++ front).length + 1 := by
        rw [startOf, startOf_zero]
        simp [Nat.add_assoc]
      refine ⟨d, (v ++ front).length, hall d (by simp), hstart, ?_⟩
      have hdelimiter : v ++ (front ++ [d] ++ cs) = v ++ front ++ d :: cs := by simp
      rw [startOf, startOf_zero, drop_length_add, hdelimiter, List.drop_left, List.drop_zero]
    | succ k =>
      obtain ⟨d, start, hd, hstart, hdrop⟩ := ih (Nat.lt_of_succ_lt_succ hk)
      refine ⟨d, v.length + u.length + start, hd, ?_, ?_⟩
      · rw [startOf, hstart]
        rfl
      · rw [startOf, drop_length_add, drop_length_add, hdrop]

end Starts

section Rightmost

variable {v' u' cs' : List Char} {L : Language Char}

/-- A longer word than another one that a run follows takes a delimiter. -/
theorem countP_pos_of_run (hne : u ≠ []) (hu : ∀ c ∈ u, isDelimiter c = true) (hz : z ≠ [])
    (heq : u ++ cs = z ++ y) : 0 < z.countP isDelimiter := by
  obtain ⟨c, u, rfl⟩ := List.exists_cons_of_ne_nil hne
  obtain ⟨d, z, rfl⟩ := List.exists_cons_of_ne_nil hz
  obtain ⟨rfl, -⟩ := List.cons.inj heq
  exact List.countP_pos_iff.mpr ⟨c, List.mem_cons_self, hu c List.mem_cons_self⟩

/-- A word ends no further left than what stands in its place behind more text if their language allows no
more delimiters in a longer word, or if a longer word would have been taken. -/
theorem exists_word_append (hL : IsEven L ∨ (flexible L ∧ IsSuffixClosed L)) (hv : v ∈ L)
    (hv' : v' ∈ L)
    (hlongest : flexible L → ∀ z y rest, z ≠ [] → v ++ z ∈ L → y ≠ [] →
      (∀ c ∈ y, isDelimiter c = true) → u ++ cs = z ++ (y ++ rest) → ¬ Fits Ls rest)
    (hne : u ≠ []) (hu : ∀ c ∈ u, isDelimiter c = true) (hne' : u' ≠ [])
    (hu' : ∀ c ∈ u', isDelimiter c = true) (hfits : Fits Ls cs')
    (heq : x ++ (v ++ (u ++ cs)) = v' ++ (u' ++ cs')) : ∃ y, x ++ v = v' ++ y := by
  rw [← List.append_assoc] at heq
  obtain ⟨z, rfl, hz⟩ | ⟨y, hy, -⟩ := List.append_eq_append_iff.mp heq
  · by_cases hnil : z = []
    · exact ⟨[], by simp [hnil]⟩
    obtain heven | ⟨hflexible, hsuffixes⟩ := hL
    · have hcount := heven v hv _ hv'
      have hpos := countP_pos_of_run hne hu hnil hz
      simp only [List.countP_append] at hcount
      omega
    · have hlonger : v ++ z ∈ L := hsuffixes x (v ++ z) (by simpa using hv') (by simp [hnil])
      exact absurd hfits (hlongest hflexible z u' cs' hnil hlonger hne' hu' hz)
  · exact ⟨y, hy⟩

/-- A run that is as long as can be ends no further left than one that begins no further right. -/
theorem exists_run_end_append
    (hfull : ∀ y rest, y ≠ [] → (∀ c ∈ y, isDelimiter c = true) → cs = y ++ rest → ¬ Fits Ls rest)
    (hu' : ∀ c ∈ u', isDelimiter c = true) (hfits : Fits Ls cs')
    (heq : y ++ (u ++ cs) = u' ++ cs') : ∃ x', y ++ u = u' ++ x' ∧ cs' = x' ++ cs := by
  rw [← List.append_assoc] at heq
  obtain ⟨z, rfl, rfl⟩ | ⟨x', hx', rfl⟩ := List.append_eq_append_iff.mp heq
  · by_cases hnil : z = []
    · exact ⟨[], by simp [hnil], by simp [hnil]⟩
    · exact absurd hfits (hfull z cs' hnil (fun c hc => hu' c (by simp [hc])) rfl)
  · exact ⟨x', hx', rfl⟩

/-- Every word of another cut of the same text as a greedy one, or of a text with more in front, begins
and ends no further right. -/
theorem CutGreedily.rightmost (h : CutGreedily flexible Ls ws us cs)
    (hLs : ∀ L ∈ Ls, IsEven L ∨ (flexible L ∧ IsSuffixClosed L))
    (hwords : List.Forall₂ (fun w L => w ∈ L) ws' Ls) (h' : Joined ws' us' (x ++ cs))
    (hw : ws[k]? = some w) (hw' : ws'[k]? = some w') :
    startOf ws' us' k ≤ x.length + startOf ws us k ∧
      startOf ws' us' k + w'.length ≤ x.length + startOf ws us k + w.length := by
  induction h generalizing ws' us' x k with
  | last hword =>
    obtain ⟨v, vs, hv, hnil, rfl⟩ := List.forall₂_cons_right_iff.mp hwords
    obtain rfl := List.forall₂_nil_right_iff.mp hnil
    obtain ⟨rfl, rfl⟩ := h'.of_singleton
    cases k with
    | zero =>
      obtain rfl := Option.some.inj hw
      obtain rfl := Option.some.inj hw'
      simp [startOf_zero]
    | succ k => cases hw
  | @cons L Ls v u cs vs us hv hlongest hne hu hfull h ih =>
    obtain ⟨v', vs', hv', hvs', rfl⟩ := List.forall₂_cons_right_iff.mp hwords
    have hvs : vs' ≠ [] := by
      rintro rfl
      obtain rfl := List.forall₂_nil_left_iff.mp hvs'
      cases h
    obtain ⟨u', us', cs', rfl, hne', hu', heq, hjoined⟩ := h'.of_cons hvs
    have hfits : Fits Ls cs' := ⟨vs', us', hvs', hjoined⟩
    -- Neither the first word nor the run after it leaves the other cut more text than the greedy one.
    obtain ⟨y, hy⟩ := exists_word_append (hLs L List.mem_cons_self) hv hv' hlongest hne hu hne' hu'
      hfits heq
    obtain ⟨x', hx', rfl⟩ : ∃ x', y ++ u = u' ++ x' ∧ cs' = x' ++ cs := by
      refine exists_run_end_append hfull hu' hfits ?_
      rw [← List.append_assoc, hy, List.append_assoc] at heq
      exact List.append_cancel_left heq
    have hlengths := congrArg List.length hy
    have hlengths' := congrArg List.length hx'
    simp only [List.length_append] at hlengths hlengths'
    cases k with
    | zero =>
      obtain rfl := Option.some.inj hw
      obtain rfl := Option.some.inj hw'
      simp only [startOf_zero]
      omega
    | succ k =>
      have hrest := ih (fun L hL => hLs L (List.mem_cons_of_mem _ hL)) hvs' hjoined hw hw'
      simp only [startOf]
      omega

end Rightmost

section Counting

variable (h : Joined ws us cs) (h' : Joined ws' us' cs) (hlength : ws.length = ws'.length)
  (hcount : ∀ j v w, k ≤ j → ws[j]? = some v → ws'[j]? = some w →
    v.countP isDelimiter ≤ w.countP isDelimiter)
  (hsingle : ∀ j u, k ≤ j → us[j]? = some u → u.length = 1)
include h h' hlength hcount hsingle

theorem Joined.startOf_le (hk : k < ws.length) : startOf ws' us' k ≤ startOf ws us k := by
  have hback := h.drop hk
  have hback' := h'.drop (hlength ▸ hk)
  have hfst : ((ws.zip ws').drop k).map (·.1) = ws.drop k := by
    rw [List.map_drop]
    exact congrArg (List.drop k) (List.map_fst_zip (Nat.le_of_eq hlength))
  have hsnd : ((ws.zip ws').drop k).map (·.2) = ws'.drop k := by
    rw [List.map_drop]
    exact congrArg (List.drop k) (List.map_snd_zip (Nat.le_of_eq hlength.symm))
  rw [← hfst] at hback
  rw [← hsnd] at hback'
  have hfewer : (cs.drop (startOf ws us k)).countP isDelimiter ≤
      (cs.drop (startOf ws' us' k)).countP isDelimiter := by
    refine hback.countP_le hback' ?_ ?_
    · intro x hx
      obtain ⟨j, hj⟩ := List.getElem?_of_mem hx
      rw [List.getElem?_drop, List.getElem?_zip_eq_some] at hj
      exact hcount (k + j) x.1 x.2 (Nat.le_add_right k j) hj.1 hj.2
    · intro u hu
      obtain ⟨j, hj⟩ := List.getElem?_of_mem hu
      rw [List.getElem?_drop] at hj
      exact hsingle (k + j) u (Nat.le_add_right k j) hj
  by_contra hlt
  cases k with
  | zero => simp [startOf_zero] at hlt
  | succ k =>
    obtain ⟨d, start, hd, hstart, hdrop⟩ := h'.exists_delimiter (hlength ▸ hk)
    have hsuffix : cs.drop start <:+ cs.drop (startOf ws us (k + 1)) :=
      List.drop_suffix_drop_left cs (by omega)
    have hmore := hsuffix.sublist.countP_le (p := isDelimiter)
    rw [hdrop, List.countP_cons_of_pos hd] at hmore
    omega

theorem Joined.stop_le (hw : ws[k]? = some w) (hw' : ws'[k]? = some w') :
    startOf ws' us' k + w'.length ≤ startOf ws us k + w.length := by
  have hk := (List.getElem?_eq_some_iff.mp hw).1
  have hruns := h.length_eq
  have hruns' := h'.length_eq
  by_cases hlast : k + 1 = ws.length
  · rw [h.startOf_add_last hw hlast, h'.startOf_add_last hw' (hlength ▸ hlast)]
  · have hu : us[k]? = some us[k] := List.getElem?_eq_getElem (by omega)
    have hu' : us'[k]? = some us'[k] := List.getElem?_eq_getElem (by omega)
    have hnext := h.startOf_le h' hlength (fun j v w hj => hcount j v w (by omega))
      (fun j u hj => hsingle j u (by omega)) (Nat.lt_of_le_of_ne hk hlast)
    rw [h.startOf_succ hw hu, h'.startOf_succ hw' hu'] at hnext
    have hone := hsingle k us[k] (Nat.le_refl k) hu
    have hpos := List.length_pos_iff.mpr (h'.ne_nil_of_mem us'[k] (List.getElem_mem _))
    omega

end Counting

section Stopping

theorem eq_of_stops {rest : List Char} (hrest : ∀ c ∈ rest.head?, isDelimiter c = true)
    (heq : v ++ d :: x = w ++ rest)
    (hstops : v.length = w.length ∨ (isSolid v = true ∧ d ∉ w)) : v = w := by
  obtain hlength | ⟨hsolid, hnot⟩ := hstops
  · exact (List.append_inj heq hlength).1
  obtain ⟨z, rfl, hz⟩ | ⟨z, rfl, hz⟩ := List.append_eq_append_iff.mp heq
  · cases z with
    | nil => exact (List.append_nil v).symm
    | cons c z =>
      obtain ⟨rfl, -⟩ := List.cons.inj hz
      exact absurd (by simp) hnot
  · cases z with
    | nil => exact List.append_nil w
    | cons c z =>
      have hc : isDelimiter c = true := hrest c (by rw [hz]; rfl)
      have hfirm := List.all_eq_true.mp hsolid c (by simp)
      rw [hc] at hfirm
      cases hfirm

/-- Up to a word, words are the values with single delimiters between them if each word has the length of
its value or cannot take the delimiter after it. -/
theorem Joined.word_eq_of_stops {ds : List Char} (h : Joined vs (ds.map ([·])) cs)
    (h' : Joined ws us cs) (hfirm : ∀ v ∈ vs, HasFirmEnds v) (hlength : ws.length ≤ vs.length)
    (hstops : ∀ j v w d, j ≤ k → vs[j]? = some v → ws[j]? = some w → ds[j]? = some d →
      v.length = w.length ∨ (isSolid v = true ∧ d ∉ w))
    (hv : vs[k]? = some v) (hw : ws[k]? = some w) : w = v := by
  induction vs generalizing ds ws us cs k with
  | nil => cases hv
  | cons v₀ vs ih =>
    obtain ⟨w₀, ws, rfl⟩ := List.exists_cons_of_ne_nil h'.ne_nil
    by_cases hvs : vs = []
    · subst hvs
      obtain rfl : ws = [] := by simpa using hlength
      obtain rfl : k = 0 := by
        have hk := (List.getElem?_eq_some_iff.mp hv).1
        simpa using hk
      obtain rfl := Option.some.inj hv
      obtain rfl := Option.some.inj hw
      rw [← h.of_singleton.2, h'.of_singleton.2]
    · obtain ⟨u, us₀, rest, hds, -, hu, rfl, hvalues⟩ := h.of_cons hvs
      obtain ⟨d, ds, rfl, rfl, rfl⟩ := List.map_eq_cons_iff.mp hds
      have hfirst := hstops 0 v₀ w₀ d (Nat.zero_le k) rfl rfl rfl
      by_cases hws : ws = []
      · subst hws
        have hwhole : v₀ ++ d :: rest = w₀ ++ [] := by simpa using h'.of_singleton.2
        have hfront := eq_of_stops (by simp) hwhole hfirst
        simp [hfront] at hwhole
      · obtain ⟨u', us', rest', rfl, hne', hu', heq, hwords⟩ := h'.of_cons hws
        obtain rfl : v₀ = w₀ := by
          refine eq_of_stops ?_ heq hfirst
          intro c hc
          rw [List.head?_append_of_ne_nil _ hne'] at hc
          exact hu' c (List.mem_of_mem_head? hc)
        cases k with
        | zero =>
          obtain rfl := Option.some.inj hv
          obtain rfl := Option.some.inj hw
          rfl
        | succ k =>
          have hhead := hvalues.head?_eq_false fun v hv => hfirm v (List.mem_cons_of_mem _ hv)
          have hafter : [d] ++ rest = u' ++ rest' := List.append_cancel_left heq
          obtain ⟨y, hy, rfl⟩ := exists_run_append hu' hhead hafter
          obtain rfl : y = [] := by
            have hone := congrArg List.length hy
            have hpos := List.length_pos_iff.mpr hne'
            simp only [List.length_append, List.length_singleton] at hone
            exact List.length_eq_zero_iff.mp (by omega)
          exact ih hvalues hwords (fun v hv => hfirm v (List.mem_cons_of_mem _ hv))
            (by simpa using hlength)
            (fun j v w d hj hv hw hd => hstops (j + 1) v w d (Nat.succ_le_succ hj) hv hw hd) hv hw

end Stopping

end PhotoGrouping.Filename
