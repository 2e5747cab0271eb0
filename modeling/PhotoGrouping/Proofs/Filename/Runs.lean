import Mathlib.Algebra.GroupWithZero.Nat
import Mathlib.Algebra.Order.BigOperators.Group.List
import Mathlib.Algebra.Order.Group.Nat
import Mathlib.Data.List.TakeWhile
import PhotoGrouping.Proofs.Filename.Joins
import PhotoGrouping.Proofs.Filename.Tokens

namespace PhotoGrouping.Filename

/-- Whether a text consists of values with runs of delimiters between them. -/
inductive Joined : List (List Char) → List (List Char) → List Char → Prop
  | last (v : List Char) : Joined [v] [] v
  | cons {v u cs : List Char} {vs us : List (List Char)} (hne : u ≠ [])
      (hu : ∀ c ∈ u, isDelimiter c = true) (h : Joined vs us cs) :
      Joined (v :: vs) (u :: us) (v ++ (u ++ cs))

/-- Whether a text neither begins nor ends with a delimiter. -/
def HasFirmEnds (cs : List Char) : Prop :=
  (∃ c ∈ cs.head?, isDelimiter c = false) ∧ ∃ c ∈ cs.getLast?, isDelimiter c = false

/-- Whether two texts are told from the delimiters around them in the same way. -/
structure Alike (v w : List Char) : Prop where
  left : HasFirmEnds v
  right : HasFirmEnds w
  solid_or_length : (isSolid v = true ∧ isSolid w = true) ∨ v.length = w.length

variable {v w u u' x y cs : List Char} {vs us us' : List (List Char)} {c : Char}

theorem HasFirmEnds.reverse (h : HasFirmEnds v) : HasFirmEnds v.reverse :=
  ⟨by simpa using h.2, by simpa using h.1⟩

theorem Alike.reverse (h : Alike v w) : Alike v.reverse w.reverse where
  left := h.left.reverse
  right := h.right.reverse
  solid_or_length := by
    simpa [isSolid] using h.solid_or_length

/-- A text is split in one way only where a property ends. -/
theorem append_inj_of_run {p : Char → Bool} (hv : ∀ c ∈ v, p c = true) (hw : ∀ c ∈ w, p c = true)
    (hx : ∀ c ∈ x.head?, p c = false) (hy : ∀ c ∈ y.head?, p c = false) (h : v ++ x = w ++ y) :
    v = w ∧ x = y := by
  have htake {v x : List Char} (hv : ∀ c ∈ v, p c = true) (hx : ∀ c ∈ x.head?, p c = false) :
      (v ++ x).takeWhile p = v := by
    rw [List.takeWhile_append_of_pos hv]
    cases x with
    | nil => simp
    | cons c x => rw [List.takeWhile_cons_of_neg (by simp [hx c rfl]), List.append_nil]
  have hvw : v = w := by rw [← htake hv hx, h, htake hw hy]
  exact ⟨hvw, List.append_cancel_left (hvw ▸ h)⟩

/-- Texts alike with delimiters after them are the same. -/
theorem Alike.eq_of_append (h : Alike v w) (hu : ∀ c ∈ u, isDelimiter c = true)
    (hu' : ∀ c ∈ u', isDelimiter c = true) (hne : u ≠ []) (hne' : u' ≠ [])
    (heq : v ++ (u ++ x) = w ++ (u' ++ y)) : v = w ∧ u ++ x = u' ++ y := by
  obtain ⟨hv, hw⟩ | hlength := h.solid_or_length
  · have hrun {u x : List Char} (hu : ∀ c ∈ u, isDelimiter c = true) (hne : u ≠ []) :
        ∀ c ∈ (u ++ x).head?, (!isDelimiter c) = false := by
      intro c hc
      cases u with
      | nil => exact absurd rfl hne
      | cons d u =>
        obtain rfl := Option.some.inj hc
        simp [hu d]
    exact append_inj_of_run (List.all_eq_true.mp hv) (List.all_eq_true.mp hw) (hrun hu hne)
      (hrun hu' hne') heq
  · exact List.append_inj heq hlength

theorem Joined.head? (h : Joined (v :: vs) us cs) (hv : v ≠ []) : cs.head? = v.head? := by
  cases h with
  | last => rfl
  | cons hne hu h => rw [List.head?_append_of_ne_nil _ hv]

theorem Joined.ne_nil (h : Joined vs us cs) : vs ≠ [] := by
  cases h with
  | last => exact List.cons_ne_nil _ _
  | cons hne hu h => exact List.cons_ne_nil _ _

theorem Joined.of_cons (h : Joined (v :: vs) us cs) (hvs : vs ≠ []) :
    ∃ u us₀ cs₀, us = u :: us₀ ∧ u ≠ [] ∧ (∀ c ∈ u, isDelimiter c = true) ∧
      cs = v ++ (u ++ cs₀) ∧ Joined vs us₀ cs₀ := by
  cases h with
  | last => exact absurd rfl hvs
  | cons hne hu h => exact ⟨_, _, _, rfl, hne, hu, rfl, h⟩

theorem Joined.of_singleton (h : Joined [v] us cs) : us = [] ∧ cs = v := by
  cases h with
  | last => exact ⟨rfl, rfl⟩
  | cons hne hu h => exact absurd rfl h.ne_nil

theorem Joined.exists_append (h : Joined (v :: vs) us cs) : ∃ rest, cs = v ++ rest := by
  cases h with
  | last => exact ⟨[], (List.append_nil v).symm⟩
  | cons hne hu h => exact ⟨_, rfl⟩

theorem Joined.append {vs' : List (List Char)} {cs' : List Char} (h : Joined vs us cs) (hne : u ≠ [])
    (hu : ∀ c ∈ u, isDelimiter c = true) (h' : Joined vs' us' cs') :
    Joined (vs ++ vs') (us ++ u :: us') (cs ++ (u ++ cs')) := by
  induction h with
  | last v => exact .cons hne hu h'
  | cons hne' hu' h ih => simpa using Joined.cons hne' hu' ih

theorem Joined.concat (h : Joined vs us cs) (hne : u ≠ []) (hu : ∀ c ∈ u, isDelimiter c = true)
    (v : List Char) : Joined (vs ++ [v]) (us ++ [u]) (cs ++ (u ++ v)) :=
  h.append hne hu (.last v)

theorem exists_joined_of_isSinglyJoined (h : isSinglyJoined vs cs = true) (hne : vs ≠ []) :
    ∃ us, Joined vs us cs ∧ ∀ u ∈ us, u.length = 1 := by
  induction vs generalizing cs with
  | nil => exact absurd rfl hne
  | cons v vs ih =>
    cases vs with
    | nil =>
      obtain rfl := isSinglyJoined_singleton.mp h
      exact ⟨[], .last cs, by simp⟩
    | cons w vs =>
      obtain ⟨d, rest, hd, rfl, hrest⟩ := isSinglyJoined_cons_cons.mp h
      obtain ⟨us, hjoined, hsingle⟩ := ih hrest (List.cons_ne_nil w vs)
      exact ⟨[d] :: us, .cons (List.cons_ne_nil d []) (by simpa using hd) hjoined, by simpa using hsingle⟩

/-- Read backwards, a text consists of the same values and runs, read backwards. -/
theorem Joined.reverse (h : Joined vs us cs) :
    Joined (vs.reverse.map List.reverse) (us.reverse.map List.reverse) cs.reverse := by
  induction h with
  | last v => exact .last v.reverse
  | cons hne hu h ih =>
    simpa using ih.concat (by simpa using hne) (by simpa using hu) _

/-- A text holds the delimiters of its values and those between them. -/
theorem Joined.countP_eq (h : Joined vs us cs) :
    cs.countP isDelimiter = (vs.map (·.countP isDelimiter)).sum + (us.map List.length).sum := by
  induction h with
  | last v => simp
  | cons hne hu h ih =>
    simp only [List.countP_append, ih, List.map_cons, List.sum_cons, List.countP_eq_length.mpr hu]
    omega

theorem Joined.length_eq (h : Joined vs us cs) : vs.length = us.length + 1 := by
  induction h with
  | last v => rfl
  | cons hne hu h ih => simp [ih]

theorem Joined.delimiters (h : Joined vs us cs) : ∀ u ∈ us, ∀ c ∈ u, isDelimiter c = true := by
  induction h with
  | last v => simp
  | cons hne hu h ih => exact List.forall_mem_cons.mpr ⟨hu, ih⟩

theorem Joined.ne_nil_of_mem (h : Joined vs us cs) : ∀ u ∈ us, u ≠ [] := by
  induction h with
  | last v => simp
  | cons hne hu h ih => exact List.forall_mem_cons.mpr ⟨hne, ih⟩

theorem Joined.length_le_sum (h : Joined vs us cs) : us.length ≤ (us.map List.length).sum := by
  induction h with
  | last v => simp
  | cons hne hu h ih =>
    have hpos := List.length_pos_iff.mpr hne
    rw [List.length_cons, List.map_cons, List.sum_cons]
    omega

section Cells

variable {cells : List (List Char × List Char)}

/-- Values with single delimiters hold no more delimiters than others that hold as many each. -/
theorem Joined.countP_le {cs' : List Char} (h : Joined (cells.map (·.1)) us cs)
    (h' : Joined (cells.map (·.2)) us' cs')
    (hcount : ∀ x ∈ cells, x.1.countP isDelimiter ≤ x.2.countP isDelimiter)
    (hsingle : ∀ u ∈ us, u.length = 1) : cs.countP isDelimiter ≤ cs'.countP isDelimiter := by
  have hvalues : ((cells.map (·.1)).map (·.countP isDelimiter)).sum ≤
      ((cells.map (·.2)).map (·.countP isDelimiter)).sum := by
    rw [List.map_map, List.map_map]
    exact List.sum_le_sum hcount
  have hruns : (us.map List.length).sum = us.length := by
    rw [List.map_congr_left hsingle, List.map_const', List.sum_replicate_nat, Nat.mul_one]
  have hlength := h.length_eq
  have hlength' := h'.length_eq
  have hpos := h'.length_le_sum
  rw [List.length_map] at hlength hlength'
  rw [h.countP_eq, h'.countP_eq]
  omega

/-- Values with single delimiters between them are told apart by the number of their delimiters. -/
theorem Joined.values_eq_of_single (h : Joined (cells.map (·.1)) us cs)
    (h' : Joined (cells.map (·.2)) us' cs)
    (hcount : ∀ x ∈ cells, x.1.countP isDelimiter ≤ x.2.countP isDelimiter)
    (hsingle : ∀ u ∈ us, u.length = 1) : ∀ x ∈ cells, x.1 = x.2 := by
  induction cells generalizing us us' cs with
  | nil => simp
  | cons x cells ih =>
    cases cells with
    | nil =>
      obtain ⟨-, rfl⟩ := h.of_singleton
      simpa using h'.of_singleton.2
    | cons y cells =>
      obtain ⟨u, us₀, cs₀, rfl, hu, hall, rfl, hjoined⟩ := h.of_cons (by simp)
      obtain ⟨u', us₀', cs₀', rfl, hu', hall', heq, hjoined'⟩ := h'.of_cons (by simp)
      have hrest : ∀ x ∈ y :: cells, x.1.countP isDelimiter ≤ x.2.countP isDelimiter :=
        fun z hz => hcount z (List.mem_cons_of_mem x hz)
      have hsingle₀ : ∀ u ∈ us₀, u.length = 1 :=
        fun v hv => hsingle v (List.mem_cons_of_mem u hv)
      -- Every word and run of the other split holds at least its share of the delimiters.
      have hshare := hjoined.countP_le hjoined' hrest hsingle₀
      have htotal := congrArg (List.countP isDelimiter) heq
      have hx := hcount x List.mem_cons_self
      have hpos := List.length_pos_iff.mpr hu'
      have hone := hsingle u List.mem_cons_self
      simp only [List.countP_append, List.countP_eq_length.mpr hall,
        List.countP_eq_length.mpr hall'] at htotal
      obtain ⟨d, rfl⟩ : ∃ d, u = [d] := List.length_eq_one_iff.mp hone
      obtain ⟨d', rfl⟩ : ∃ d, u' = [d] := List.length_eq_one_iff.mp (by omega)
      have hfirst : x.1.countP isDelimiter = x.2.countP isDelimiter := by
        simp only [List.length_singleton] at htotal
        omega
      obtain ⟨hvalue, rfl⟩ := append_delimiter_inj (hall d List.mem_cons_self)
        (hall' d' List.mem_cons_self) heq hfirst
      intro z hz
      obtain rfl | hz := List.mem_cons.mp hz
      · exact hvalue
      · exact ih hjoined hjoined' hrest hsingle₀ z hz

theorem HasFirmEnds.head?_eq_false (hv : HasFirmEnds v) (h : Joined (v :: vs) us cs) :
    ∀ c ∈ cs.head?, isDelimiter c = false := by
  obtain ⟨⟨d, hd, hfirm⟩, -⟩ := hv
  intro c hc
  rw [h.head? (by rintro rfl; cases hd), hd] at hc
  exact Option.some.inj hc ▸ hfirm

/-- Values that are alike at the front are the same, and so is what follows them. -/
theorem Joined.front_eq {v' w' : List Char} {vs' : List (List Char)} (h : Joined (v :: w :: vs) us cs)
    (h' : Joined (v' :: w' :: vs') us' cs) (hv : Alike v v') (hw : Alike w w') :
    v = v' ∧ ∃ u us₀ us₀' cs₀, us = u :: us₀ ∧ us' = u :: us₀' ∧ cs = v ++ (u ++ cs₀) ∧
      Joined (w :: vs) us₀ cs₀ ∧ Joined (w' :: vs') us₀' cs₀ := by
  obtain ⟨u, us₀, cs₀, rfl, hu, hall, rfl, hrest⟩ := h.of_cons (by simp)
  obtain ⟨u', us₀', cs₀', rfl, hu', hall', heq, hrest'⟩ := h'.of_cons (by simp)
  obtain ⟨rfl, hafter⟩ := hv.eq_of_append hall hall' hu hu' heq
  obtain ⟨rfl, rfl⟩ := append_inj_of_run hall hall' (hw.left.head?_eq_false hrest)
    (hw.right.head?_eq_false hrest') hafter
  exact ⟨rfl, u, us₀, us₀', cs₀, rfl, rfl, rfl, hrest, hrest'⟩

/-- Values that are alike at the back are the same, and so is what precedes them. -/
theorem Joined.back_eq {v' w' : List Char} {vs' : List (List Char)}
    (h : Joined (vs ++ [w] ++ [v]) us cs) (h' : Joined (vs' ++ [w'] ++ [v']) us' cs)
    (hv : Alike v v') (hw : Alike w w') :
    v = v' ∧ ∃ u us₀ us₀' cs₀, us = us₀ ++ [u] ∧ us' = us₀' ++ [u] ∧ cs = cs₀ ++ (u ++ v) ∧
      Joined (vs ++ [w]) us₀ cs₀ ∧ Joined (vs' ++ [w']) us₀' cs₀ := by
  have hrev : Joined (v.reverse :: w.reverse :: vs.reverse.map List.reverse)
      (us.reverse.map List.reverse) cs.reverse := by simpa using h.reverse
  have hrev' : Joined (v'.reverse :: w'.reverse :: vs'.reverse.map List.reverse)
      (us'.reverse.map List.reverse) cs.reverse := by simpa using h'.reverse
  obtain ⟨hvalue, u, us₀, us₀', cs₀, hus, hus', hcs, hrest, hrest'⟩ :=
    hrev.front_eq hrev' hv.reverse hw.reverse
  have hruns {us us₀ : List (List Char)} (hus : us.reverse.map List.reverse = u :: us₀) :
      us = us₀.reverse.map List.reverse ++ [u.reverse] := by
    have hback := congrArg (fun us => us.reverse.map List.reverse) hus
    simpa using hback
  have htext : cs = cs₀.reverse ++ (u.reverse ++ v) := by
    have hback := congrArg List.reverse hcs
    simpa using hback
  exact ⟨List.reverse_inj.mp hvalue, _, _, _, _, hruns hus, hruns hus', htext,
    by simpa using hrest.reverse, by simpa using hrest'.reverse⟩

/-- Values are the same up to one up to which they are alike. -/
theorem Joined.take_eq (h : Joined (cells.map (·.1)) us cs) (h' : Joined (cells.map (·.2)) us' cs)
    {k : Nat} (halike : ∀ x ∈ cells.take (k + 1), Alike x.1 x.2) :
    ∀ x ∈ cells.take (k + 1), x.1 = x.2 := by
  induction k generalizing cells us us' cs with
  | zero =>
    rcases cells with _ | ⟨x, _ | ⟨y, rest⟩⟩
    · simp
    · obtain ⟨-, rfl⟩ := h.of_singleton
      simpa using h'.of_singleton.2
    · obtain ⟨u, us₀, cs₀, rfl, hu, hall, rfl, -⟩ := h.of_cons (by simp)
      obtain ⟨u', us₀', cs₀', rfl, hu', hall', heq, -⟩ := h'.of_cons (by simp)
      have hx := halike x (by simp)
      simpa using (hx.eq_of_append hall hall' hu hu' heq).1
  | succ k ih =>
    rcases cells with _ | ⟨x, _ | ⟨y, rest⟩⟩
    · simp
    · obtain ⟨-, rfl⟩ := h.of_singleton
      simpa using h'.of_singleton.2
    · obtain ⟨hvalue, u, us₀, us₀', cs₀, rfl, -, -, hrest, hrest'⟩ :=
        h.front_eq h' (halike x (by simp)) (halike y (by simp))
      have hvalues : Joined ((y :: rest).map (·.1)) us₀ cs₀ := hrest
      have hwords : Joined ((y :: rest).map (·.2)) us₀' cs₀ := hrest'
      intro z hz
      obtain rfl | hz := List.mem_cons.mp hz
      · exact hvalue
      · exact ih hvalues hwords (fun z hz => halike z (List.mem_cons_of_mem x hz)) z hz

/-- Values are the same from one on from which on they are alike. -/
theorem Joined.drop_eq (h : Joined (cells.map (·.1)) us cs) (h' : Joined (cells.map (·.2)) us' cs)
    {k : Nat} (halike : ∀ x ∈ cells.drop k, Alike x.1 x.2) : ∀ x ∈ cells.drop k, x.1 = x.2 := by
  by_cases hk : cells.length ≤ k
  · simp [List.drop_eq_nil_of_le hk]
  let back (x : List Char × List Char) := (x.1.reverse, x.2.reverse)
  have hcells : ∀ z, z ∈ (cells.reverse.map back).take (cells.length - k - 1 + 1) ↔
      ∃ x ∈ cells.drop k, back x = z := by
    intro z
    rw [show cells.length - k - 1 + 1 = cells.length - k by omega, ← List.map_take,
      List.take_reverse, show cells.length - (cells.length - k) = k by omega, List.mem_map]
    simp only [List.mem_reverse]
  have hvalues : Joined ((cells.reverse.map back).map (·.1)) (us.reverse.map List.reverse)
      cs.reverse := by
    have hreverse := h.reverse
    simpa [Function.comp_def, back] using hreverse
  have hwords : Joined ((cells.reverse.map back).map (·.2)) (us'.reverse.map List.reverse)
      cs.reverse := by
    have hreverse := h'.reverse
    simpa [Function.comp_def, back] using hreverse
  intro x hx
  have heq := hvalues.take_eq hwords (fun z hz => ?_) (back x) ((hcells _).mpr ⟨x, hx, rfl⟩)
  · exact List.reverse_inj.mp heq
  · obtain ⟨y, hy, rfl⟩ := (hcells z).mp hz
    exact (halike y hy).reverse

end Cells

end PhotoGrouping.Filename
