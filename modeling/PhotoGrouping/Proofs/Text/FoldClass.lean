import Mathlib.Data.List.Chain
import Mathlib.Data.List.Pairwise
import PhotoGrouping.Proofs.Text.Folding

namespace PhotoGrouping.Text

/-- Whether two spans are seen to have no code point in common. -/
def Span.apart (a b : Span) : Bool :=
  a.last.blt b.first || b.last.blt a.first || (a.first == a.last && !b.contains a.first) ||
    (a.step == 2 && b.step == 2 && (a.first + b.first) % 2 == 1)

/-- The code points that a shift moves others to. -/
def Shift.range (s : Shift) : Span :=
  ⟨s.target, s.target + (s.source.last - s.source.first), s.source.step⟩

variable {a b : Span} {s t : Shift} {c d : Char} {n m : Nat}

theorem Span.contains_iff :
    a.contains n = true ↔ (a.first ≤ n ∧ n ≤ a.last) ∧ (n - a.first) % a.step = 0 := by
  simp [contains]

theorem Span.not_contains_of_apart (h : a.apart b = true) (ha : a.contains n = true) :
    b.contains n = false := by
  by_contra hb
  rw [Bool.not_eq_false] at hb
  rw [contains_iff] at ha
  simp only [apart, Bool.or_eq_true, Bool.and_eq_true, beq_iff_eq, Bool.not_eq_true',
    Nat.blt_eq] at h
  obtain ((h | h) | ⟨hsingle, h⟩) | ⟨⟨hstep, hstep'⟩, h⟩ := h
  · rw [contains_iff] at hb
    omega
  · rw [contains_iff] at hb
    omega
  · have hn : n = a.first := by omega
    rw [hn, h] at hb
    cases hb
  · rw [contains_iff, hstep'] at hb
    rw [hstep] at ha
    omega

theorem Shift.contains_of_target? (h : s.target? m = some n) : s.source.contains m = true := by
  unfold target? at h
  split at h
  · assumption
  · cases h

theorem Shift.range_contains (h : s.target? m = some n) : s.range.contains n = true := by
  have hm := contains_of_target? h
  rw [target?, if_pos hm] at h
  obtain rfl := Option.some.inj h
  rw [Span.contains_iff] at hm ⊢
  dsimp only [range]
  rw [Nat.add_sub_cancel_left]
  exact ⟨⟨by omega, by omega⟩, hm.2⟩

/-- A code point comes back from where a shift moves it. -/
theorem Shift.preimage?_eq_some_iff : s.preimage? n = some m ↔ s.target? m = some n := by
  unfold preimage? target?
  dsimp only
  constructor
  · intro h
    split at h
    · rename_i hn
      obtain rfl := Option.some.inj h
      rw [Bool.and_eq_true, decide_eq_true_eq] at hn
      rw [if_pos hn.2, Option.some.injEq]
      omega
    · cases h
  · intro h
    split at h
    · rename_i hm
      obtain rfl := Option.some.inj h
      have hfirst := (Span.contains_iff.mp hm).1.1
      have hback : s.source.first + (s.target + (m - s.source.first) - s.target) = m := by omega
      rw [hback, hm]
      simp
    · cases h

/-- A character that no shift moves stays where it is. -/
theorem shifted_eq_self {shifts : List Shift}
    (h : ∀ s ∈ shifts, s.source.contains c.toNat = false) : shifted shifts c = c := by
  rcases shifted_eq_or shifts c with he | ⟨s, hs, n, hn, -⟩
  · exact he
  · have hfixed := h s hs
    rw [Shift.contains_of_target? hn] at hfixed
    cases hfixed

/-- A character that another one is moved to stays where it is, if no shift moves what another one moves
characters to. -/
theorem shifted_of_range {shifts : List Shift}
    (hapart : (shifts.all fun s => shifts.all fun t => s.range.apart t.source) = true)
    (hs : s ∈ shifts) (h : s.target? n = some c.toNat) : shifted shifts c = c := by
  apply shifted_eq_self
  intro t ht
  have hapart := List.all_eq_true.mp (List.all_eq_true.mp hapart s hs) t ht
  exact Span.not_contains_of_apart hapart (Shift.range_contains h)

/-- The spans of characters that are moved follow each other. -/
def Shift.precedes (s t : Shift) : Prop :=
  s.source.last < t.source.first ∧ t.source.first ≤ t.source.last

instance : DecidableRel Shift.precedes :=
  fun s t => inferInstanceAs (Decidable (s.source.last < t.source.first ∧ _))

instance : Trans Shift.precedes Shift.precedes Shift.precedes where
  trans h h' := ⟨by have := h.1; have := h.2; have := h'.1; omega, h'.2⟩

theorem pairwise_foldShifts : foldShifts.Pairwise Shift.precedes := by
  rw [← List.isChain_iff_pairwise]
  decide +kernel

/-- No character that represents others is moved itself. -/
theorem apart_foldShifts :
    (foldShifts.all fun s => foldShifts.all fun t => s.range.apart t.source) = true := by
  decide +kernel

theorem eq_of_contains (hs : s ∈ foldShifts) (ht : t ∈ foldShifts) (hn : s.source.contains n = true)
    (hn' : t.source.contains n = true) : s = t := by
  rw [Span.contains_iff] at hn hn'
  by_contra hne
  have : Std.Symm fun s t : Shift => s.precedes t ∨ t.precedes s := ⟨fun _ _ => Or.symm⟩
  have hpairwise : foldShifts.Pairwise fun s t => s.precedes t ∨ t.precedes s :=
    pairwise_foldShifts.imp Or.inl
  obtain h | h := hpairwise.forall hs ht hne
  · have := h.1
    omega
  · have := h.1
    omega

theorem shifted_of_target? (hs : s ∈ foldShifts) (h : s.target? c.toNat = some n) :
    shifted foldShifts c = Char.ofNat n := by
  have hsome : (foldShifts.findSome? (·.target? c.toNat)).isSome = true := by
    rw [List.findSome?_isSome_iff]
    exact ⟨s, hs, by rw [h]; rfl⟩
  obtain ⟨k, hk⟩ := Option.isSome_iff_exists.mp hsome
  obtain ⟨t, ht, htk⟩ := List.exists_of_findSome?_eq_some hk
  obtain rfl := eq_of_contains hs ht (Shift.contains_of_target? h) (Shift.contains_of_target? htk)
  rw [h] at htk
  obtain rfl := Option.some.inj htk
  rw [shifted, hk]

/-- The characters beyond ASCII that are variants of ASCII letters. -/
theorem ascii_of_target? (hs : s ∈ foldShifts) (h : s.target? m = some n) (hn : n < 128) :
    (m = 0x17F ∧ n = 's'.toNat) ∨ (m = 0x212A ∧ n = 'k'.toNat) := by
  have htable : ∀ s ∈ foldShifts, 128 ≤ s.target ∨ s = ⟨⟨0x17F, 0x17F, 1⟩, 's'.toNat⟩ ∨
      s = ⟨⟨0x212A, 0x212A, 1⟩, 'k'.toNat⟩ := by
    decide +kernel
  have hm := Span.contains_iff.mp (Shift.contains_of_target? h)
  rw [Shift.target?, if_pos (Shift.contains_of_target? h)] at h
  have hvalue := Option.some.inj h
  rcases htable s hs with ht | rfl | rfl
  · omega
  · dsimp only at hm hvalue
    left
    omega
  · dsimp only at hm hvalue
    right
    omega

/-- Whether the code points of a span are those of characters beyond ASCII. -/
def Span.hasChars (a : Span) : Bool :=
  a.last.blt 0xD800 || (Nat.ble 0xE000 a.first && a.last.blt 0x110000)

theorem Span.toNat_ofNat (h : a.hasChars = true) (hn : a.contains n = true) :
    (Char.ofNat n).toNat = n := by
  have hn := (contains_iff.mp hn).1
  simp only [hasChars, Bool.or_eq_true, Bool.and_eq_true, Nat.blt_eq, Nat.ble_eq] at h
  have hvalid : n.isValidChar := by
    unfold Nat.isValidChar
    omega
  have hchar : Char.ofNat n = Char.ofNatAux n hvalid := dif_pos hvalid
  rw [hchar]
  rfl

theorem hasChars_foldShifts : ∀ s ∈ foldShifts, 128 ≤ s.source.first ∧
    s.source.hasChars = true ∧ s.range.hasChars = true := by
  decide +kernel

theorem foldChar_of_not_ascii (hc : ¬ c.toNat < 128) : foldChar c = shifted foldShifts c :=
  if_neg hc

theorem foldChar_of_target? (hs : s ∈ foldShifts) (h : s.target? m = some d.toNat) :
    foldChar (Char.ofNat m) = d := by
  obtain ⟨hfirst, hsource, -⟩ := hasChars_foldShifts s hs
  have hm := Shift.contains_of_target? h
  have hnat := Span.toNat_ofNat hsource hm
  have hbeyond : ¬ (Char.ofNat m).toNat < 128 := by
    rw [hnat]
    have := (Span.contains_iff.mp hm).1.1
    omega
  rw [← hnat] at h
  rw [foldChar_of_not_ascii hbeyond, shifted_of_target? hs h, Char.ofNat_toNat]

/-- A character beyond ASCII represents itself or is moved to the one that represents it. -/
theorem foldChar_cases (hc : ¬ c.toNat < 128) : foldChar c = c ∨
    ∃ s ∈ foldShifts, s.target? c.toNat = some (foldChar c).toNat := by
  rw [foldChar_of_not_ascii hc]
  rcases shifted_eq_or foldShifts c with he | ⟨s, hs, n, hn, he⟩
  · exact Or.inl he
  · right
    refine ⟨s, hs, ?_⟩
    rw [he, Span.toNat_ofNat (hasChars_foldShifts s hs).2.2 (Shift.range_contains hn)]
    exact hn

/-- A character that represents others represents itself. -/
theorem foldChar_foldChar (c : Char) : foldChar (foldChar c) = foldChar c := by
  by_cases hc : c.toNat < 128
  · exact forall_ascii (fun c => foldChar (foldChar c) = foldChar c) (by decide) c hc
  · rcases foldChar_cases hc with he | ⟨s, hs, hn⟩
    · rw [he, he]
    · by_cases hf : (foldChar c).toNat < 128
      · have hletter : foldChar c = 's' ∨ foldChar c = 'k' := by
          rw [← Char.toNat_inj, ← Char.toNat_inj]
          exact (ascii_of_target? hs hn hf).imp And.right And.right
        obtain h | h := hletter
        · rw [h]
          decide
        · rw [h]
          decide
      · rw [foldChar_of_not_ascii hf]
        exact shifted_of_range apart_foldShifts hs hn

theorem foldChar_of_mem_caseVariants (h : c ∈ caseVariants d) : foldChar c = foldChar d := by
  have hfixed := foldChar_foldChar d
  unfold caseVariants at h
  dsimp only at h
  generalize foldChar d = f at hfixed h
  split at h
  · rename_i hf
    obtain hletter | hbeyond := List.mem_append.mp h
    · simp only [List.mem_cons, List.not_mem_nil, or_false] at hletter
      obtain rfl | rfl := hletter
      · exact hfixed
      · exact forall_ascii (fun f => foldChar f = f → foldChar f.toUpper = f) (by decide) f hf hfixed
    · split at hbeyond
      · rename_i hk
        rw [List.mem_singleton.mp hbeyond, beq_iff_eq.mp hk]
        decide
      · split at hbeyond
        · rename_i hs
          rw [List.mem_singleton.mp hbeyond, beq_iff_eq.mp hs]
          decide
        · cases hbeyond
  · obtain rfl | h := List.mem_cons.mp h
    · exact hfixed
    · obtain ⟨m, hm, rfl⟩ := List.mem_map.mp h
      obtain ⟨s, hs, hpreimage⟩ := List.mem_filterMap.mp hm
      exact foldChar_of_target? hs (Shift.preimage?_eq_some_iff.mp hpreimage)

theorem mem_caseVariants_of_foldChar (h : foldChar c = foldChar d) : c ∈ caseVariants d := by
  unfold caseVariants
  dsimp only
  rw [← h]
  split
  · rename_i hf
    by_cases hc : c.toNat < 128
    · have hcase := forall_ascii (fun c => c = foldChar c ∨ c = (foldChar c).toUpper)
        (by decide) c hc
      exact List.mem_append_left _ (by simpa using hcase)
    · -- Beyond ASCII only two characters are represented by an ASCII letter.
      apply List.mem_append_right
      rcases foldChar_cases hc with he | ⟨s, hs, hn⟩
      · rw [he] at hf
        exact absurd hf hc
      · obtain ⟨hc, hletter⟩ | ⟨hc, hletter⟩ := ascii_of_target? hs hn hf
        · rw [Char.toNat_inj.mp hletter, ← Char.ofNat_toNat c, hc]
          decide
        · rw [Char.toNat_inj.mp hletter, ← Char.ofNat_toNat c, hc]
          decide
  · rename_i hf
    have hc : ¬ c.toNat < 128 := by
      intro hc
      exact hf (forall_ascii (fun c => (foldChar c).toNat < 128) (by decide) c hc)
    rcases foldChar_cases hc with he | ⟨s, hs, hn⟩
    · rw [he]
      exact List.mem_cons_self
    · refine List.mem_cons_of_mem _ (List.mem_map.mpr ⟨c.toNat, ?_, Char.ofNat_toNat c⟩)
      exact List.mem_filterMap.mpr ⟨s, hs, Shift.preimage?_eq_some_iff.mpr hn⟩

/-- The variants of a character are those with the same representative. -/
theorem mem_caseVariants_iff : c ∈ caseVariants d ↔ foldChar c = foldChar d :=
  ⟨foldChar_of_mem_caseVariants, mem_caseVariants_of_foldChar⟩

end PhotoGrouping.Text
