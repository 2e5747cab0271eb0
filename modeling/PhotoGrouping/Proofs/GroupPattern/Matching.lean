import PhotoGrouping.Proofs.GroupPattern.Reading
import PhotoGrouping.Proofs.GroupPattern.Words

namespace PhotoGrouping.GroupPattern

open Regex Filename

/-- The words of the tokens at a position. -/
def wordsAt (f : Flags) (tokens : List Token) (position : Nat) : Language Char :=
  {w | ∃ t ∈ tokens, t.position = position ∧ w ∈ (Expr.catOf (exprsOf f t)).language}

/-- The groups after the part of a position has been matched. -/
def slotsAfter (groupPosition position i j : Nat) (sl : Slots) : Slots :=
  if position = groupPosition then (sl.enter 1 i).leave 1 j else sl

variable {b : Bool} {tokens : List Token} {t : Token} {text w : List Char}
variable {g p q i j : Nat} {ps : List Nat} {sl sl' : Slots}

theorem mem_wordsAt_iff :
    w ∈ wordsAt (folding b) tokens p ↔
      ∃ t ∈ representatives tokens p, w ∈ (Expr.catOf (exprsOf (folding b) t)).language := by
  constructor
  · rintro ⟨t, ht, rfl, hw⟩
    obtain ⟨s, hs, he⟩ := exists_representative ht
    have hreads := reads_ofToken (b := b) (n := 0) s
    rw [he] at hreads
    rw [← hreads.unique (reads_ofToken t)] at hw
    exact ⟨s, hs, hw⟩
  · rintro ⟨t, ht, hw⟩
    obtain ⟨hmem, hp⟩ := mem_of_mem_representatives ht
    exact ⟨t, hmem, hp, hw⟩

/-- Where no two tokens share a position, the words of a position are those of the token there. -/
theorem wordsAt_of_nodup (hnd : (tokens.map (·.position)).Nodup) (h : t ∈ tokens) :
    wordsAt (folding b) tokens t.position = (Expr.catOf (exprsOf (folding b) t)).language := by
  ext w
  rw [mem_wordsAt_iff, representatives_of_nodup hnd h]
  simp

theorem map_wordsAt_of_numbered (h : AreNumbered tokens) :
    (ascendingPositions (tokens.map (·.position))).map (wordsAt (folding b) tokens) =
      tokens.map fun t => (Expr.catOf (exprsOf (folding b) t)).language := by
  rw [ascendingPositions_of_numbered h, ← h, List.map_map]
  exact List.map_congr_left fun t ht => wordsAt_of_nodup h.nodup ht

private theorem spans_choice (h : ∃ t ∈ tokens, t.position = p) :
    (Expr.altOf ((representatives tokens p).map
        fun t => Expr.catOf (exprsOf (folding b) t))).Spans text i sl j sl' ↔
      Takes text (wordsAt (folding b) tokens p) i sl j sl' := by
  obtain ⟨t, ht, rfl⟩ := h
  have hne : (representatives tokens t.position).map
      (fun t => Expr.catOf (exprsOf (folding b) t)) ≠ [] := by
    simpa using representatives_ne_nil ht
  rw [spans_iff_takes]
  · have hwords : (Expr.altOf ((representatives tokens t.position).map
        fun t => Expr.catOf (exprsOf (folding b) t))).language =
        wordsAt (folding b) tokens t.position := by
      ext w
      rw [mem_language_altOf hne, mem_wordsAt_iff]
      simp
    rw [hwords]
  · rw [isPlain_altOf, List.all_map, List.all_eq_true]
    intro s _
    exact isPlain_exprsOf s

theorem prefix_drop_iff : w <+: text.drop i ↔ text.drop i = w ++ text.drop (i + w.length) := by
  constructor
  · rintro ⟨rest, h⟩
    rw [← List.drop_drop, ← h, List.drop_left]
  · intro h
    exact ⟨text.drop (i + w.length), h.symm⟩

/-- The expressions of a position match the words of its tokens. -/
theorem spans_exprsAt (h : ∃ t ∈ tokens, t.position = p) :
    (Expr.catOf (exprsAt (folding b) tokens g p)).Spans text i sl j sl' ↔
      ∃ w ∈ wordsAt (folding b) tokens p, text.drop i = w ++ text.drop j ∧ j = i + w.length ∧
        sl' = slotsAfter g p i j sl := by
  have htakes : ∀ sl sl', Takes text (wordsAt (folding b) tokens p) i sl j sl' ↔
      sl' = sl ∧ ∃ w ∈ wordsAt (folding b) tokens p,
        text.drop i = w ++ text.drop j ∧ j = i + w.length := by
    intro sl sl'
    simp only [Takes, prefix_drop_iff]
    constructor
    · rintro ⟨hsl, w, hw, hdrop, rfl⟩
      exact ⟨hsl, w, hw, hdrop, rfl⟩
    · rintro ⟨hsl, w, hw, hdrop, rfl⟩
      exact ⟨hsl, w, hw, hdrop, rfl⟩
  unfold exprsAt slotsAfter
  dsimp only
  split
  · constructor
    · rintro ⟨sl1, hspan, rfl⟩
      obtain ⟨rfl, w, hw, hdrop, hj⟩ := (htakes _ _).mp ((spans_choice h).mp hspan)
      exact ⟨w, hw, hdrop, hj, rfl⟩
    · rintro ⟨w, hw, hdrop, hj, rfl⟩
      exact ⟨sl.enter 1 i, (spans_choice h).mpr ((htakes _ _).mpr ⟨rfl, w, hw, hdrop, hj⟩), rfl⟩
  · refine Iff.trans (b := Takes text (wordsAt (folding b) tokens p) i sl j sl') ?_ ?_
    · rw [← spans_choice h]
      split
      · rename_i s hs
        rw [hs]
        rfl
      · rfl
    · rw [htakes]
      constructor
      · rintro ⟨hsl, w, hw, hdrop, hj⟩
        exact ⟨w, hw, hdrop, hj, hsl⟩
      · rintro ⟨w, hw, hdrop, hj, hsl⟩
        exact ⟨hsl, w, hw, hdrop, hj⟩

theorem mem_language_delimiterExpr :
    w ∈ (delimiterExpr (folding b)).language ↔ w ≠ [] ∧ ∀ c ∈ w, isDelimiter c = true := by
  rw [delimiterExpr, mem_language_rep]
  simp only [contains_folded_delimiterClass]
  constructor
  · rintro ⟨⟨hleast, -⟩, hall⟩
    exact ⟨List.length_pos_iff.mp hleast, hall⟩
  · rintro ⟨hne, hall⟩
    exact ⟨⟨List.length_pos_iff.mpr hne, by simp⟩, hall⟩

theorem exprsOfPositions_singleton (f : Flags) (tokens : List Token) (g p : Nat) :
    exprsOfPositions f tokens g [p] = exprsAt f tokens g p := by
  simp [exprsOfPositions]

theorem exprsOfPositions_cons_cons (f : Flags) (tokens : List Token) (g p q : Nat) (ps : List Nat) :
    exprsOfPositions f tokens g (p :: q :: ps) =
      exprsAt f tokens g p ++ delimiterExpr f :: exprsOfPositions f tokens g (q :: ps) := by
  simp [exprsOfPositions, List.intercalate_cons_cons]

/-- The expressions of several positions match a word of the first one, then delimiters, then what
those of the rest match. -/
theorem spans_exprsOfPositions_cons_cons (h : ∃ t ∈ tokens, t.position = p) :
    (Expr.catOf (exprsOfPositions (folding b) tokens g (p :: q :: ps))).Spans text i sl j sl' ↔
      ∃ w ∈ wordsAt (folding b) tokens p, ∃ u, u ≠ [] ∧ (∀ c ∈ u, isDelimiter c = true) ∧
        text.drop i = w ++ (u ++ text.drop (i + w.length + u.length)) ∧
        (Expr.catOf (exprsOfPositions (folding b) tokens g (q :: ps))).Spans text
          (i + w.length + u.length) (slotsAfter g p i (i + w.length) sl) j sl' := by
  have hplain : (delimiterExpr (folding b)).isPlain = true := rfl
  rw [exprsOfPositions_cons_cons, spans_catOf_append]
  simp only [spans_catOf_cons, spans_iff_takes hplain, spans_exprsAt h]
  constructor
  · rintro ⟨_, _, ⟨w, hw, hdrop, rfl, rfl⟩, _, _, ⟨rfl, u, hu, hprefix, rfl⟩, hrest⟩
    obtain ⟨hne, hall⟩ := mem_language_delimiterExpr.mp hu
    rw [prefix_drop_iff.mp hprefix] at hdrop
    exact ⟨w, hw, u, hne, hall, hdrop, hrest⟩
  · rintro ⟨w, hw, u, hne, hall, hdrop, hrest⟩
    have hafter : text.drop (i + w.length) = u ++ text.drop (i + w.length + u.length) := by
      rw [← List.drop_drop, hdrop, List.drop_left, ← List.drop_drop]
    refine ⟨_, _, ⟨w, hw, ?_, rfl, rfl⟩, _, _, ⟨rfl, u, ?_, ?_, rfl⟩, hrest⟩
    · rw [hafter, hdrop]
    · exact mem_language_delimiterExpr.mpr ⟨hne, hall⟩
    · exact prefix_drop_iff.mpr hafter

end PhotoGrouping.GroupPattern
