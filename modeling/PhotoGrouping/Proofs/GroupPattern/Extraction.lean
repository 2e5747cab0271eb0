import PhotoGrouping.Proofs.Filename.GreedyCuts
import PhotoGrouping.Proofs.GroupPattern.Matching
import PhotoGrouping.Proofs.GroupPattern.Validity
import PhotoGrouping.Proofs.Regex.Preference

namespace PhotoGrouping.GroupPattern

open Regex Text Filename

variable {b : Bool} {tokens : List Token} {value : Nat → List Char} {text u v w : List Char}
variable {g p i j k : Nat} {ps : List Nat} {sl sl' : Slots}

/-- No word of a position holds fewer delimiters than the value there. -/
def LeastDelimited (b : Bool) (tokens : List Token) (value : Nat → List Char) (p : Nat) : Prop :=
  ∀ w ∈ wordsAt (folding b) tokens p, (value p).countP isDelimiter ≤ w.countP isDelimiter

theorem span?_slotsAfter (h1 : 1 < sl.starts.length) (h2 : 1 < sl.stops.length) :
    (slotsAfter g g i j sl).span? 1 = some (i, j) := by
  simp [slotsAfter, Slots.span?, Slots.enter, Slots.leave, h1, h2]

theorem slotsAfter_of_ne (h : p ≠ g) : slotsAfter g p i j sl = sl :=
  if_neg h

theorem one_lt_length_slotsAfter (h1 : 1 < sl.starts.length) (h2 : 1 < sl.stops.length) :
    1 < (slotsAfter g p i j sl).starts.length ∧ 1 < (slotsAfter g p i j sl).stops.length := by
  unfold slotsAfter
  split
  · simpa [Slots.enter, Slots.leave] using ⟨h1, h2⟩
  · exact ⟨h1, h2⟩

theorem spans_delimiterExpr :
    (delimiterExpr (folding b)).Spans text i sl j sl' ↔ sl' = sl ∧ ∃ u, u ≠ [] ∧
      (∀ c ∈ u, isDelimiter c = true) ∧ text.drop i = u ++ text.drop j ∧ j = i + u.length := by
  have hplain : (delimiterExpr (folding b)).isPlain = true := rfl
  rw [spans_iff_takes hplain]
  constructor
  · rintro ⟨rfl, u, hu, hprefix, rfl⟩
    obtain ⟨hne, hall⟩ := mem_language_delimiterExpr.mp hu
    exact ⟨rfl, u, hne, hall, prefix_drop_iff.mp hprefix, rfl⟩
  · rintro ⟨rfl, u, hne, hall, hdrop, rfl⟩
    exact ⟨rfl, u, mem_language_delimiterExpr.mpr ⟨hne, hall⟩, prefix_drop_iff.mpr hdrop, rfl⟩

/-- Positions match a text that can be cut into words of their tokens. -/
theorem exists_spans_of_fits (sl : Slots) (g : Nat) (hpos : ∀ p ∈ ps, ∃ t ∈ tokens, t.position = p)
    (h : Fits (ps.map (wordsAt (folding b) tokens)) (text.drop i)) (hi : i ≤ text.length) :
    ∃ sl', (Expr.catOf (exprsOfPositions (folding b) tokens g ps)).Spans text i sl
      text.length sl' := by
  induction ps generalizing i sl with
  | nil =>
    obtain ⟨ws, us, hwords, hjoined⟩ := h
    obtain rfl := List.forall₂_nil_right_iff.mp hwords
    exact absurd rfl hjoined.ne_nil
  | cons p ps ih =>
    obtain ⟨ws, us, hwords, hjoined⟩ := h
    obtain ⟨w, ws, hw, hws, rfl⟩ := List.forall₂_cons_right_iff.mp hwords
    have hp := hpos p (by simp)
    cases ps with
    | nil =>
      obtain rfl := List.forall₂_nil_right_iff.mp hws
      obtain ⟨-, hdrop⟩ := hjoined.of_singleton
      rw [exprsOfPositions_singleton]
      refine ⟨_, (spans_exprsAt hp).mpr ⟨w, hw, ?_, ?_, rfl⟩⟩
      · rw [hdrop, List.drop_length, List.append_nil]
      · have hlen := congrArg List.length hdrop
        rw [List.length_drop] at hlen
        omega
    | cons q ps =>
      have hne : ws ≠ [] := by
        rintro rfl
        cases hws
      obtain ⟨u, us, rest, rfl, hu, hall, hsplit, hrest⟩ := hjoined.of_cons hne
      have hlen := congrArg List.length hsplit
      rw [List.length_drop, List.length_append, List.length_append] at hlen
      have hdrop : text.drop (i + w.length + u.length) = rest := by
        rw [← List.drop_drop, ← List.drop_drop, hsplit, List.drop_left, List.drop_left]
      have hpos_u := List.length_pos_iff.mpr hu
      rw [← hdrop] at hrest
      obtain ⟨sl', hspan⟩ := ih (slotsAfter g p i (i + w.length) sl)
        (fun r hr => hpos r (List.mem_cons_of_mem p hr)) ⟨ws, us, hws, hrest⟩ (by omega)
      refine ⟨sl', (spans_exprsOfPositions_cons_cons hp).mpr ⟨w, hw, u, hu, hall, ?_, hspan⟩⟩
      rw [hdrop, hsplit]

/-- Positions match up to the end of a text that can be cut into words of their tokens. -/
theorem exists_spans_to_end (sl : Slots) (g : Nat) (hpos : ∀ p ∈ ps, ∃ t ∈ tokens, t.position = p)
    (h : Fits (ps.map (wordsAt (folding b) tokens)) (text.drop i)) (hi : i ≤ text.length) :
    ∃ sl', (Expr.catOf (exprsOfPositions (folding b) tokens g ps ++ [.look .textEnd])).Spans text i sl
      text.length sl' := by
  obtain ⟨sl', hspan⟩ := exists_spans_of_fits sl g hpos h hi
  exact ⟨sl', spans_catOf_append.mpr
    ⟨text.length, sl', hspan, (spans_textEnd (Nat.le_refl _)).mpr ⟨rfl, rfl, rfl⟩⟩⟩

/-- A longer run would be preferred if positions could match what is left behind it. -/
theorem not_fits_of_longest_run (hpos : ∀ p ∈ ps, ∃ t ∈ tokens, t.position = p)
    (hall : ∀ c ∈ u, isDelimiter c = true) (hdrop : text.drop i = u ++ text.drop (i + u.length))
    (hi : i + u.length ≤ text.length)
    (hlongest : ∀ m sl1, i + u.length < m → (delimiterExpr (folding b)).Spans text i sl m sl1 →
      ∀ n sl2, ¬ (Expr.catOf (exprsOfPositions (folding b) tokens g ps ++ [.look .textEnd])).Spans
        text m sl1 n sl2) :
    ∀ y rest, y ≠ [] → (∀ c ∈ y, isDelimiter c = true) → text.drop (i + u.length) = y ++ rest →
      ¬ Fits (ps.map (wordsAt (folding b) tokens)) rest := by
  intro y rest hy hally hsplit hfits
  have hlonger : text.drop i = (u ++ y) ++ text.drop (i + (u ++ y).length) := by
    rw [List.length_append, ← Nat.add_assoc, ← List.drop_drop, hsplit, List.drop_left, hdrop, hsplit,
      List.append_assoc]
  have hrest : text.drop (i + (u ++ y).length) = rest := by
    rw [List.length_append, ← Nat.add_assoc, ← List.drop_drop, hsplit, List.drop_left]
  have hspan : (delimiterExpr (folding b)).Spans text i sl (i + (u ++ y).length) sl := by
    refine spans_delimiterExpr.mpr ⟨rfl, u ++ y, by simp [hy], ?_, hlonger, rfl⟩
    intro c hc
    exact (List.mem_append.mp hc).elim (hall c) (hally c)
  have hle : i + (u ++ y).length ≤ text.length := by
    have hlen := congrArg List.length hsplit
    rw [List.length_drop, List.length_append] at hlen
    rw [List.length_append]
    omega
  rw [← hrest] at hfits
  obtain ⟨sl2, hmatch⟩ := exists_spans_to_end sl g hpos hfits hle
  have hpos_y := List.length_pos_iff.mpr hy
  exact hlongest _ _ (by rw [List.length_append]; omega) hspan text.length sl2 hmatch

/-- A longer word would be preferred if a run and positions could match what is left behind it. -/
theorem not_fits_of_longest_word (hp : ∃ t ∈ tokens, t.position = p)
    (hpos : ∀ p ∈ ps, ∃ t ∈ tokens, t.position = p)
    (hdrop : text.drop i = w ++ text.drop (i + w.length)) (hi : i + w.length ≤ text.length)
    (hlongest : ∀ m sl1, i + w.length < m →
      (Expr.catOf (exprsAt (folding b) tokens g p)).Spans text i sl m sl1 →
      ∀ n sl2, ¬ (Expr.catOf (delimiterExpr (folding b) ::
        (exprsOfPositions (folding b) tokens g ps ++ [.look .textEnd]))).Spans text m sl1 n sl2) :
    ∀ z y rest, z ≠ [] → w ++ z ∈ wordsAt (folding b) tokens p → y ≠ [] →
      (∀ c ∈ y, isDelimiter c = true) → text.drop (i + w.length) = z ++ (y ++ rest) →
      ¬ Fits (ps.map (wordsAt (folding b) tokens)) rest := by
  intro z y rest hz hword hy hally hsplit hfits
  have hlen := congrArg List.length hsplit
  simp only [List.length_drop, List.length_append] at hlen
  have hafter : text.drop (i + (w ++ z).length) = y ++ rest := by
    rw [List.length_append, ← Nat.add_assoc, ← List.drop_drop, hsplit, List.drop_left]
  have hrest : text.drop (i + (w ++ z).length + y.length) = rest := by
    rw [← List.drop_drop, hafter, List.drop_left]
  have hlonger : text.drop i = (w ++ z) ++ text.drop (i + (w ++ z).length) := by
    rw [hafter, hdrop, hsplit, List.append_assoc]
  have hspan : (Expr.catOf (exprsAt (folding b) tokens g p)).Spans text i sl (i + (w ++ z).length)
      (slotsAfter g p i (i + (w ++ z).length) sl) :=
    (spans_exprsAt hp).mpr ⟨w ++ z, hword, hlonger, rfl, rfl⟩
  have hrun : (delimiterExpr (folding b)).Spans text (i + (w ++ z).length)
      (slotsAfter g p i (i + (w ++ z).length) sl) (i + (w ++ z).length + y.length)
      (slotsAfter g p i (i + (w ++ z).length) sl) :=
    spans_delimiterExpr.mpr ⟨rfl, y, hy, hally, by rw [hafter, hrest], rfl⟩
  have hle : i + (w ++ z).length + y.length ≤ text.length := by
    rw [List.length_append]
    omega
  rw [← hrest] at hfits
  obtain ⟨sl2, hmatch⟩ := exists_spans_to_end (slotsAfter g p i (i + (w ++ z).length) sl) g hpos hfits hle
  have hpos_z := List.length_pos_iff.mpr hz
  exact hlongest _ _ (by rw [List.length_append]; omega) hspan text.length sl2
    (spans_catOf_cons.mpr ⟨_, _, hrun, hmatch⟩)

/-- The last position matches a word of its token up to the end of a text. -/
theorem mem_wordsAt_of_last (hp : ∃ t ∈ tokens, t.position = p) (hi : i ≤ text.length)
    (h : (Expr.catOf (exprsOfPositions (folding b) tokens g [p] ++ [.look .textEnd])).Spans text i sl
      j sl') :
    text.drop i ∈ wordsAt (folding b) tokens p ∧ sl' = slotsAfter g p i (i + (text.drop i).length) sl := by
  rw [exprsOfPositions_singleton] at h
  obtain ⟨k, sl1, hspan, hend⟩ := spans_catOf_append.mp h
  obtain ⟨rfl, rfl, rfl⟩ := (spans_textEnd (hspan.le_length hi)).mp hend
  obtain ⟨w, hw, hdrop, hj, rfl⟩ := (spans_exprsAt hp).mp hspan
  rw [List.drop_length, List.append_nil] at hdrop
  rw [hdrop, ← hj]
  exact ⟨hw, rfl⟩

/-- What positions prefer to match up to the end of a text are words of their tokens with runs of
delimiters between them, where every run, and every word of a position that prefers to take more, is as
long as can be; and the group is the word of its position. -/
theorem cutGreedily_of_prefers {flexible : Language Char → Prop} (hne : ps ≠ []) (hnd : ps.Nodup)
    (hpos : ∀ p ∈ ps, ∃ t ∈ tokens, t.position = p)
    (hflexible : ∀ p ∈ ps, flexible (wordsAt (folding b) tokens p) →
      (Expr.catOf (exprsAt (folding b) tokens g p)).LongestFirst)
    (h1 : 1 < sl.starts.length) (h2 : 1 < sl.stops.length) (hi : i ≤ text.length)
    (h : (Expr.catOf (exprsOfPositions (folding b) tokens g ps ++ [.look .textEnd])).Prefers text i sl
      j sl') :
    ∃ word us, CutGreedily flexible (ps.map (wordsAt (folding b) tokens)) (ps.map word) us
        (text.drop i) ∧
      (g ∉ ps → sl' = sl) ∧
      ∀ k, ps[k]? = some g → sl'.span? 1 = some (i + startOf (ps.map word) us k,
        i + startOf (ps.map word) us k + (word g).length) := by
  induction ps generalizing i sl with
  | nil => exact absurd rfl hne
  | cons p ps ih =>
    obtain ⟨hp, hnd⟩ := List.nodup_cons.mp hnd
    cases ps with
    | nil =>
      obtain ⟨hword, rfl⟩ := mem_wordsAt_of_last (hpos p (by simp)) hi h.spans
      refine ⟨fun _ => text.drop i, [], .last hword, ?_, ?_⟩
      · exact fun hg => slotsAfter_of_ne fun he => hg (by simp [he])
      · intro k hk
        cases k with
        | zero =>
          obtain rfl := Option.some.inj hk
          rw [startOf_zero, Nat.add_zero]
          exact span?_slotsAfter h1 h2
        | succ k => cases hk
    | cons q ps =>
      rw [exprsOfPositions_cons_cons, List.append_assoc] at h
      obtain ⟨k, sl1, hspan, hafter, hlongword⟩ := h.catOf_append
      obtain ⟨w, hw, hword, rfl, rfl⟩ := (spans_exprsAt (hpos p (by simp))).mp hspan
      obtain ⟨m, sl2, hrun, hrest, hlongrun⟩ := hafter.catOf_cons
      obtain ⟨rfl, u, hu, hall, hdrop, rfl⟩ := spans_delimiterExpr.mp hrun
      obtain ⟨hstarts, hstops⟩ := one_lt_length_slotsAfter h1 h2
      have hlater : ∀ r ∈ q :: ps, ∃ t ∈ tokens, t.position = r :=
        fun r hr => hpos r (List.mem_cons_of_mem p hr)
      have hle := hspan.le_length hi
      obtain ⟨word, us, hcut, hslots, hcaptured⟩ := ih (List.cons_ne_nil q ps) hnd hlater
        (fun r hr => hflexible r (List.mem_cons_of_mem p hr)) hstarts hstops (hrun.le_length hle) hrest
      have hother : ∀ r ∈ q :: ps, Function.update word p w r = word r := by
        intro r hr
        have hne : r ≠ p := by
          rintro rfl
          exact hp hr
        rw [Function.update_of_ne hne]
      have hfull := not_fits_of_longest_run hlater hall hdrop (hrun.le_length hle)
        (hlongrun (longestFirst_some _))
      have hlongest := fun hf => not_fits_of_longest_word (hpos p (by simp)) hlater hword hle
        (hlongword (hflexible p (by simp) hf))
      have hmap : (p :: q :: ps).map (Function.update word p w) = w :: (q :: ps).map word := by
        rw [List.map_cons, Function.update_self, List.map_congr_left hother]
      rw [hdrop] at hlongest
      refine ⟨Function.update word p w, u :: us, ?_, ?_, ?_⟩
      · rw [hmap, hword, hdrop]
        exact .cons hw hlongest hu hall hfull hcut
      · intro hg
        rw [hslots fun hmem => hg (List.mem_cons_of_mem p hmem)]
        exact slotsAfter_of_ne fun he => hg (by simp [he])
      · intro k hk
        rw [hmap]
        cases k with
        | zero =>
          obtain rfl := Option.some.inj hk
          rw [hslots hp, Function.update_self, startOf_zero, Nat.add_zero]
          exact span?_slotsAfter h1 h2
        | succ k =>
          have hg : g ∈ q :: ps := List.mem_of_getElem? hk
          rw [hcaptured k hk, hother g hg, startOf]
          simp only [Nat.add_assoc]

/-- The pattern of a whole filename matches nothing but the whole text. -/
theorem spans_regexOf (hi : i ≤ text.length) :
    (regexOf (folding b) tokens g).expr.Spans text i sl j sl' ↔
      i = 0 ∧ j = text.length ∧
        (Expr.catOf (exprsOfPositions (folding b) tokens g
          (ascendingPositions (tokens.map (·.position))))).Spans text i sl j sl' := by
  rw [regexOf, List.cons_append, spans_anchored hi]

theorem exists_token_of_mem_ascendingPositions :
    ∀ p ∈ ascendingPositions (tokens.map (·.position)), ∃ t ∈ tokens, t.position = p :=
  fun _ hp => List.mem_map.mp (mem_ascendingPositions.mp hp)

/-- The pattern matches a text that can be cut into words of its positions. -/
theorem isSome_search_of_fits (g : Nat)
    (hfits : Fits ((ascendingPositions (tokens.map (·.position))).map (wordsAt (folding b) tokens))
      text) :
    ((regexOf (folding b) tokens g).search text).isSome = true := by
  obtain ⟨sl', hspan⟩ := exists_spans_of_fits (i := 0) (Slots.none 2) g
    exists_token_of_mem_ascendingPositions hfits (Nat.zero_le _)
  exact search_complete (Nat.zero_le _)
    ((spans_regexOf (Nat.zero_le _)).mpr ⟨rfl, rfl, hspan⟩)

/-- What the pattern finds is a cut of the whole text into words of its positions, where every run, and
every word of a position that prefers to take more, is as long as can be; and its group is the word of
its position. -/
theorem cutGreedily_of_search {slots : Slots} (flexible : Language Char → Prop)
    (hcaptures : (regexOf (folding b) tokens g).captureCount = 1)
    (hflexible : ∀ p ∈ ascendingPositions (tokens.map (·.position)),
      flexible (wordsAt (folding b) tokens p) →
        (Expr.catOf (exprsAt (folding b) tokens g p)).LongestFirst)
    (hg : g ∈ tokens.map (·.position))
    (h : (regexOf (folding b) tokens g).search text = some slots) :
    ∃ word us,
      CutGreedily flexible
        ((ascendingPositions (tokens.map (·.position))).map (wordsAt (folding b) tokens))
        ((ascendingPositions (tokens.map (·.position))).map word) us text ∧
      ∀ k, (ascendingPositions (tokens.map (·.position)))[k]? = some g →
        slots.span? 1 =
          some (startOf ((ascendingPositions (tokens.map (·.position))).map word) us k,
            startOf ((ascendingPositions (tokens.map (·.position))).map word) us k +
              (word g).length) := by
  obtain ⟨i, j, sl1, hi, hprefers, rfl⟩ := search_prefers h
  rw [hcaptures, regexOf, List.cons_append] at hprefers
  obtain ⟨k, sl2, hstart, hrest, -⟩ := hprefers.catOf_cons
  obtain ⟨rfl, rfl, rfl⟩ := (spans_textStart hi).mp hstart
  obtain ⟨word, us, hcut, -, hcaptured⟩ := cutGreedily_of_prefers
    (List.ne_nil_of_mem (mem_ascendingPositions.mpr hg)) (nodup_ascendingPositions _)
    exists_token_of_mem_ascendingPositions hflexible (by decide) (by decide) hi hrest
  refine ⟨word, us, hcut, ?_⟩
  intro k hk
  have hspan := hcaptured k hk
  rw [Nat.zero_add] at hspan
  rw [← hspan]
  simp [Slots.span?, Slots.leave]

/-- A group that has the place of a word has taken the word. -/
theorem text?_of_span? {slots : Slots} {ws us : List (List Char)} (h : Joined ws us text)
    (hw : ws[k]? = some w)
    (hspan : slots.span? 1 = some (startOf ws us k, startOf ws us k + w.length)) :
    slots.text? text 1 = some (String.ofList w) := by
  have hslice : sliceOf text (startOf ws us k) (startOf ws us k + w.length) = w := by
    rw [sliceOf, Nat.add_sub_cancel_left, h.take_drop_startOf hw]
  simp only [Slots.text?, hspan, Option.map_some, hslice]

/-- The pattern matches a text that can be cut into words of its positions, and its group is a word of
such a cut with runs of delimiters that are as long as can be. -/
theorem search_regexOf_of_fits (hcaptures : (regexOf (folding b) tokens g).captureCount = 1)
    (hfits : Fits ((ascendingPositions (tokens.map (·.position))).map (wordsAt (folding b) tokens))
      text)
    (hg : g ∈ tokens.map (·.position)) :
    ∃ slots, (regexOf (folding b) tokens g).search text = some slots ∧ ∃ word us,
      CutFully ((ascendingPositions (tokens.map (·.position))).map (wordsAt (folding b) tokens))
        ((ascendingPositions (tokens.map (·.position))).map word) us text ∧
      slots.text? text 1 = some (String.ofList (word g)) := by
  obtain ⟨slots, hslots⟩ := Option.isSome_iff_exists.mp (isSome_search_of_fits g hfits)
  obtain ⟨word, us, hcut, hspan⟩ := cutGreedily_of_search (fun _ => False) hcaptures
    (fun p _ hf => hf.elim) hg hslots
  obtain ⟨k, hk⟩ := List.getElem?_of_mem (mem_ascendingPositions.mpr hg)
  have hword : ((ascendingPositions (tokens.map (·.position))).map word)[k]? = some (word g) := by
    rw [List.getElem?_map, hk, Option.map_some]
  exact ⟨slots, hslots, word, us, hcut.cutFully, text?_of_span? hcut.cutFully.joined hword (hspan k hk)⟩

/-- The pattern finds its group in values joined by single delimiters. -/
theorem search_regexOf (value : Nat → List Char) (text : List Char)
    (hcaptures : (regexOf (folding b) tokens g).captureCount = 1)
    (hvalue : ∀ p ∈ ascendingPositions (tokens.map (·.position)),
      value p ∈ wordsAt (folding b) tokens p)
    (hleast : ∀ p ∈ ascendingPositions (tokens.map (·.position)), LeastDelimited b tokens value p)
    (hjoined : isSinglyJoined ((ascendingPositions (tokens.map (·.position))).map value) text = true)
    (hg : g ∈ tokens.map (·.position)) :
    ∃ slots, (regexOf (folding b) tokens g).search text = some slots ∧
      slots.text? text 1 = some (String.ofList (value g)) := by
  have hmem := mem_ascendingPositions.mpr hg
  obtain ⟨us, hjoined, hsingle⟩ := exists_joined_of_isSinglyJoined hjoined
    (List.ne_nil_of_mem (List.mem_map_of_mem hmem))
  have hfits : Fits ((ascendingPositions (tokens.map (·.position))).map (wordsAt (folding b) tokens))
      text := by
    refine ⟨_, us, ?_, hjoined⟩
    rw [List.forall₂_map_left_iff, List.forall₂_map_right_iff, List.forall₂_same]
    exact hvalue
  obtain ⟨slots, hslots, word, us', hcut, htext⟩ := search_regexOf_of_fits hcaptures hfits hg
  have hwords := hcut.forall₂
  rw [List.forall₂_map_left_iff, List.forall₂_map_right_iff, List.forall₂_same] at hwords
  -- Every cut of the whole text is the one into the values, hence also the one that is found.
  let cells := (ascendingPositions (tokens.map (·.position))).map fun p => (value p, word p)
  have hvalues : Joined (cells.map (·.1)) us text := by simpa [cells, Function.comp_def] using hjoined
  have hcells : Joined (cells.map (·.2)) us' text := by simpa [cells, Function.comp_def] using hcut.joined
  have heq : value g = word g := by
    refine hvalues.values_eq_of_single hcells ?_ hsingle (value g, word g)
      (List.mem_map_of_mem hmem)
    intro x hx
    obtain ⟨p, hp, rfl⟩ := List.mem_map.mp hx
    exact hleast p hp _ (hwords p hp)
  exact ⟨slots, hslots, heq ▸ htext⟩

end PhotoGrouping.GroupPattern
