import Mathlib.Data.List.Nodup
import PhotoGrouping.Proofs.Filename.Tokens
import PhotoGrouping.Proofs.GroupPattern.Fragments

namespace PhotoGrouping.GroupPattern

open Regex

/-- The first token at a position that has a pattern. -/
def representative? (tokens : List Token) (position : Nat) (pattern : String) : Option Token :=
  tokens.find? fun t => t.position = position && ofToken t = pattern

/-- One token for each of the distinct patterns at a position, in ascending order of the patterns. -/
def representatives (tokens : List Token) (position : Nat) : List Token :=
  (choicesAt tokens position).filterMap (representative? tokens position)

/-- The expressions of a position: a capturing group at the group's position, and a choice where the
patterns differ. -/
def exprsAt (f : Flags) (tokens : List Token) (groupPosition position : Nat) : List Expr :=
  let choice := Expr.altOf ((representatives tokens position).map fun t => Expr.catOf (exprsOf f t))
  if position = groupPosition then [.capture 1 choice]
  else match representatives tokens position with
    | [t] => exprsOf f t
    | _ => [choice]

def delimiterExpr (f : Flags) : Expr :=
  .rep 1 none true (.oneOf (f.folded delimiterClass))

/-- The expressions of positions one after the other. -/
def exprsOfPositions (f : Flags) (tokens : List Token) (groupPosition : Nat) (positions : List Nat) :
    List Expr :=
  [delimiterExpr f].intercalate (positions.map (exprsAt f tokens groupPosition))

/-- The pattern of a whole filename with the group at a position, as it is read. -/
def regexOf (f : Flags) (tokens : List Token) (groupPosition : Nat) : Regex :=
  ⟨Expr.catOf (.look .textStart ::
    exprsOfPositions f tokens groupPosition (ascendingPositions (tokens.map (·.position))) ++
    [.look .textEnd])⟩

variable {tokens : List Token} {p groupPosition : Nat} {t : Token} {b : Bool}

theorem mem_ascendingPositions {ps : List Nat} : p ∈ ascendingPositions ps ↔ p ∈ ps := by
  rw [ascendingPositions, (List.mergeSort_perm _ _).mem_iff, mem_distinct]

theorem nodup_ascendingPositions (ps : List Nat) : (ascendingPositions ps).Nodup := by
  rw [ascendingPositions, (List.mergeSort_perm _ _).nodup_iff]
  exact nodup_distinct ps

theorem pairwise_ascendingPositions (ps : List Nat) : (ascendingPositions ps).Pairwise (· < ·) := by
  have htrans : ∀ a b c : Nat, decide (a ≤ b) = true → decide (b ≤ c) = true →
      decide (a ≤ c) = true := by simpa using fun a b c => Nat.le_trans
  have htotal : ∀ a b : Nat, (decide (a ≤ b) || decide (b ≤ a)) = true := by
    simpa using Nat.le_total
  have hsorted : (ascendingPositions ps).Pairwise (· ≤ ·) := by
    simpa [ascendingPositions] using List.pairwise_mergeSort htrans htotal (distinct ps)
  exact (hsorted.and (nodup_ascendingPositions ps)).imp fun h => Nat.lt_of_le_of_ne h.1 h.2

/-- Positions that ascend strictly are what any list of the same positions ascends to. -/
theorem ascendingPositions_eq_of_pairwise {ps qs : List Nat} (hqs : qs.Pairwise (· < ·))
    (h : ∀ p, p ∈ ps ↔ p ∈ qs) : ascendingPositions ps = qs := by
  have hperm : (ascendingPositions ps).Perm qs := by
    refine (List.perm_ext_iff_of_nodup (nodup_ascendingPositions ps) (hqs.imp Nat.ne_of_lt)).mpr ?_
    intro p
    rw [mem_ascendingPositions, h]
  exact hperm.eq_of_pairwise (fun a b _ _ hab hba => absurd hba (Nat.lt_asymm hab))
    (pairwise_ascendingPositions ps) hqs

theorem ascendingPositions_eq_range {ps : List Nat} {n : Nat} (h : ∀ p, p ∈ ps ↔ p < n) :
    ascendingPositions ps = List.range n := by
  refine ascendingPositions_eq_of_pairwise List.pairwise_lt_range ?_
  intro p
  rw [h, List.mem_range]

theorem ascendingPositions_of_numbered (h : AreNumbered tokens) :
    ascendingPositions (tokens.map (·.position)) = List.range tokens.length := by
  apply ascendingPositions_eq_range
  intro p
  rw [h, List.mem_range]

theorem mem_choicesAt {pattern : String} :
    pattern ∈ choicesAt tokens p ↔ ∃ t ∈ tokens, t.position = p ∧ ofToken t = pattern := by
  simp [choicesAt, mem_ascending, and_assoc]

private theorem representative?_spec {pattern : String}
    (h : representative? tokens p pattern = some t) :
    t ∈ tokens ∧ t.position = p ∧ ofToken t = pattern := by
  have hf := List.find?_some h
  simp only [Bool.and_eq_true, decide_eq_true_eq] at hf
  exact ⟨List.mem_of_find?_eq_some h, hf⟩

private theorem exists_representative? {pattern : String} (h : pattern ∈ choicesAt tokens p) :
    ∃ t, representative? tokens p pattern = some t := by
  obtain ⟨t, ht, hp, ho⟩ := mem_choicesAt.mp h
  rw [← Option.isSome_iff_exists, representative?, List.find?_isSome]
  exact ⟨t, ht, by simp [hp, ho]⟩

theorem map_ofToken_representatives (tokens : List Token) (p : Nat) :
    (representatives tokens p).map ofToken = choicesAt tokens p := by
  have h : ∀ patterns : List String, (∀ pattern ∈ patterns, pattern ∈ choicesAt tokens p) →
      (patterns.filterMap (representative? tokens p)).map ofToken = patterns := by
    intro patterns
    induction patterns with
    | nil => intro _; rfl
    | cons pattern rest ih =>
      intro hall
      obtain ⟨s, hs⟩ := exists_representative? (hall pattern (by simp))
      rw [List.filterMap_cons_some hs, List.map_cons, (representative?_spec hs).2.2,
        ih fun q hq => hall q (by simp [hq])]
  exact h _ fun _ hp => hp

theorem mem_of_mem_representatives (h : t ∈ representatives tokens p) :
    t ∈ tokens ∧ t.position = p := by
  obtain ⟨pattern, -, hf⟩ := List.mem_filterMap.mp h
  obtain ⟨ht, hp, -⟩ := representative?_spec hf
  exact ⟨ht, hp⟩

theorem exists_representative (h : t ∈ tokens) :
    ∃ s ∈ representatives tokens t.position, ofToken s = ofToken t := by
  have hc : ofToken t ∈ choicesAt tokens t.position := mem_choicesAt.mpr ⟨t, h, rfl, rfl⟩
  rw [← map_ofToken_representatives] at hc
  exact List.mem_map.mp hc

theorem representatives_ne_nil (h : t ∈ tokens) : representatives tokens t.position ≠ [] := by
  obtain ⟨s, hs, -⟩ := exists_representative h
  exact List.ne_nil_of_mem hs

/-- Where no two tokens share a position, each is the one that represents its position. -/
theorem representatives_of_nodup (hnd : (tokens.map (·.position)).Nodup) (h : t ∈ tokens) :
    representatives tokens t.position = [t] := by
  have hsame : ∀ s ∈ tokens, s.position = t.position → s = t :=
    fun s hs hp => List.inj_on_of_nodup_map hnd hs h hp
  have hfilter : tokens.filter (·.position = t.position) = [t] := by
    refine List.perm_singleton.mp ((List.perm_ext_iff_of_nodup (hnd.of_map.filter _)
      (List.nodup_singleton t)).mpr ?_)
    intro s
    rw [List.mem_filter, List.mem_singleton, decide_eq_true_eq]
    constructor
    · exact fun hs => hsame s hs.1 hs.2
    · rintro rfl
      exact ⟨h, rfl⟩
  have hmap := map_ofToken_representatives tokens t.position
  rw [choicesAt, hfilter] at hmap
  obtain ⟨s, hs, -⟩ := List.map_eq_singleton_iff.mp hmap
  obtain ⟨hmem, hp⟩ := mem_of_mem_representatives (t := s) (by rw [hs]; exact List.mem_singleton_self s)
  rw [hs, hsame s hmem hp]

theorem exprsAt_of_nodup (f : Flags) (hnd : (tokens.map (·.position)).Nodup) (h : t ∈ tokens) :
    exprsAt f tokens groupPosition t.position =
      if t.position = groupPosition then [.capture 1 (Expr.catOf (exprsOf f t))] else exprsOf f t := by
  rw [exprsAt, representatives_of_nodup hnd h]
  rfl

private theorem readsEach_choices {n : Nat} (tokens : List Token) (p : Nat) :
    ReadsEach b n ((choicesAt tokens p).map String.toList)
      ((representatives tokens p).map (exprsOf (folding b))) 3 := by
  unfold ReadsEach
  rw [← map_ofToken_representatives, List.map_map, List.forall₂_map_left_iff,
    List.forall₂_map_right_iff, List.forall₂_same]
  intro t _
  exact reads_ofToken t

private theorem choicesAt_ne_nil (h : t ∈ tokens) :
    (choicesAt tokens t.position).map String.toList ≠ [] := by
  rw [← map_ofToken_representatives]
  simpa using representatives_ne_nil h

/-- The pattern of the group's position stands for the first capturing group. -/
theorem reads_partAt_group (h : t ∈ tokens) :
    Reads b 0 (partAt tokens t.position t.position).toList
      (exprsAt (folding b) tokens t.position t.position) 1 6 := by
  have hr := readsItem_capture (readsEach_choices (b := b) (n := 1) tokens t.position)
    (choicesAt_ne_nil h)
  rw [List.map_map] at hr
  simp only [partAt, exprsAt, if_true, String.toList_append, toList_alternatives]
  exact hr.reads

/-- The pattern of another position captures nothing. -/
theorem reads_partAt_other {n : Nat} (h : t ∈ tokens) (hg : t.position ≠ groupPosition) :
    Reads b n (partAt tokens groupPosition t.position).toList
      (exprsAt (folding b) tokens groupPosition t.position) n 6 := by
  have hmap := map_ofToken_representatives tokens t.position
  have hr := readsItem_plainGroup (readsEach_choices (b := b) (n := n) tokens t.position)
    (choicesAt_ne_nil h)
  rw [List.map_map] at hr
  simp only [partAt, exprsAt, if_neg hg]
  cases hreps : representatives tokens t.position with
  | nil => exact absurd hreps (representatives_ne_nil h)
  | cons s rest =>
    cases rest with
    | nil =>
      rw [hreps] at hmap
      rw [← hmap]
      exact (reads_ofToken s).mono (by decide)
    | cons s' rest =>
      rw [hreps] at hmap hr
      rw [← hmap] at hr ⊢
      simp only [List.map_cons, String.toList_append, toList_alternatives] at hr ⊢
      exact hr.reads

theorem reads_delimiters {n : Nat} :
    Reads b n delimiters.toList [delimiterExpr (folding b)] n 6 := by
  have h : Reads b n delimiters.toList [delimiterExpr (folding b)] n 3 :=
    readsItem_delimiterClass.plus
  exact h.mono (by decide)

/-- The patterns of positions, of which the group's may be one, with delimiters between them. -/
theorem reads_positions {n : Nat} {positions : List Nat} (groupPosition : Nat) (hnd : positions.Nodup)
    (hpos : ∀ p ∈ positions, ∃ t ∈ tokens, t.position = p)
    (hn : groupPosition ∈ positions → n = 0) :
    Reads b n (delimiters.toList.intercalate
        (positions.map fun p => (partAt tokens groupPosition p).toList))
      (exprsOfPositions (folding b) tokens groupPosition positions)
      (n + if groupPosition ∈ positions then 1 else 0) 6 := by
  induction positions generalizing n with
  | nil => exact Reads.nil
  | cons p rest ih =>
    obtain ⟨hp, hnd⟩ := List.nodup_cons.mp hnd
    have hpart : Reads b n (partAt tokens groupPosition p).toList
        (exprsAt (folding b) tokens groupPosition p) (n + if groupPosition = p then 1 else 0) 6 := by
      obtain ⟨t, ht, rfl⟩ := hpos p (by simp)
      by_cases hg : groupPosition = t.position
      · subst hg
        obtain rfl := hn (by simp)
        simpa using reads_partAt_group ht
      · simpa [hg] using reads_partAt_other ht (Ne.symm hg)
    cases rest with
    | nil => simpa [exprsOfPositions] using hpart
    | cons q rest =>
      have hrest := ih (n := n + if groupPosition = p then 1 else 0) hnd
        (fun r hr => hpos r (List.mem_cons_of_mem p hr)) (by
          intro hg
          have hgp : groupPosition ≠ p := by
            rintro rfl
            exact hp hg
          rw [if_neg hgp, Nat.add_zero]
          exact hn (List.mem_cons_of_mem p hg))
      have hcount : (n + if groupPosition = p then 1 else 0) +
          (if groupPosition ∈ q :: rest then 1 else 0) =
          n + if groupPosition ∈ p :: q :: rest then 1 else 0 := by
        by_cases hg : groupPosition = p
        · subst hg
          simp [hp]
        · simp [hg]
      rw [hcount] at hrest
      have h := (hpart.append reads_delimiters).append hrest
      simpa only [exprsOfPositions, List.map_cons, List.intercalate_cons_cons] using h

theorem toList_ofTokensAt (tokens : List Token) (groupPosition : Nat) :
    (ofTokensAt tokens groupPosition).toList =
      '^' :: delimiters.toList.intercalate ((ascendingPositions (tokens.map (·.position))).map
        fun p => (partAt tokens groupPosition p).toList) ++ ['$'] := by
  simp only [ofTokensAt, String.toList_append, String.toList_intercalate, List.map_map]
  rfl

/-- The pattern with the group at the position of a token is read as the positions one after the
other between the ends of the text, and has one capturing group. -/
theorem read_ofTokensAt (b : Bool) (h : t ∈ tokens) :
    Regex.read (ofTokensAt tokens t.position) b =
      .ok (regexOf (folding b) tokens t.position) ∧
    (regexOf (folding b) tokens t.position).captureCount = 1 := by
  have hpos : ∀ p ∈ ascendingPositions (tokens.map (·.position)), ∃ t ∈ tokens, t.position = p := by
    intro p hp
    exact List.mem_map.mp (mem_ascendingPositions.mp hp)
  have hmem : t.position ∈ ascendingPositions (tokens.map (·.position)) :=
    mem_ascendingPositions.mpr (List.mem_map_of_mem h)
  have hbody := reads_positions (b := b) t.position (nodup_ascendingPositions _) hpos fun _ => rfl
  rw [if_pos hmem, Nat.zero_add] at hbody
  have hcaret : Reads b 0 ['^'] [.look .textStart] 0 6 := readsItem_caret.reads.mono (by decide)
  have hdollar : Reads b 1 ['$'] [.look .textEnd] 1 6 := readsItem_dollar.reads.mono (by decide)
  have hwhole := (hcaret.append hbody).append hdollar
  constructor
  · refine read_of_reads (m := 1) (d := 6) ?_ (by decide)
    rw [toList_ofTokensAt]
    exact hwhole
  · rw [Regex.captureCount, regexOf, Expr.captureCount_catOf]
    have hc := hwhole.captures
    simpa using hc.symm

end PhotoGrouping.GroupPattern
