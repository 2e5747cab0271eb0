import PhotoGrouping.Proofs.GroupPattern.Validity
import PhotoGrouping.Proofs.Listing.AscendingMap

namespace PhotoGrouping.GroupPattern

/-- Which patterns tokens have at which positions. -/
def placements (tokens : List Token) : List (Nat × String) :=
  tokens.map fun t => (t.position, ofToken t)

/-- The token at the position that a renumbering gives for its own. -/
def renumber (f : Nat → Nat) (t : Token) : Token :=
  t.moveTo (f t.position)

/-- Whether a renumbering keeps the order of the positions of tokens. -/
def KeepsOrder (f : Nat → Nat) (tokens : List Token) : Prop :=
  ∀ t ∈ tokens, ∀ u ∈ tokens, t.position < u.position → f t.position < f u.position

variable {tokens tokens' : List Token} {f : Nat → Nat} {g : Token} {p groupPosition : Nat}

section Placements

theorem mem_placements {pattern : String} :
    (p, pattern) ∈ placements tokens ↔ ∃ t ∈ tokens, t.position = p ∧ ofToken t = pattern := by
  simp [placements]

/-- The patterns at a position depend on the placements only. -/
theorem choicesAt_eq_of_placements (h : ∀ e, e ∈ placements tokens ↔ e ∈ placements tokens') (p : Nat) :
    choicesAt tokens p = choicesAt tokens' p := by
  refine ascending_eq_of_pairwise (ascending_pairwise _) ?_
  intro pattern
  have hchoices : pattern ∈ choicesAt tokens p ↔ pattern ∈ choicesAt tokens' p := by
    rw [mem_choicesAt, mem_choicesAt, ← mem_placements, ← mem_placements, h]
  rwa [choicesAt, mem_ascending] at hchoices

theorem ascendingPositions_eq_of_placements
    (h : ∀ e, e ∈ placements tokens ↔ e ∈ placements tokens') :
    ascendingPositions (tokens.map (·.position)) = ascendingPositions (tokens'.map (·.position)) := by
  have hfst : ∀ tokens : List Token, tokens.map (·.position) = (placements tokens).map (·.1) := by
    intro tokens
    rw [placements, List.map_map]
    rfl
  refine ascendingPositions_eq_of_pairwise (pairwise_ascendingPositions _) ?_
  intro p
  rw [mem_ascendingPositions, hfst, hfst, List.mem_map, List.mem_map]
  simp only [h]

theorem ofTokensAt_eq_of_placements (h : ∀ e, e ∈ placements tokens ↔ e ∈ placements tokens')
    (groupPosition : Nat) : ofTokensAt tokens groupPosition = ofTokensAt tokens' groupPosition := by
  have hparts : partAt tokens groupPosition = partAt tokens' groupPosition := by
    funext p
    rw [partAt, partAt, choicesAt_eq_of_placements h]
  rw [ofTokensAt, ofTokensAt, ascendingPositions_eq_of_placements h, hparts]

end Placements

section Renumbering

/-- Different positions stay different. -/
theorem KeepsOrder.eq_iff {t u : Token} (h : KeepsOrder f tokens) (ht : t ∈ tokens) (hu : u ∈ tokens) :
    f t.position = f u.position ↔ t.position = u.position := by
  refine ⟨?_, congrArg f⟩
  intro heq
  obtain hlt | hsame | hgt := Nat.lt_trichotomy t.position u.position
  · have := h t ht u hu hlt
    omega
  · exact hsame
  · have := h u hu t ht hgt
    omega

/-- A renumbered token has its pattern at the new position. -/
theorem choicesAt_renumber (h : KeepsOrder f tokens) (hg : g ∈ tokens) :
    choicesAt (tokens.map (renumber f)) (f g.position) = choicesAt tokens g.position := by
  have hfilter : (tokens.map (renumber f)).filter (·.position = f g.position) =
      (tokens.filter (·.position = g.position)).map (renumber f) := by
    rw [List.filter_map]
    congr 1
    apply List.filter_congr
    intro t ht
    exact decide_eq_decide.mpr (h.eq_iff ht hg)
  rw [choicesAt, hfilter, List.map_map]
  rfl

theorem partAt_renumber {t : Token} (h : KeepsOrder f tokens) (hg : g ∈ tokens) (ht : t ∈ tokens) :
    partAt (tokens.map (renumber f)) (f g.position) (f t.position) =
      partAt tokens g.position t.position := by
  rw [partAt, partAt, choicesAt_renumber h ht]
  simp only [h.eq_iff ht hg]

theorem ascendingPositions_renumber (h : KeepsOrder f tokens) :
    ascendingPositions ((tokens.map (renumber f)).map (·.position)) =
      (ascendingPositions (tokens.map (·.position))).map f := by
  apply ascendingPositions_eq_of_pairwise
  · rw [List.pairwise_map]
    refine (pairwise_ascendingPositions _).imp_of_mem ?_
    intro p q hp hq hpq
    obtain ⟨t, ht, rfl⟩ := List.mem_map.mp (mem_ascendingPositions.mp hp)
    obtain ⟨u, hu, rfl⟩ := List.mem_map.mp (mem_ascendingPositions.mp hq)
    exact h t ht u hu hpq
  · intro p
    simp [mem_ascendingPositions, renumber, Token.moveTo]

theorem ofTokensAt_renumber (h : KeepsOrder f tokens) (hg : g ∈ tokens) :
    ofTokensAt (tokens.map (renumber f)) (f g.position) = ofTokensAt tokens g.position := by
  have hparts : (ascendingPositions (tokens.map (·.position))).map
      (fun p => partAt (tokens.map (renumber f)) (f g.position) (f p)) =
        (ascendingPositions (tokens.map (·.position))).map (partAt tokens g.position) := by
    apply List.map_congr_left
    intro p hp
    obtain ⟨t, ht, rfl⟩ := List.mem_map.mp (mem_ascendingPositions.mp hp)
    exact partAt_renumber h hg ht
  rw [ofTokensAt, ofTokensAt, ascendingPositions_renumber h, List.map_map, ← hparts]
  rfl

end Renumbering

/-- The pattern that is generated from tokens is the same for all tokens with the same placements and a
group token at the same position, however often and in whatever order they come; and it is the same
after a renumbering that keeps the order of the positions. -/
theorem generate_of_placements (hg : g ∈ tokens) :
    ∃ pattern, generate tokens (some g) = .ok pattern ∧
      (∀ (tokens' : List Token) (g' : Token), g' ∈ tokens' → g'.position = g.position →
        (∀ e, e ∈ placements tokens' ↔ e ∈ placements tokens) →
          generate tokens' (some g') = .ok pattern) ∧
      ∀ f : Nat → Nat, KeepsOrder f tokens →
        generate (tokens.map (renumber f)) (some (renumber f g)) = .ok pattern := by
  refine ⟨ofTokensAt tokens g.position, generate_eq_ok hg, ?_, ?_⟩
  · intro tokens' g' hg' hposition hsame
    rw [generate_eq_ok hg', hposition, ofTokensAt_eq_of_placements hsame]
  · intro f hf
    have hmoved : renumber f g ∈ tokens.map (renumber f) := List.mem_map_of_mem hg
    rw [generate_eq_ok hmoved, ← ofTokensAt_renumber hf hg]
    rfl

def photoTokens : List Token :=
  [⟨"IMG", 0, .leading, 0.8⟩, ⟨"car1", 1, .groupId, 0.7⟩, ⟨"front", 2, .cameraSide, 0.85⟩]

/-- The tokens of other photos of the same kind, in no order and with repetitions. -/
def otherTokens : List Token :=
  [⟨"F", 2, .cameraSide, 0.85⟩, ⟨"truck7", 1, .groupId, 0.7⟩, ⟨"IMG", 0, .leading, 0.8⟩,
    ⟨"van2", 1, .groupId, 0.3⟩, ⟨"IMG", 0, .trailing, 0.1⟩]

theorem generate_of_placements_photos :
    (∀ e, e ∈ placements otherTokens ↔ e ∈ placements photoTokens) ∧
      KeepsOrder (fun p => 3 * p + 1) photoTokens ∧
      ∃ pattern, generate photoTokens (some ⟨"car1", 1, .groupId, 0.7⟩) = .ok pattern ∧
        generate otherTokens (some ⟨"van2", 1, .groupId, 0.3⟩) = .ok pattern ∧
        generate (photoTokens.map (renumber fun p => 3 * p + 1)) (some ⟨"car1", 4, .groupId, 0.7⟩) =
          .ok pattern := by
  have hboth : (∀ e ∈ placements otherTokens, e ∈ placements photoTokens) ∧
      ∀ e ∈ placements photoTokens, e ∈ placements otherTokens := by decide
  have hsame : ∀ e, e ∈ placements otherTokens ↔ e ∈ placements photoTokens :=
    fun e => ⟨hboth.1 e, hboth.2 e⟩
  have horder : KeepsOrder (fun p => 3 * p + 1) photoTokens := by
    intro t _ u _ h
    dsimp only
    omega
  have hg : (⟨"car1", 1, .groupId, 0.7⟩ : Token) ∈ photoTokens := by simp [photoTokens]
  have hg' : (⟨"van2", 1, .groupId, 0.3⟩ : Token) ∈ otherTokens := by simp [otherTokens]
  obtain ⟨pattern, hpattern, hpooled, hrenumbered⟩ := generate_of_placements hg
  exact ⟨hsame, horder, pattern, hpattern, hpooled _ _ hg' rfl hsame, hrenumbered _ horder⟩

end PhotoGrouping.GroupPattern
