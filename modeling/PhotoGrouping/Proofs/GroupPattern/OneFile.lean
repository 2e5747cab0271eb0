import PhotoGrouping.Proofs.GroupPattern.Divisions
import PhotoGrouping.Proofs.GroupPattern.Inference

namespace PhotoGrouping

open Regex Text Filename

/-- A filename that consists of its values and runs of delimiters between them, where the values of
unknown type are words. -/
structure CutWhole (f : String) (us : List (List Char)) : Prop where
  joined : Joined ((tokensOf [] f).map (·.value.toList)) us f.toList
  words : ∀ t ∈ tokensOf [] f, t.type = .unknown → t.value.toList.all isWord = true

/-- Whether all tokens of a filename up to a position are rigid. -/
def IsRigidUpTo (f : String) (position : Nat) : Prop :=
  ∀ t ∈ tokensOf [] f, t.position ≤ position → t.type.isRigid = true

/-- Whether all tokens of a filename from a position on are rigid. -/
def IsRigidFrom (f : String) (position : Nat) : Prop :=
  ∀ t ∈ tokensOf [] f, position ≤ t.position → t.type.isRigid = true

/-- Whether a run in which a token between the first and the last one has room stands only between
rigid tokens and an end of a filename. -/
def IsEvenlyCut (f : String) (us : List (List Char)) : Prop :=
  ∀ k u, us[k]? = some u → (∀ t ∈ (tokensOf [] f).tail.dropLast, t.type.hasRoomIn u = false) ∨
    IsRigidUpTo f k ∨ IsRigidFrom f k

variable {f : String} {t g : Token} {b : Bool} {us us' : List (List Char)} {word : Nat → List Char}
variable {k : Nat}

namespace GroupPattern

theorem ascendingPositions_tokensOf (f : String) :
    ascendingPositions ((tokensOf [] f).map (·.position)) = List.range (tokensOf [] f).length :=
  ascendingPositions_of_numbered (areNumbered_tokensOf f)

/-- The places of the tokens of a filename, with the word that a cut has at each position. -/
def placesOf (f : String) (word : Nat → List Char) : List Place :=
  (tokensOf [] f).map fun t => placeOf true t (word t.position)

theorem map_value_placesOf (f : String) (word : Nat → List Char) :
    (placesOf f word).map (·.value) = (tokensOf [] f).map (·.value.toList) := by
  simp [placesOf, placeOf]

theorem map_word_placesOf (f : String) (word : Nat → List Char) :
    (placesOf f word).map (·.word) =
      (ascendingPositions ((tokensOf [] f).map (·.position))).map word := by
  rw [ascendingPositions_tokensOf, ← positions_tokensOf]
  simp [placesOf, placeOf]

theorem map_language_placesOf (f : String) (word : Nat → List Char) :
    (placesOf f word).map (·.language) =
      (ascendingPositions ((tokensOf [] f).map (·.position))).map
        (wordsAt (folding true) (tokensOf [] f)) := by
  rw [map_wordsAt_of_numbered (areNumbered_tokensOf f)]
  simp [placesOf, placeOf]

theorem isMeant_placesOf (h : CutWhole f us) : ∀ x ∈ placesOf f word, x.IsMeant := by
  intro x hx
  obtain ⟨t, ht, rfl⟩ := List.mem_map.mp hx
  exact isMeant_placeOf (found_of_mem_tokensOf ht) (value_ne_nil_of_mem_tokensOf ht)
    fun hunknown => List.all_eq_true.mp (h.words t ht hunknown)

theorem isRigid_of_isRigidUpTo (h : IsRigidUpTo f k) :
    ∀ x ∈ (placesOf f word).take (k + 1), x.IsRigid := by
  intro x hx
  rw [placesOf, ← List.map_take] at hx
  obtain ⟨t, ht, rfl⟩ := List.mem_map.mp hx
  have hmem := List.mem_of_mem_take ht
  obtain ⟨p, hp, rfl⟩ := List.mem_take_iff_getElem.mp ht
  exact isRigid_placeOf (found_of_mem_tokensOf hmem) (h _ hmem (by rw [position_getElem]; omega))

theorem isRigid_of_isRigidFrom (h : IsRigidFrom f k) : ∀ x ∈ (placesOf f word).drop k, x.IsRigid := by
  intro x hx
  rw [placesOf, ← List.map_drop] at hx
  obtain ⟨t, ht, rfl⟩ := List.mem_map.mp hx
  have hmem := List.mem_of_mem_drop ht
  obtain ⟨p, hp, rfl⟩ := List.mem_drop_iff_getElem.mp ht
  exact isRigid_placeOf (found_of_mem_tokensOf hmem) (h _ hmem (by rw [position_getElem]; omega))

theorem leavesNoRoom_placesOf (h : IsEvenlyCut f us)
    (hruns : ∀ u ∈ us, ∀ c ∈ u, isDelimiter c = true) :
    LeavesNoRoom (placesOf f word) us := by
  intro k u hk
  obtain hno | hrigid | hrigid := h k u hk
  · left
    intro x hx hroom
    rw [placesOf, ← List.map_tail, ← List.map_dropLast] at hx
    obtain ⟨t, ht, rfl⟩ := List.mem_map.mp hx
    have hfound := found_of_mem_tokensOf (List.mem_of_mem_tail (List.mem_of_mem_dropLast ht))
    have hsays := hasRoomIn_of_hasRoom hfound (hruns u (List.mem_of_getElem? hk)) hroom
    rw [hno t ht] at hsays
    cases hsays
  · exact Or.inr (Or.inl (isRigid_of_isRigidUpTo hrigid))
  · exact Or.inr (Or.inr (isRigid_of_isRigidFrom hrigid))

/-- Where one filename is cut into words of its tokens with runs that are as long as can be, the word of
a token is its value if only rigid tokens precede or follow it, or runs leave no room for other words. -/
theorem word_eq_value (h : CutWhole f us) (hg : g ∈ tokensOf [] f)
    (hcut : CutFully ((placesOf f word).map (·.language)) ((placesOf f word).map (·.word)) us' f.toList)
    (hpinned : IsRigidUpTo f g.position ∨ IsRigidFrom f g.position ∨
      (IsEvenlyCut f us ∧ ∀ u, us[g.position]? = some u → g.type.stopsAt u = true)) :
    word g.position = g.value.toList := by
  have hjoined : Joined ((placesOf f word).map (·.value)) us f.toList := by
    rw [map_value_placesOf]
    exact h.joined
  have hplace : (placesOf f word)[g.position]? = some (placeOf true g (word g.position)) := by
    rw [placesOf, List.getElem?_map, getElem?_position hg, Option.map_some]
  have hwords := forall₂_mem_iff.mp hcut.forall₂
  obtain hrigid | hrigid | ⟨heven, hstops⟩ := hpinned
  · exact hjoined.word_eq_of_take hcut.joined hwords (isRigid_of_isRigidUpTo hrigid) hplace
  · exact hjoined.word_eq_of_drop hcut.joined hwords (isRigid_of_isRigidFrom hrigid) hplace
  · have htakes := hcut.takesOf hjoined (isMeant_placesOf h)
      (leavesNoRoom_placesOf heven hjoined.delimiters) hplace
    have hword := hwords _ (List.mem_of_getElem? hplace)
    cases hrun : us[g.position]? with
    | none =>
      rw [hrun] at htakes
      exact htakes.eq_of_nil
    | some u =>
      rw [hrun] at htakes
      exact word_eq_of_takesOf (found_of_mem_tokensOf hg) hword
        (hjoined.delimiters u (List.mem_of_getElem? hrun)) htakes (hstops u hrun)

/-- The pattern that is generated from the tokens of one filename matches it, unless it is too large
to be searched for, and takes the value of the group token where the delimiters leave no choice. -/
theorem generate_fits_itself (h : CutWhole f us) (hg : g ∈ tokensOf [] f) :
    ∃ pattern regex slots, generate (tokensOf [] f) (some g) = .ok pattern ∧
      Regex.read pattern true = .ok regex ∧
      Regex.parse pattern true = (if regex.fits then .ok regex else .error .tooLarge) ∧
      regex.search f.toList = some slots ∧
      (IsRigidUpTo f g.position ∨ IsRigidFrom f g.position ∨
          (IsEvenlyCut f us ∧ ∀ u, us[g.position]? = some u → g.type.stopsAt u = true) →
        slots.text? f.toList 1 = some g.value) := by
  obtain ⟨hread, hcaptures⟩ := read_ofTokensAt true hg
  have hfits : Fits ((ascendingPositions ((tokensOf [] f).map (·.position))).map
      (wordsAt (folding true) (tokensOf [] f))) f.toList := by
    rw [← map_language_placesOf f (valueAt f)]
    exact fits_of_joined (map_value_placesOf f (valueAt f) ▸ h.joined) (isMeant_placesOf h)
  obtain ⟨slots, hslots, word, us', hcut, htext⟩ :=
    search_regexOf_of_fits hcaptures hfits (List.mem_map_of_mem hg)
  rw [← map_language_placesOf f word, ← map_word_placesOf] at hcut
  refine ⟨_, _, slots, generate_eq_ok hg, hread, by rw [Regex.parse, hread], hslots, ?_⟩
  intro hpinned
  rw [htext, word_eq_value h hg hcut hpinned, String.ofList_toList]

/-- A photo with doubled delimiters around a part and behind its group. -/
def doubledName : String := "A12..front__B7.jpg"

/-- The runs of delimiters of that filename. -/
def doubledRuns : List (List Char) := [['.', '.'], ['_', '_'], ['.']]

theorem cutWhole_doubledName : CutWhole doubledName doubledRuns where
  joined := by
    have hvalues : (tokensOf [] doubledName).map (·.value.toList) =
        ["A12", "front", "B7", "jpg"].map String.toList := by decide +kernel
    have hdots : ∀ c ∈ ['.', '.'], isDelimiter c = true := List.all_eq_true.mp (by decide)
    have hlines : ∀ c ∈ ['_', '_'], isDelimiter c = true := List.all_eq_true.mp (by decide)
    have hdot : ∀ c ∈ ['.'], isDelimiter c = true := List.all_eq_true.mp (by decide)
    rw [hvalues]
    exact .cons (by decide) hdots (.cons (by decide) hlines (.cons (by decide) hdot (.last _)))
  words := by decide +kernel

theorem isEvenlyCut_doubledName : IsEvenlyCut doubledName doubledRuns := by
  have hroom : doubledRuns.all (fun u =>
      (tokensOf [] doubledName).tail.dropLast.all (!·.type.hasRoomIn u)) = true := by decide +kernel
  intro k u hk
  left
  intro t ht
  simpa using List.all_eq_true.mp (List.all_eq_true.mp hroom u (List.mem_of_getElem? hk)) t ht

theorem generate_fits_itself_doubled :
    CutWhole doubledName doubledRuns ∧ ∃ g ∈ tokensOf [] doubledName, g.value = "A12" ∧
      ∃ pattern regex slots, generate (tokensOf [] doubledName) (some g) = .ok pattern ∧
        Regex.read pattern true = .ok regex ∧
        Regex.parse pattern true = (if regex.fits then .ok regex else .error .tooLarge) ∧
        regex.search doubledName.toList = some slots ∧
        slots.text? doubledName.toList 1 = some g.value := by
  refine ⟨cutWhole_doubledName, ?_⟩
  have hany : (tokensOf [] doubledName).any (fun g => g.value = "A12" && g.position = 0 &&
      g.type.stopsAt ['.', '.']) = true := by decide +kernel
  obtain ⟨g, hg, hall⟩ := List.any_eq_true.mp hany
  obtain ⟨⟨hvalue, hposition⟩, hstops⟩ : (g.value = "A12" ∧ g.position = 0) ∧
      g.type.stopsAt ['.', '.'] = true := by simpa using hall
  obtain ⟨pattern, regex, slots, hgenerate, hread, hparse, hsearch, htext⟩ :=
    generate_fits_itself cutWhole_doubledName hg
  refine ⟨g, hg, hvalue, pattern, regex, slots, hgenerate, hread, hparse, hsearch,
    htext (Or.inr (Or.inr ⟨isEvenlyCut_doubledName, ?_⟩))⟩
  intro u hu
  rw [hposition] at hu
  obtain rfl := Option.some.inj hu
  exact hstops

/-- Whether the pattern that is generated from the tokens of one filename takes the value of one of
them from it. -/
def FitsItself (f : String) (g : Token) : Prop :=
  ∃ pattern regex slots, generate (tokensOf [] f) (some g) = .ok pattern ∧
    Regex.parse pattern true = .ok regex ∧ regex.search f.toList = some slots ∧
    slots.text? f.toList 1 = some g.value

/-- What the pattern from the tokens of one filename takes from it with the group at a position. -/
def taken? (f : String) (position : Nat) : Option String :=
  takenFrom? (tokensOf [] f) position f.toList

theorem taken?_of_fitsItself (hg : g ∈ tokensOf [] f) (h : FitsItself f g) :
    taken? f g.position = some g.value :=
  (takenFrom?_eq_some_iff (areNumbered_tokensOf f) hg).mpr h

/-- Filenames with delimiters at an end, text behind a date with dashes, a symbol, a run of delimiters
that a group may take some of, and runs with room for a word of another token. -/
def strayNames : List String :=
  ["_car", "car_", "2024-01-02abc", "a_b+c", "A1__front", "a_A1_b..front", "A1_B2___front"]

/-- A pattern need not fit the filename it is generated from. -/
theorem not_fitsItself_strays :
    (∀ f ∈ strayNames, ∃ g ∈ tokensOf [] f, ¬ FitsItself f g) ∧
      ∃ g ∈ tokensOf [] (letters 330000), ¬ FitsItself (letters 330000) g := by
  constructor
  · intro f hf
    have hall : strayNames.all (fun f =>
        (tokensOf [] f).any fun g => taken? f g.position ≠ some g.value) = true := by decide +kernel
    obtain ⟨g, hg, htaken⟩ := List.any_eq_true.mp (List.all_eq_true.mp hall f hf)
    exact ⟨g, hg, fun hfits => of_decide_eq_true htaken (taken?_of_fitsItself hg hfits)⟩
  · have htokens : (TokenAnalysis.ofFiles [] [letters 330000]).tokens =
        tokensOf [] (letters 330000) := by
      simp [TokenAnalysis.tokens, TokenAnalysis.ofFiles, ascending, insertText]
    obtain ⟨g, hg, hlarge⟩ := parse_generate_letters (n := 329999) (by decide)
    rw [htokens] at hg hlarge
    refine ⟨g, hg, ?_⟩
    intro hfits
    obtain ⟨pattern, regex, slots, hgenerate, hparse, -, -⟩ := hfits
    rw [hlarge pattern hgenerate] at hparse
    cases hparse

end GroupPattern

end PhotoGrouping
