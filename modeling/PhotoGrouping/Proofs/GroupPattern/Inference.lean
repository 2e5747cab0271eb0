import PhotoGrouping.Proofs.GroupPattern.Extraction
import PhotoGrouping.TokenAnalysis

namespace PhotoGrouping

open Regex Text Filename

/-- Sample filenames that are cut alike: into equally many values with single delimiters between
them, of which those of unknown type are words and dates with dashes stand in all samples at once. -/
structure CutAlike (files : List String) : Prop where
  length_eq : ∀ f ∈ files, ∀ f' ∈ files, (tokensOf [] f).length = (tokensOf [] f').length
  joined : ∀ f ∈ files, isSinglyJoined ((tokensOf [] f).map (·.value.toList)) f.toList = true
  words : ∀ f ∈ files, ∀ t ∈ tokensOf [] f, t.type = .unknown → t.value.toList.all isWord = true
  dashed : ∀ f ∈ files, ∀ t ∈ tokensOf [] f, isDashedDate t.value.toList = true →
    ∀ f' ∈ files, ∀ t' ∈ tokensOf [] f', t'.position = t.position →
      isDashedDate t'.value.toList = true

instance (files : List String) : Decidable (CutAlike files) :=
  decidable_of_iff
    ((∀ f ∈ files, ∀ f' ∈ files, (tokensOf [] f).length = (tokensOf [] f').length) ∧
      (∀ f ∈ files, isSinglyJoined ((tokensOf [] f).map (·.value.toList)) f.toList = true) ∧
      (∀ f ∈ files, ∀ t ∈ tokensOf [] f, t.type = .unknown → t.value.toList.all isWord = true) ∧
      ∀ f ∈ files, ∀ t ∈ tokensOf [] f, isDashedDate t.value.toList = true →
        ∀ f' ∈ files, ∀ t' ∈ tokensOf [] f', t'.position = t.position →
          isDashedDate t'.value.toList = true)
    ⟨fun ⟨hlength, hjoined, hwords, hdashed⟩ => ⟨hlength, hjoined, hwords, hdashed⟩,
      fun h => ⟨h.length_eq, h.joined, h.words, h.dashed⟩⟩

/-- Whether the first group of a regular expression takes from a filename its own value at the
position of a token. -/
def Regex.FindsValue (regex : Regex) (g : Token) (f : String) : Prop :=
  ∃ t ∈ tokensOf [] f, t.position = g.position ∧
    ∃ slots, regex.search f.toList = some slots ∧ slots.text? f.toList 1 = some t.value

variable {files : List String} {f : String} {t g : Token} {p n : Nat}

theorem mem_tokens_ofFiles :
    t ∈ (TokenAnalysis.ofFiles [] files).tokens ↔ ∃ f ∈ files, t ∈ tokensOf [] f := by
  simp only [TokenAnalysis.tokens, TokenAnalysis.ofFiles, List.mem_flatMap, List.mem_map,
    mem_ascending]
  constructor
  · rintro ⟨_, ⟨f, hf, rfl⟩, ht⟩
    exact ⟨f, hf, ht⟩
  · rintro ⟨f, hf, ht⟩
    exact ⟨_, ⟨f, hf, rfl⟩, ht⟩

namespace GroupPattern

/-- The value of a filename at a position. -/
def valueAt (f : String) (position : Nat) : List Char :=
  (((tokensOf [] f)[position]?).map (·.value.toList)).getD []

theorem valueAt_position (h : t ∈ tokensOf [] f) : valueAt f t.position = t.value.toList := by
  rw [valueAt, getElem?_position h]
  rfl

theorem map_valueAt_range (f : String) :
    (List.range (tokensOf [] f).length).map (valueAt f) =
      (tokensOf [] f).map (·.value.toList) := by
  rw [← positions_tokensOf, List.map_map]
  apply List.map_congr_left
  intro t ht
  exact valueAt_position ht

/-- The positions of all samples together are those of each. -/
theorem ascendingPositions_ofFiles (h : CutAlike files) (hf : f ∈ files) :
    ascendingPositions ((TokenAnalysis.ofFiles [] files).tokens.map (·.position)) =
      List.range (tokensOf [] f).length := by
  apply ascendingPositions_eq_range
  intro p
  constructor
  · intro hp
    obtain ⟨t, ht, rfl⟩ := List.mem_map.mp hp
    obtain ⟨f', hf', ht⟩ := mem_tokens_ofFiles.mp ht
    rw [h.length_eq f hf f' hf']
    exact position_lt ht
  · intro hp
    have ht := List.getElem_mem hp
    exact List.mem_map.mpr ⟨_, mem_tokens_ofFiles.mpr ⟨f, hf, ht⟩, position_getElem⟩

/-- No token of the samples at the position of another one takes fewer delimiters than that holds. -/
theorem leastDelimited_valueAt (h : CutAlike files) (hf : f ∈ files) (ht : t ∈ tokensOf [] f) :
    LeastDelimited true (TokenAnalysis.ofFiles [] files).tokens (valueAt f) t.position := by
  rintro w ⟨s, hs, hposition, hw⟩
  rw [valueAt_position ht]
  rcases (found_of_mem_tokensOf ht).solid_or_dashed with hsolid | hdashed
  · rw [countP_isDelimiter_of_isSolid hsolid]
    exact Nat.zero_le _
  · obtain ⟨f', hf', hs⟩ := mem_tokens_ofFiles.mp hs
    have hsdashed := h.dashed f hf t ht hdashed f' hf' s hs hposition
    have htype := (found_of_mem_tokensOf hs).date_of_dashed hsdashed
    have hw : w ∈ (Expr.catOf (dateExprs (folding true) s.value)).language := by
      simpa only [exprsOf, htype] using hw
    rw [countP_isDelimiter_of_isDashedDate hdashed,
      countP_isDelimiter_of_isDashedDate (isDashedDate_of_mem_language hsdashed hw)]

/-- The pattern that is generated for samples that are cut alike finds in each of them its own value
at the position of the group token, unless it is too large to be searched for. -/
theorem generate_finds_groups (h : CutAlike files)
    (hg : g ∈ (TokenAnalysis.ofFiles [] files).tokens) :
    ∃ pattern regex, generate (TokenAnalysis.ofFiles [] files).tokens (some g) = .ok pattern ∧
      Regex.read pattern true = .ok regex ∧
      Regex.parse pattern true = (if regex.fits then .ok regex else .error .tooLarge) ∧
      ∀ f ∈ files, regex.FindsValue g f := by
  obtain ⟨hread, hcaptures⟩ := read_ofTokensAt true hg
  refine ⟨_, _, generate_eq_ok hg, hread, by rw [Regex.parse, hread], ?_⟩
  intro f hf
  obtain ⟨f', hf', hg'⟩ := mem_tokens_ofFiles.mp hg
  have hlt : g.position < (tokensOf [] f).length := by
    rw [h.length_eq f hf f' hf']
    exact position_lt hg'
  obtain ⟨t, ht, hposition⟩ : ∃ t ∈ tokensOf [] f, t.position = g.position :=
    ⟨_, List.getElem_mem hlt, position_getElem⟩
  refine ⟨t, ht, hposition, ?_⟩
  have hpositions := ascendingPositions_ofFiles h hf
  have hown : ∀ p ∈ ascendingPositions ((TokenAnalysis.ofFiles [] files).tokens.map (·.position)),
      ∃ t ∈ tokensOf [] f, t.position = p := by
    intro p hp
    rw [hpositions, List.mem_range] at hp
    exact ⟨_, List.getElem_mem hp, position_getElem⟩
  have hsearch := search_regexOf (b := true) (valueAt f) f.toList hcaptures ?_ ?_ ?_
    (List.mem_map_of_mem hg)
  · rw [← hposition, valueAt_position ht, String.ofList_toList, hposition] at hsearch
    exact hsearch
  · intro p hp
    obtain ⟨s, hs, rfl⟩ := hown p hp
    rw [valueAt_position hs]
    exact ⟨s, mem_tokens_ofFiles.mpr ⟨f, hf, hs⟩, rfl,
      value_mem_language (found_of_mem_tokensOf hs) fun hu => List.all_eq_true.mp (h.words f hf s hs hu)⟩
  · intro p hp
    obtain ⟨s, hs, rfl⟩ := hown p hp
    exact leastDelimited_valueAt h hf hs
  · rw [hpositions, map_valueAt_range]
    exact h.joined f hf

def vehicleSamples : List String :=
  ["IMG_front_A12_2024-01-02_gate.jpg", "DSC_REAR_B7_2023-12-31_7.png"]

theorem cutAlike_vehicleSamples : CutAlike vehicleSamples := by decide +kernel

theorem generate_finds_groups_vehicles :
    CutAlike vehicleSamples ∧ ∃ g ∈ (TokenAnalysis.ofFiles [] vehicleSamples).tokens,
      g.value = "B7" ∧
      ∃ pattern regex,
        generate (TokenAnalysis.ofFiles [] vehicleSamples).tokens (some g) = .ok pattern ∧
        Regex.read pattern true = .ok regex ∧
        Regex.parse pattern true = (if regex.fits then .ok regex else .error .tooLarge) ∧
        ∀ f ∈ vehicleSamples, regex.FindsValue g f := by
  refine ⟨cutAlike_vehicleSamples, ?_⟩
  have hany : (TokenAnalysis.ofFiles [] vehicleSamples).tokens.any (·.value = "B7") = true := by
    decide +kernel
  obtain ⟨g, hg, hvalue⟩ := List.any_eq_true.mp hany
  exact ⟨g, hg, of_decide_eq_true hvalue, generate_finds_groups cutAlike_vehicleSamples hg⟩

def letters (n : Nat) : String :=
  String.ofList (List.replicate n 'a')

theorem lowercase_letters (n : Nat) : lowercase (letters n) = letters n := by
  have h : ∀ before, lowerFrom before (List.replicate n 'a') = List.replicate n 'a' := by
    induction n with
    | zero => exact fun _ => rfl
    | succ n ih =>
      intro before
      rw [List.replicate_succ, lowerFrom, ih]
      rfl
  rw [lowercase, letters, String.toList_ofList, h]

theorem ofSynonym?_letters (n : Nat) : Role.ofSynonym? (letters n) = none := by
  have hother : ∀ role : Role, role.synonyms.all (·.toList.any (· != 'a')) = true := by
    intro role
    cases role
    all_goals decide
  have hnone : ∀ role ∈ Role.all, ¬ role.synonyms.contains (lowercase (letters n)) = true := by
    intro role _ hcontains
    have hmem := List.contains_iff_mem.mp hcontains
    rw [lowercase_letters] at hmem
    obtain ⟨d, hd, hne⟩ := List.any_eq_true.mp (List.all_eq_true.mp (hother role) _ hmem)
    rw [letters, String.toList_ofList] at hd
    rw [List.eq_of_mem_replicate hd] at hne
    cases hne
  exact List.find?_eq_none.mpr hnone

theorem segments_letters (n : Nat) :
    segments (List.replicate (n + 1) 'a') = [List.replicate (n + 1) 'a'] := by
  have hdate : ∀ rest, leadingDate? ('a' :: rest) = none := fun _ => rfl
  have hrun : isDelimiter 'a' = false := rfl
  rw [List.replicate_succ, segments, hdate]
  simp [hrun, segments]

theorem classifyPlain_letters (n : Nat) :
    classifyPlain false (List.replicate (n + 1) 'a') = (.leading, confidences.leading) := by
  have hdate : isDate (List.replicate (n + 1) 'a') = false := rfl
  have hsynonym : (Role.ofSynonym? (String.ofList (List.replicate (n + 1) 'a'))).isSome = false := by
    rw [← letters, ofSynonym?_letters]
    rfl
  have hindex : isIndex (List.replicate (n + 1) 'a') = false := rfl
  have hmixed : isMixed (List.replicate (n + 1) 'a') = false := by
    have hdigit : Char.isDigit 'a' = false := rfl
    have hothers : (List.replicate (n + 1) 'a').filter (!·.isAlphanum) = [] := by
      rw [List.filter_replicate]
      rfl
    simp [isMixed, hothers, List.any_replicate, hdigit]
  have hrun : isAlphabeticRun (List.replicate (n + 1) 'a') = true := by
    have hletter : Char.isAlpha 'a' = true := rfl
    simp [isAlphabeticRun, List.all_replicate, hletter]
  simp [classifyPlain, hdate, hsynonym, hindex, hmixed, hrun]

theorem tokensOf_letters (n : Nat) :
    tokensOf [] (letters (n + 1)) =
      [Token.make (letters (n + 1)) 0 .leading confidences.leading] := by
  have hsplit : splitExtension (letters (n + 1)).toList = (List.replicate (n + 1) 'a', none) := by
    have hdot : (List.replicate (n + 1) 'a').contains '.' = false := by
      rw [List.contains_replicate]
      simp
    rw [letters, String.toList_ofList, splitExtension, splitLastDot?, hdot]
    rfl
  rw [tokensOf_of_no_extension hsplit, segments_letters]
  simp [tokensFrom, classify, CustomToken.typeOf?, TokenRegistry.ofTokens, TokenRegistry.lookup,
    classifyPlain_letters]
  rfl

/-- The pattern of one token spells out the token and its group. -/
theorem weight_regexOf_singleton (f : Flags) (t : Token) :
    (regexOf f [t] t.position).expr.weight = (Expr.catOf (exprsOf f t)).weight + 2 := by
  have hpositions : ascendingPositions ([t].map (·.position)) = [t.position] := by
    simp [ascendingPositions, distinct]
  rw [regexOf, hpositions, exprsOfPositions_singleton, Expr.weight_catOf]
  simp [exprsAt_of_nodup, Expr.weight]

theorem cutAlike_letters (n : Nat) : CutAlike [letters (n + 1)] := by
  have hvalue : (Token.make (letters (n + 1)) 0 .leading confidences.leading).value.toList =
      (letters (n + 1)).toList := rfl
  constructor
  · simp
  · simp [tokensOf_letters, hvalue, isSinglyJoined_singleton]
  · simp [tokensOf_letters, Token.make]
  · simp [tokensOf_letters]

/-- The pattern for a filename of many letters is too large to be searched for. -/
theorem parse_generate_letters {n : Nat} (h : maxWeight < n + 3) :
    ∃ g ∈ (TokenAnalysis.ofFiles [] [letters (n + 1)]).tokens, ∀ pattern,
      generate (TokenAnalysis.ofFiles [] [letters (n + 1)]).tokens (some g) = .ok pattern →
        Regex.parse pattern true = .error .tooLarge := by
  let t := Token.make (letters (n + 1)) 0 .leading confidences.leading
  have hpool : (TokenAnalysis.ofFiles [] [letters (n + 1)]).tokens = [t] := by
    simp [TokenAnalysis.tokens, TokenAnalysis.ofFiles, ascending, insertText, tokensOf_letters, t]
  have ht : t ∈ [t] := List.mem_singleton_self t
  rw [hpool]
  refine ⟨t, ht, ?_⟩
  intro pattern hpattern
  rw [generate_eq_ok ht] at hpattern
  obtain rfl := Except.ok.inj hpattern
  obtain ⟨hread, -⟩ := read_ofTokensAt true ht
  have hweight : (regexOf (folding true) [t] t.position).expr.weight = n + 3 := by
    have hliterals : (Expr.catOf (exprsOf (folding true) t)).weight = n + 1 := by
      have he : exprsOf (folding true) t =
          (List.replicate (n + 1) 'a').map (folding true).literal := by
        rw [← String.toList_ofList (l := List.replicate (n + 1) 'a')]
        rfl
      rw [he, Expr.weight_catOf, List.map_map, List.map_replicate, List.sum_replicate_nat]
      simp [Flags.literal, Expr.weight]
    rw [weight_regexOf_singleton, hliterals]
  have hfits : (regexOf (folding true) [t] t.position).fits = false := by
    rw [Regex.fits, hweight, decide_eq_false_iff_not]
    omega
  rw [Regex.parse, hread]
  simp [hfits]

/-- Samples that are cut alike can have a pattern that is too large to be searched for. -/
theorem not_parse_generate_letters :
    ¬ ∀ files, CutAlike files → ∀ g ∈ (TokenAnalysis.ofFiles [] files).tokens,
      ∃ pattern regex, generate (TokenAnalysis.ofFiles [] files).tokens (some g) = .ok pattern ∧
        Regex.parse pattern true = .ok regex ∧ ∀ f ∈ files, regex.FindsValue g f := by
  intro hall
  obtain ⟨g, hg, hlarge⟩ := parse_generate_letters (n := 329999) (by decide)
  obtain ⟨pattern, regex, hpattern, hparse, -⟩ := hall _ (cutAlike_letters 329999) g hg
  rw [hlarge pattern hpattern] at hparse
  cases hparse

end GroupPattern

end PhotoGrouping
