import PhotoGrouping.Proofs.GroupPattern.Extraction
import PhotoGrouping.Proofs.GroupPattern.Places

namespace PhotoGrouping.GroupPattern

open Regex Text Filename

/-- A division of a text among tokens: a word of each of them, with runs of delimiters in between. -/
structure Divides (tokens : List Token) (text : List Char) (ws us : List (List Char)) : Prop where
  words : List.Forall₂ (fun w t => w ∈ (Expr.catOf (exprsOf (folding true) t)).language) ws tokens
  joined : Joined ws us text

/-- A division that has the word at an index as far right as any: in no other one does it begin or end
further right. -/
structure IsRightmost (tokens : List Token) (text : List Char) (k : Nat) (ws us : List (List Char))
    (w : List Char) : Prop where
  divides : Divides tokens text ws us
  getElem?_eq : ws[k]? = some w
  le : ∀ ws' us' w', Divides tokens text ws' us' → ws'[k]? = some w' →
    startOf ws' us' k ≤ startOf ws us k ∧
      startOf ws' us' k + w'.length ≤ startOf ws us k + w.length

variable {tokens : List Token} {text w w' : List Char} {ws ws' us us' : List (List Char)} {g t : Token}
variable {k : Nat}

theorem Divides.mem_language (h : Divides tokens text ws us) (ht : tokens[k]? = some t)
    (hw : ws[k]? = some w) : w ∈ (Expr.catOf (exprsOf (folding true) t)).language := by
  obtain ⟨hk, rfl⟩ := List.getElem?_eq_some_iff.mp hw
  obtain ⟨hk', rfl⟩ := List.getElem?_eq_some_iff.mp ht
  exact h.words.get hk hk'

theorem Divides.fits (h : Divides tokens text ws us) :
    Fits (tokens.map fun t => (Expr.catOf (exprsOf (folding true) t)).language) text :=
  ⟨ws, us, List.forall₂_map_right_iff.mpr h.words, h.joined⟩

/-- Divisions that have the word at an index as far right as any have the same one there. -/
theorem IsRightmost.word_eq (h : IsRightmost tokens text k ws us w)
    (h' : IsRightmost tokens text k ws' us' w') : w = w' := by
  obtain ⟨hstart, hstop⟩ := h.le ws' us' w' h'.divides h'.getElem?_eq
  obtain ⟨hstart', hstop'⟩ := h'.le ws us w h.divides h.getElem?_eq
  obtain ⟨rest, hrest⟩ := h.divides.joined.drop_startOf h.getElem?_eq
  obtain ⟨rest', hrest'⟩ := h'.divides.joined.drop_startOf h'.getElem?_eq
  have hsame : startOf ws us k = startOf ws' us' k := by omega
  rw [hsame, hrest'] at hrest
  exact (List.append_inj hrest (by omega)).1.symm

/-- The pattern of tokens finds the division of a text that has the word of the group as far right as
any. -/
theorem exists_isRightmost_of_search {slots : Slots} (hnumbered : AreNumbered tokens)
    (hfound : ∀ t ∈ tokens, t.Found) (hg : g ∈ tokens)
    (hsearch : (regexOf (folding true) tokens g.position).search text = some slots) :
    ∃ ws us w, IsRightmost tokens text g.position ws us w ∧
      slots.span? 1 = some (startOf ws us g.position, startOf ws us g.position + w.length) ∧
      slots.text? text 1 = some (String.ofList w) := by
  have hpositions := ascendingPositions_of_numbered hnumbered
  -- Words of a rigid token are told apart by their delimiters, the others are taken as long as can be.
  have hflexible : ∀ p ∈ ascendingPositions (tokens.map (·.position)),
      ¬ IsEven (wordsAt (folding true) tokens p) →
        (Expr.catOf (exprsAt (folding true) tokens g.position p)).LongestFirst := by
    intro p hp hodd
    obtain ⟨t, ht, rfl⟩ := exists_token_of_mem_ascendingPositions p hp
    rw [wordsAt_of_nodup hnumbered.nodup ht] at hodd
    have hnot : t.type.isRigid = false := by
      rw [Bool.eq_false_iff]
      exact fun hrigid => hodd (isEven_language (hfound t ht) hrigid)
    rw [exprsAt_of_nodup _ hnumbered.nodup ht]
    split
    · exact (longestFirst_exprsOf hnot).capture 1
    · exact longestFirst_exprsOf hnot
  obtain ⟨word, us, hcut, hspan⟩ := cutGreedily_of_search (fun L => ¬ IsEven L)
    (read_ofTokensAt true hg).2 hflexible (List.mem_map_of_mem hg) hsearch
  rw [map_wordsAt_of_numbered hnumbered, hpositions] at hcut
  rw [hpositions] at hspan
  have hk : (List.range tokens.length)[g.position]? = some g.position :=
    List.getElem?_range (List.getElem?_eq_some_iff.mp (hnumbered.getElem?_of_mem hg)).1
  have hword : ((List.range tokens.length).map word)[g.position]? = some (word g.position) := by
    rw [List.getElem?_map, hk, Option.map_some]
  have hdivides : Divides tokens text ((List.range tokens.length).map word) us :=
    ⟨List.forall₂_map_right_iff.mp hcut.cutFully.forall₂, hcut.cutFully.joined⟩
  refine ⟨_, us, word g.position, ⟨hdivides, hword, ?_⟩, hspan _ hk,
    text?_of_span? hdivides.joined hword (hspan _ hk)⟩
  intro ws' us' w' hdivides' hw'
  have hlanguages : ∀ L ∈ tokens.map (fun t => (Expr.catOf (exprsOf (folding true) t)).language),
      IsEven L ∨ (¬ IsEven L ∧ IsSuffixClosed L) := by
    intro L hL
    obtain ⟨t, ht, rfl⟩ := List.mem_map.mp hL
    by_cases hrigid : t.type.isRigid = true
    · exact Or.inl (isEven_language (hfound t ht) hrigid)
    · exact (Classical.em _).imp_right
        fun hodd => ⟨hodd, isSuffixClosed_language (by simpa using hrigid)⟩
  have hfront : Joined ws' us' ([] ++ text) := hdivides'.joined
  have hbehind := hcut.rightmost hlanguages (List.forall₂_map_right_iff.mpr hdivides'.words) hfront
    hword hw'
  simpa using hbehind

theorem isSome_search_iff (hnumbered : AreNumbered tokens) (hfound : ∀ t ∈ tokens, t.Found)
    (hg : g ∈ tokens) :
    ((regexOf (folding true) tokens g.position).search text).isSome = true ↔
      ∃ ws us, Divides tokens text ws us := by
  constructor
  · intro hsome
    obtain ⟨slots, hslots⟩ := Option.isSome_iff_exists.mp hsome
    obtain ⟨ws, us, w, hright, -⟩ := exists_isRightmost_of_search hnumbered hfound hg hslots
    exact ⟨ws, us, hright.divides⟩
  · rintro ⟨ws, us, h⟩
    apply isSome_search_of_fits
    rw [map_wordsAt_of_numbered hnumbered]
    exact h.fits

/-- A division with single delimiters and the values of tokens for their words from an index on has the
word there as far right as any. -/
theorem IsRightmost.of_values (hfound : ∀ t ∈ tokens, t.Found) (h : Divides tokens text ws us)
    (hvalues : ∀ j t w, k ≤ j → tokens[j]? = some t → ws[j]? = some w → w = t.value.toList)
    (hsingle : ∀ j u, k ≤ j → us[j]? = some u → u.length = 1) (hw : ws[k]? = some w) :
    IsRightmost tokens text k ws us w where
  divides := h
  getElem?_eq := hw
  le := by
    intro ws' us' w' h' hw'
    have hlength := h.words.length_eq
    have hlength' := h'.words.length_eq
    have hcount : ∀ j v v', k ≤ j → ws[j]? = some v → ws'[j]? = some v' →
        v.countP isDelimiter ≤ v'.countP isDelimiter := by
      intro j v v' hj hv hv'
      have hlt := (List.getElem?_eq_some_iff.mp hv).1
      have ht : tokens[j]? = some tokens[j] := List.getElem?_eq_getElem (hlength ▸ hlt)
      rw [hvalues j _ v hj ht hv]
      exact countP_value_le (hfound _ (List.getElem_mem _)) (h'.mem_language ht hv')
    have hsame : ws.length = ws'.length := hlength.trans hlength'.symm
    exact ⟨h.joined.startOf_le h'.joined hsame hcount hsingle (List.getElem?_eq_some_iff.mp hw).1,
      h.joined.stop_le h'.joined hsame hcount hsingle hw hw'⟩

/-- The pattern of numbered tokens with the group at a position. -/
def numberedPattern (tokens : List Token) (position : Nat) : String :=
  "^" ++ String.intercalate delimiters
    ((List.range tokens.length).map (partAt tokens position)) ++ "$"

/-- What the pattern of numbered tokens takes from a text with the group at a position. -/
def takenFrom? (tokens : List Token) (position : Nat) (text : List Char) : Option String :=
  match Regex.parse (numberedPattern tokens position) true with
  | .ok regex => (regex.search text).bind (·.text? text 1)
  | .error _ => none

theorem takenFrom?_eq_some_iff {v : String} (hnumbered : AreNumbered tokens) (hg : g ∈ tokens) :
    takenFrom? tokens g.position text = some v ↔
      ∃ pattern regex slots, generate tokens (some g) = .ok pattern ∧
        Regex.parse pattern true = .ok regex ∧ regex.search text = some slots ∧
        slots.text? text 1 = some v := by
  have hpattern : ofTokensAt tokens g.position = numberedPattern tokens g.position := by
    rw [ofTokensAt, ascendingPositions_of_numbered hnumbered, numberedPattern]
  rw [generate_eq_ok hg, hpattern, takenFrom?]
  constructor
  · intro h
    split at h
    · rename_i regex hparse
      obtain ⟨slots, hslots, htext⟩ := Option.bind_eq_some_iff.mp h
      exact ⟨_, regex, slots, rfl, hparse, hslots, htext⟩
    · cases h
  · rintro ⟨pattern, regex, slots, hgenerate, hparse, hsearch, htext⟩
    obtain rfl := Except.ok.inj hgenerate
    simp only [hparse, hsearch, Option.bind_some, htext]

end PhotoGrouping.GroupPattern
