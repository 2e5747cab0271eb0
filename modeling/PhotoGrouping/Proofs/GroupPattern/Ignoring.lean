import PhotoGrouping.Proofs.GroupPattern.Divisions
import PhotoGrouping.Proofs.Listing.AscendingMap
import PhotoGrouping.Proofs.SegmentLabel.Applying

namespace PhotoGrouping

open Regex Text Filename

/-- Whether the only decisions of a store are to leave segments out. -/
def LabelStore.OnlyIgnores (s : LabelStore) : Prop :=
  ∀ l ∈ s.labels, l.action = .ignore

/-- Whether no token of a filename up to a position is left out, and none of them takes the delimiter
after its value. -/
def IsKeptUpTo (s : LabelStore) (f : String) (ds : List Char) (position : Nat) : Prop :=
  ∀ t ∈ tokensOf [] f, t.position ≤ position →
    s.get? t.value = none ∧ ∀ d, ds[t.position]? = some d → t.type.swallows d = false

variable {s : LabelStore} {f : String} {t g : Token} {tokens : List Token} {j k : Nat}
variable {ds w : List Char} {ws us : List (List Char)}

namespace LabelStore

theorem OnlyIgnores.apply_eq (h : s.OnlyIgnores) (tokens : List Token) :
    s.apply tokens =
      (tokens.filter fun t => (s.get? t.value).isNone).mapIdx fun i t => t.moveTo i := by
  rw [apply, ← List.filterMap_eq_filter]
  congr 1
  apply List.filterMap_congr
  intro t _
  cases hlabel : s.get? t.value with
  | none => simp [decided?, hlabel, Option.guard]
  | some l =>
    have hmem : l ∈ s.labels :=
      List.mem_map_of_mem (f := (·.2)) (mem_of_lookup_eq_some _ _ _ hlabel)
    simp [decided?, hlabel, h l hmem, SegmentAction.retyped?, Option.guard]

/-- A token that is left of a filename is one of its tokens at another position. -/
theorem OnlyIgnores.exists_of_mem_apply (h : s.OnlyIgnores) (hg : g ∈ s.apply tokens) :
    ∃ t ∈ tokens, g = t.moveTo g.position := by
  rw [h.apply_eq] at hg
  obtain ⟨i, hi, rfl⟩ := List.mem_mapIdx.mp hg
  exact ⟨_, (List.mem_filter.mp (List.getElem_mem hi)).1, rfl⟩

theorem OnlyIgnores.found_of_mem_apply (h : s.OnlyIgnores) (hg : g ∈ s.apply (tokensOf [] f)) :
    g.Found := by
  obtain ⟨t, ht, hsame⟩ := h.exists_of_mem_apply hg
  obtain ⟨hsolid, hdescribes, hdate⟩ := found_of_mem_tokensOf ht
  rw [hsame]
  exact ⟨hsolid, hdescribes, hdate⟩

theorem OnlyIgnores.length_apply_le (h : s.OnlyIgnores) (tokens : List Token) :
    (s.apply tokens).length ≤ tokens.length := by
  rw [h.apply_eq, List.length_mapIdx]
  exact List.length_filter_le _ tokens

/-- Tokens ahead of those that are left out keep their positions. -/
theorem OnlyIgnores.getElem?_apply (h : s.OnlyIgnores)
    (hkept : ∀ t ∈ tokens.take (k + 1), s.get? t.value = none) (hj : j ≤ k)
    (ht : tokens[j]? = some t) : (s.apply tokens)[j]? = some (t.moveTo j) := by
  have hfront : (tokens.take (k + 1)).filter (fun t => (s.get? t.value).isNone) =
      tokens.take (k + 1) := by
    rw [List.filter_eq_self]
    intro t ht
    rw [hkept t ht]
    rfl
  have hlt : j < (tokens.take (k + 1)).length := by
    have hlength := (List.getElem?_eq_some_iff.mp ht).1
    rw [List.length_take]
    omega
  have hkeeps : (tokens.filter fun t => (s.get? t.value).isNone)[j]? = some t := by
    rw [← List.take_append_drop (k + 1) tokens, List.filter_append, hfront,
      List.getElem?_append_left hlt, List.getElem?_take_of_lt (by omega), ht]
  rw [h.apply_eq, List.getElem?_mapIdx, hkeeps, Option.map_some]

end LabelStore

namespace GroupPattern

/-- Whether some division of a text has the values of tokens for their words from an index on, with
single delimiters between them. -/
def EndsInValues (tokens : List Token) (text : List Char) (k : Nat) : Prop :=
  ∃ ws us, Divides tokens text ws us ∧
    (∀ j t w, k ≤ j → tokens[j]? = some t → ws[j]? = some w → w = t.value.toList) ∧
    ∀ j u, k ≤ j → us[j]? = some u → u.length = 1

/-- Where no token up to the group is left out or takes the delimiter after its value, the group has its
value in every division. -/
theorem word_eq_of_isKeptUpTo
    (hjoined : Joined ((tokensOf [] f).map (·.value.toList)) (ds.map ([·])) f.toList)
    (hignores : s.OnlyIgnores) (hg : g ∈ s.apply (tokensOf [] f))
    (hkept : IsKeptUpTo s f ds g.position)
    (hdivides : Divides (s.apply (tokensOf [] f)) f.toList ws us) (hw : ws[g.position]? = some w) :
    w = g.value.toList := by
  have hget := (s.areNumbered_apply (tokensOf [] f)).getElem?_of_mem hg
  have hlength := hdivides.words.length_eq
  have hfewer := hignores.length_apply_le (tokensOf [] f)
  have htake : ∀ t ∈ (tokensOf [] f).take (g.position + 1), s.get? t.value = none := by
    intro t ht
    obtain ⟨p, hp, rfl⟩ := List.mem_take_iff_getElem.mp ht
    exact (hkept _ (List.getElem_mem _) (by rw [position_getElem]; omega)).1
  have hsame {j : Nat} {v : List Char} (hj : j ≤ g.position)
      (hv : ((tokensOf [] f).map (·.value.toList))[j]? = some v) :
      ∃ t ∈ tokensOf [] f, t.position = j ∧ v = t.value.toList ∧
        (s.apply (tokensOf [] f))[j]? = some (t.moveTo j) := by
    rw [List.getElem?_map, Option.map_eq_some_iff] at hv
    obtain ⟨t, ht, rfl⟩ := hv
    exact ⟨t, List.mem_of_getElem? ht, (areNumbered_tokensOf f).position_of_getElem? ht, rfl,
      hignores.getElem?_apply htake hj ht⟩
  have hv : ((tokensOf [] f).map (·.value.toList))[g.position]? = some g.value.toList := by
    have hlt : g.position < ((tokensOf [] f).map (·.value.toList)).length := by
      have hlt := (List.getElem?_eq_some_iff.mp hget).1
      rw [List.length_map]
      omega
    obtain ⟨t, -, -, hvalue, happly⟩ := hsame (Nat.le_refl _) (List.getElem?_eq_getElem hlt)
    rw [hget] at happly
    rw [List.getElem?_eq_getElem hlt, hvalue, Option.some.inj happly]
    rfl
  refine hjoined.word_eq_of_stops hdivides.joined ?_ (by rw [List.length_map]; omega) ?_ hv hw
  · intro v hv
    obtain ⟨t, ht, rfl⟩ := List.mem_map.mp hv
    exact hasFirmEnds_value (found_of_mem_tokensOf ht) (value_ne_nil_of_mem_tokensOf ht)
  · intro j v w d hj hv hw hd
    obtain ⟨t, ht, rfl, rfl, happly⟩ := hsame hj hv
    have hdelimiter : isDelimiter d = true :=
      hjoined.delimiters [d] (List.mem_map_of_mem (List.mem_of_getElem? hd)) d (by simp)
    exact stops_of_mem_language (found_of_mem_tokensOf ht) (hdivides.mem_language happly hw) hdelimiter
      ((hkept t ht hj).2 d hd)

/-- The pattern that is generated from what is left of the tokens of a filename matches the filename if
it can be divided among them. Its group has the value of the group token just if that has its value where
it is as far right as any; so it does where the filename ends in the values of the tokens from the group
token on, and where no token up to it is left out or takes the delimiter after its value. -/
theorem generate_finds_rightmost
    (hjoined : Joined ((tokensOf [] f).map (·.value.toList)) (ds.map ([·])) f.toList)
    (hignores : s.OnlyIgnores) (hg : g ∈ s.apply (tokensOf [] f)) :
    ∃ pattern regex, generate (s.apply (tokensOf [] f)) (some g) = .ok pattern ∧
      Regex.read pattern true = .ok regex ∧
      Regex.parse pattern true = (if regex.fits then .ok regex else .error .tooLarge) ∧
      ((regex.search f.toList).isSome = true ↔
        ∃ ws us, Divides (s.apply (tokensOf [] f)) f.toList ws us) ∧
      ∀ slots, regex.search f.toList = some slots →
        (slots.text? f.toList 1 = some g.value ↔
          ∃ ws us, IsRightmost (s.apply (tokensOf [] f)) f.toList g.position ws us g.value.toList) ∧
        (EndsInValues (s.apply (tokensOf [] f)) f.toList g.position ∨
            IsKeptUpTo s f ds g.position →
          slots.text? f.toList 1 = some g.value) := by
  have hnumbered := s.areNumbered_apply (tokensOf [] f)
  have hfound : ∀ t ∈ s.apply (tokensOf [] f), t.Found := fun t ht => hignores.found_of_mem_apply ht
  obtain ⟨hread, -⟩ := read_ofTokensAt true hg
  refine ⟨_, _, generate_eq_ok hg, hread, by rw [Regex.parse, hread],
    isSome_search_iff hnumbered hfound hg, ?_⟩
  intro slots hslots
  obtain ⟨ws, us, w, hright, -, htext⟩ := exists_isRightmost_of_search hnumbered hfound hg hslots
  have hvalue (h : w = g.value.toList) : slots.text? f.toList 1 = some g.value := by
    rw [htext, h, String.ofList_toList]
  refine ⟨⟨?_, ?_⟩, ?_⟩
  · intro h
    rw [htext, Option.some.injEq] at h
    rw [← h, String.toList_ofList]
    exact ⟨ws, us, hright⟩
  · rintro ⟨ws', us', h⟩
    exact hvalue (hright.word_eq h)
  · rintro (⟨ws', us', hdivides, hvalues, hsingle⟩ | hkept)
    · have hget := hnumbered.getElem?_of_mem hg
      have hlt := (List.getElem?_eq_some_iff.mp hget).1
      rw [← hdivides.words.length_eq] at hlt
      have hword : ws'[g.position]? = some ws'[g.position] := List.getElem?_eq_getElem hlt
      have hown := IsRightmost.of_values hfound hdivides hvalues hsingle hword
      rw [hvalues g.position g _ (Nat.le_refl _) hget hword] at hown
      exact hvalue (hright.word_eq hown)
    · exact hvalue (word_eq_of_isKeptUpTo hjoined hignores hg hkept hright.divides hright.getElem?_eq)

/-- A photo with a segment that is left out behind its group. -/
def ignoredName : String := "IMG_A12.gate_tmp_7.jpg"

def ignoredDelimiters : List Char := ['_', '.', '_', '_', '.']

/-- The decision to leave one segment out. -/
def ignoringStore : LabelStore :=
  .ofList [{ value := "tmp", action := .ignore }]

theorem onlyIgnores_ignoringStore : ignoringStore.OnlyIgnores := by
  have hall : ignoringStore.labels.all (·.action = .ignore) = true := by decide
  simpa [LabelStore.OnlyIgnores] using hall

theorem joined_ignoredName :
    Joined ((tokensOf [] ignoredName).map (·.value.toList)) (ignoredDelimiters.map ([·]))
      ignoredName.toList := by
  have hvalues : (tokensOf [] ignoredName).map (·.value.toList) =
      ["IMG", "A12", "gate", "tmp", "7", "jpg"].map String.toList := by decide +kernel
  have hline : ∀ c ∈ ['_'], isDelimiter c = true := List.all_eq_true.mp (by decide)
  have hdot : ∀ c ∈ ['.'], isDelimiter c = true := List.all_eq_true.mp (by decide)
  rw [hvalues]
  exact .cons (by decide) hline (.cons (by decide) hdot (.cons (by decide) hline
    (.cons (by decide) hline (.cons (by decide) hdot (.last _)))))

theorem isKeptUpTo_ignoredName : IsKeptUpTo ignoringStore ignoredName ignoredDelimiters 1 := by
  have hall : (tokensOf [] ignoredName).all (fun t => t.position ≤ 1 →
      (ignoringStore.get? t.value).isNone = true ∧
        (ignoredDelimiters[t.position]?.all (!t.type.swallows ·)) = true) = true := by
    decide +kernel
  intro t ht hle
  obtain ⟨hnone, hstops⟩ := of_decide_eq_true (List.all_eq_true.mp hall t ht) hle
  refine ⟨Option.isNone_iff_eq_none.mp hnone, fun d hd => ?_⟩
  simpa [hd] using hstops

theorem generate_finds_rightmost_gate :
    Joined ((tokensOf [] ignoredName).map (·.value.toList)) (ignoredDelimiters.map ([·]))
        ignoredName.toList ∧
      ignoringStore.OnlyIgnores ∧
      ∃ g ∈ ignoringStore.apply (tokensOf [] ignoredName), g.value = "A12" ∧
        ∃ pattern regex slots,
          generate (ignoringStore.apply (tokensOf [] ignoredName)) (some g) = .ok pattern ∧
          Regex.parse pattern true = .ok regex ∧
          regex.search ignoredName.toList = some slots ∧
          slots.text? ignoredName.toList 1 = some g.value ∧
          ∃ ws us, IsRightmost (ignoringStore.apply (tokensOf [] ignoredName)) ignoredName.toList
            g.position ws us g.value.toList := by
  refine ⟨joined_ignoredName, onlyIgnores_ignoringStore, ?_⟩
  have hany : (ignoringStore.apply (tokensOf [] ignoredName)).any (fun g =>
      g.value = "A12" ∧ g.position = 1 ∧
        (takenFrom? (ignoringStore.apply (tokensOf [] ignoredName)) g.position
          ignoredName.toList).isSome) = true := by decide +kernel
  obtain ⟨g, hg, hall⟩ := List.any_eq_true.mp hany
  obtain ⟨hvalue, hposition, htaken⟩ := of_decide_eq_true hall
  obtain ⟨v, hv⟩ := Option.isSome_iff_exists.mp htaken
  obtain ⟨pattern, regex, slots, hgenerate, hparse, hsearch, -⟩ :=
    (takenFrom?_eq_some_iff (LabelStore.areNumbered_apply _ _) hg).mp hv
  obtain ⟨pattern', regex', hgenerate', -, hparse', -, hfinds⟩ :=
    generate_finds_rightmost joined_ignoredName onlyIgnores_ignoringStore hg
  obtain rfl := Except.ok.inj (hgenerate.symm.trans hgenerate')
  have hsame : regex = regex' := by
    rw [hparse] at hparse'
    split at hparse'
    · exact Except.ok.inj hparse'
    · cases hparse'
  obtain ⟨hrightmost, hkept⟩ := hfinds slots (hsame ▸ hsearch)
  have htext := hkept (Or.inr (hposition ▸ isKeptUpTo_ignoredName))
  exact ⟨g, hg, hvalue, pattern, regex, slots, hgenerate, hparse, hsearch, htext, hrightmost.mp htext⟩

/-- Whether the pattern that is generated from what is left of the tokens of a filename takes the value
of one of them from the filename, if it matches it. -/
def TakesKept (s : LabelStore) (f : String) (g : Token) : Prop :=
  ∀ pattern regex slots, generate (s.apply (tokensOf [] f)) (some g) = .ok pattern →
    Regex.parse pattern true = .ok regex → regex.search f.toList = some slots →
    slots.text? f.toList 1 = some g.value

/-- A photo with a segment directly behind its group. -/
def absorbedName : String := "car_ABC123_tmp_front.jpg"

/-- A segment that is left out may be taken with the group before it. -/
theorem not_takesKept_absorbed :
    isSinglyJoined ((tokensOf [] absorbedName).map (·.value.toList)) absorbedName.toList = true ∧
      (∀ l ∈ ignoringStore.labels, l.action = .ignore ∧
        ∃ t ∈ tokensOf [] absorbedName, t.type = .unknown ∧ t.value = l.value) ∧
      ∃ g ∈ ignoringStore.apply (tokensOf [] absorbedName), ¬ TakesKept ignoringStore absorbedName g := by
  refine ⟨by decide +kernel, ?_, ?_⟩
  · have hall : ignoringStore.labels.all (fun l => l.action = .ignore ∧
        (tokensOf [] absorbedName).any (fun t => t.type = .unknown ∧ t.value = l.value)) = true := by
      decide +kernel
    simpa using hall
  · have hany : (ignoringStore.apply (tokensOf [] absorbedName)).any (fun g =>
        g.value = "ABC123" ∧ takenFrom? (ignoringStore.apply (tokensOf [] absorbedName)) g.position
          absorbedName.toList = some "ABC123_tmp") = true := by decide +kernel
    obtain ⟨g, hg, hall⟩ := List.any_eq_true.mp hany
    obtain ⟨hvalue, htaken⟩ := of_decide_eq_true hall
    obtain ⟨pattern, regex, slots, hgenerate, hparse, hsearch, htext⟩ :=
      (takenFrom?_eq_some_iff (LabelStore.areNumbered_apply _ _) hg).mp htaken
    refine ⟨g, hg, ?_⟩
    intro htakes
    rw [htakes pattern regex slots hgenerate hparse hsearch, hvalue] at htext
    exact absurd htext (by decide)

end GroupPattern

end PhotoGrouping
