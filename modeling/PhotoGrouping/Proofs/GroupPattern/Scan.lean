import PhotoGrouping.Proofs.GroupPattern.Reading
import PhotoGrouping.Proofs.PatternScan.Fragment

namespace PhotoGrouping.GroupPattern

open PatternScan Regex

theorem fragment_date (value : String) : Fragment (date value).toList 0 := by
  unfold date
  by_cases h1 : Filename.hasShape Filename.yearFirst value.toList
  · simp only [h1, if_true]
    exact fragment_of_not_mem (by decide) (by decide) (by decide) (by decide)
  · by_cases h2 : Filename.hasShape Filename.yearLast value.toList
    · simp only [h1, h2, if_true]
      exact fragment_of_not_mem (by decide) (by decide) (by decide) (by decide)
    · by_cases h3 : Filename.hasShape Filename.compact value.toList
      · simp only [h1, h2, h3, if_true]
        exact fragment_of_not_mem (by decide) (by decide) (by decide) (by decide)
      · simp only [h1, h2, h3]
        exact fragment_of_not_mem (by decide) (by decide) (by decide) (by decide)

theorem fragment_escape (s : String) : Fragment (escape s).toList 0 := by
  rw [escape, String.toList_ofList]
  exact fragment_escapeChars s.toList

theorem fragment_alternatives {patterns : List String}
    (h : ∀ pattern ∈ patterns, Fragment pattern.toList 0) :
    Fragment (alternatives patterns).toList 0 := by
  have hbar : Fragment ['|'] 0 :=
    fragment_of_not_mem (by decide) (by decide) (by decide) (by decide)
  have hall := hbar.intercalate patterns h
  rw [List.map_const', List.sum_replicate_nat, Nat.mul_zero] at hall
  rwa [toList_alternatives]

theorem fragment_caseless {pattern : String} (h : Fragment pattern.toList 0) :
    Fragment (caseless pattern).toList 0 := by
  rw [caseless, String.toList_append, String.toList_append]
  refine Fragment.group ['i', ':'] h ?_ (by decide)
  intro rest
  simp [countFrom, State.step]

theorem fragment_ofToken (t : Token) : Fragment (ofToken t).toList 0 := by
  have hgroup : Fragment groupId.toList 0 :=
    fragment_of_not_mem (by decide) (by decide) (by decide) (by decide)
  have hindex : Fragment index.toList 0 :=
    fragment_of_not_mem (by decide) (by decide) (by decide) (by decide)
  have hfree : Fragment freeText.toList 0 :=
    fragment_of_not_mem (by decide) (by decide) (by decide) (by decide)
  unfold ofToken
  cases t.type with
  | leading => exact fragment_escape t.value
  | trailing => exact fragment_escape t.value
  | groupId => exact hgroup
  | cameraSide =>
    cases Role.ofSynonym? t.value with
    | none => exact fragment_caseless (fragment_escape t.value)
    | some role =>
      apply fragment_caseless
      apply fragment_alternatives
      intro word hw
      have hs : escape word = word := by
        revert word
        cases role <;> decide
      rw [← hs]
      exact fragment_escape word
  | date => exact fragment_date t.value
  | index => exact hindex
  | extension => exact fragment_caseless (fragment_escape t.value)
  | unknown => exact hfree

/-- The pattern of a position opens a group that captures if and only if it is the group's. -/
theorem fragment_partAt (tokens : List Token) (groupPosition p : Nat) :
    Fragment (partAt tokens groupPosition p).toList (if p = groupPosition then 1 else 0) := by
  have hchoices : ∀ pattern ∈ choicesAt tokens p, Fragment pattern.toList 0 := by
    intro pattern hp
    obtain ⟨t, -, -, rfl⟩ := mem_choicesAt.mp hp
    exact fragment_ofToken t
  have hall := fragment_alternatives hchoices
  unfold partAt
  by_cases h : p = groupPosition
  · simp only [if_pos h, String.toList_append]
    exact hall.capture
  · simp only [if_neg h]
    have hgroup : Fragment ("(?:" ++ alternatives (choicesAt tokens p) ++ ")").toList 0 := by
      rw [String.toList_append, String.toList_append]
      refine Fragment.group [':'] hall ?_ (by decide)
      intro rest
      simp [countFrom, State.step]
    split
    · rename_i pattern hp
      exact hchoices pattern (by simp [hp])
    · exact hgroup

private theorem sum_indicator (ps : List Nat) (q : Nat) :
    (ps.map fun p => if p = q then 1 else 0).sum = ps.count q := by
  induction ps with
  | nil => rfl
  | cons p ps ih =>
    rw [List.map_cons, List.sum_cons, ih, List.count_cons, Nat.add_comm]
    simp

/-- A scan of the pattern with the group at the position of a token finds one group. -/
theorem fragment_ofTokensAt {tokens : List Token} {t : Token} (h : t ∈ tokens) :
    Fragment (ofTokensAt tokens t.position).toList 1 := by
  let positions := ascendingPositions (tokens.map (·.position))
  have hmem : t.position ∈ positions := mem_ascendingPositions.mpr (List.mem_map_of_mem h)
  have hcount : (positions.map fun p => if p = t.position then 1 else 0).sum = 1 := by
    rw [sum_indicator, (nodup_ascendingPositions _).count, if_pos hmem]
  have hdelimiters : Fragment delimiters.toList 0 :=
    fragment_of_not_mem (by decide) (by decide) (by decide) (by decide)
  have hbody := hdelimiters.intercalate positions fun p _ => fragment_partAt tokens t.position p
  rw [hcount] at hbody
  have hcaret : Fragment ['^'] 0 :=
    fragment_of_not_mem (by decide) (by decide) (by decide) (by decide)
  have hdollar : Fragment ['$'] 0 :=
    fragment_of_not_mem (by decide) (by decide) (by decide) (by decide)
  rw [toList_ofTokensAt]
  exact (hcaret.append hbody).append hdollar

end PhotoGrouping.GroupPattern
