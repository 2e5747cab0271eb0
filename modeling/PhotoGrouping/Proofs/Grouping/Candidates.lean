import Mathlib.Data.List.Nodup
import PhotoGrouping.Grouping
import PhotoGrouping.Proofs.Listing.AscendingMap

namespace PhotoGrouping.Grouping

open Text

theorem mem_candidates (regex : Regex) (buckets : List (Role × List PreparedRule))
    (files : List String) (c : Candidate) :
    c ∈ candidates regex buckets files ↔
      c.file ∈ files ∧ groupIdOf regex c.file = .ok c.groupId ∧
        c.role? = roleOf? buckets c.file := by
  rw [candidates, List.mem_filterMap]
  constructor
  · rintro ⟨f, hf, hc⟩
    cases hg : groupIdOf regex f with
    | error u => simp [hg] at hc
    | ok id =>
      simp only [hg, Option.some.injEq] at hc
      subst hc
      exact ⟨hf, hg, rfl⟩
  · rintro ⟨hf, hg, hr⟩
    refine ⟨c.file, hf, ?_⟩
    rw [hg, ← hr]

theorem mem_rejected (regex : Regex) (files : List String) (f : String) (u : Unmatched) :
    (f, u) ∈ rejected regex files ↔ f ∈ files ∧ groupIdOf regex f = .error u := by
  rw [rejected, List.mem_filterMap]
  constructor
  · rintro ⟨x, hx, hu⟩
    cases hg : groupIdOf regex x with
    | ok id => simp [hg] at hu
    | error v =>
      simp only [hg, Option.some.injEq, Prod.mk.injEq] at hu
      obtain ⟨rfl, rfl⟩ := hu
      exact ⟨hx, hg⟩
  · rintro ⟨hf, hg⟩
    exact ⟨f, hf, by rw [hg]⟩

theorem candidates_files_sublist (regex : Regex) (buckets : List (Role × List PreparedRule))
    (files : List String) :
    ((candidates regex buckets files).map (·.file)).Sublist files := by
  induction files with
  | nil => exact List.Sublist.refl _
  | cons f files ih =>
    unfold candidates at ih ⊢
    rw [List.filterMap_cons]
    cases groupIdOf regex f with
    | error u => exact ih.cons f
    | ok id => exact ih.cons_cons f

theorem rejected_files_sublist (regex : Regex) (files : List String) :
    ((rejected regex files).map (·.1)).Sublist files := by
  induction files with
  | nil => exact List.Sublist.refl _
  | cons f files ih =>
    unfold rejected at ih ⊢
    rw [List.filterMap_cons]
    cases groupIdOf regex f with
    | ok id => exact ih.cons f
    | error u => exact ih.cons_cons f

/-- The pattern gives each file a group or turns it away. -/
theorem mem_candidates_or_rejected (regex : Regex) (buckets : List (Role × List PreparedRule))
    (files : List String) (f : String) :
    f ∈ files ↔ f ∈ (candidates regex buckets files).map (·.file) ∨
      f ∈ (rejected regex files).map (·.1) := by
  constructor
  · intro hf
    cases hg : groupIdOf regex f with
    | ok id =>
      exact Or.inl (List.mem_map.mpr ⟨⟨f, id, roleOf? buckets f⟩,
        (mem_candidates regex buckets files _).mpr ⟨hf, hg, rfl⟩, rfl⟩)
    | error u =>
      exact Or.inr (List.mem_map.mpr ⟨(f, u), (mem_rejected regex files f u).mpr ⟨hf, hg⟩, rfl⟩)
  · rintro (h | h)
    · exact (candidates_files_sublist regex buckets files).mem h
    · exact (rejected_files_sublist regex files).mem h

theorem candidates_rejected_disjoint (regex : Regex)
    (buckets : List (Role × List PreparedRule)) (files : List String) (f : String)
    (hf : f ∈ (candidates regex buckets files).map (·.file)) :
    f ∉ (rejected regex files).map (·.1) := by
  obtain ⟨c, hc, rfl⟩ := List.mem_map.mp hf
  intro hr
  obtain ⟨⟨_, u⟩, hr, rfl⟩ := List.mem_map.mp hr
  have h1 := ((mem_candidates regex buckets files c).mp hc).2.1
  have h2 := ((mem_rejected regex files c.file u).mp hr).2
  rw [h1] at h2
  cases h2

theorem isBlankText_of_groupIdOf (regex : Regex) (f id : String)
    (h : groupIdOf regex f = .ok id) : isBlankText id = false := by
  unfold groupIdOf at h
  dsimp only at h
  split at h
  · cases h
  · split at h
    · cases h
    · split at h
      · cases h
      · rename_i hb
        cases h
        simpa using hb

section Maps

variable {α : Type} (cs : List Candidate)

theorem find?_eq_some_iff (hn : (cs.map (·.file)).Nodup) (f : String) (c : Candidate) :
    cs.find? (·.file = f) = some c ↔ c ∈ cs ∧ c.file = f := by
  constructor
  · intro h
    exact ⟨List.mem_of_find?_eq_some h, by simpa using List.find?_some h⟩
  · rintro ⟨hc, rfl⟩
    cases h : cs.find? (·.file = c.file) with
    | none => exact absurd (List.find?_eq_none.mp h c hc) (by simp)
    | some d =>
      have hd : d.file = c.file := by simpa using List.find?_some h
      rw [List.inj_on_of_nodup_map hn (List.mem_of_find?_eq_some h) hc hd]

theorem tabulate_eq_keyed (value : Candidate → Option α) :
    tabulate cs value =
      keyed (ascending (cs.map (·.file))) fun f => (cs.find? (·.file = f)).bind value := by
  unfold tabulate keyed
  congr 1
  funext f
  cases hf : cs.find? (·.file = f) <;> simp [hf]

theorem tabulate_pairwise (value : Candidate → Option α) :
    ((tabulate cs value).map (·.1)).Pairwise (· < ·) := by
  rw [tabulate_eq_keyed]
  exact keyed_pairwise _ _ (ascending_pairwise _)

/-- What a map from the files of candidates gives for a file. -/
theorem lookup_tabulate (value : Candidate → Option α) (f : String) :
    (tabulate cs value).lookup f = (cs.find? (·.file = f)).bind value := by
  rw [tabulate_eq_keyed, lookup_keyed]
  split
  · rfl
  · rename_i hf
    have hn : cs.find? (·.file = f) = none := by
      rw [List.find?_eq_none]
      intro c hc he
      exact hf (mem_ascending.mpr (List.mem_map.mpr ⟨c, hc, by simpa using he⟩))
    rw [hn]
    rfl

theorem mem_keys_tabulate (hn : (cs.map (·.file)).Nodup) (value : Candidate → Option α)
    (f : String) :
    f ∈ (tabulate cs value).map (·.1) ↔ ∃ c ∈ cs, c.file = f ∧ (value c).isSome := by
  rw [tabulate_eq_keyed, keys_keyed, List.mem_filter, mem_ascending]
  constructor
  · rintro ⟨_, h⟩
    cases hc : cs.find? (·.file = f) with
    | none => simp [hc] at h
    | some c =>
      obtain ⟨hm, rfl⟩ := (find?_eq_some_iff cs hn f c).mp hc
      exact ⟨c, hm, rfl, by simpa [hc] using h⟩
  · rintro ⟨c, hc, rfl, h⟩
    refine ⟨List.mem_map.mpr ⟨c, hc, rfl⟩, ?_⟩
    rw [(find?_eq_some_iff cs hn c.file c).mpr ⟨hc, rfl⟩]
    exact h

def kept (id : String) : List String :=
  (cs.filter fun c => c.groupId = id && c.role?.isSome).map (·.file)

theorem groupsOf_eq_keyed :
    groupsOf cs = keyed (ascending (cs.map (·.groupId))) fun id =>
      match kept cs id with
      | [] => none
      | files => some files := by
  unfold groupsOf keyed
  congr 1
  funext id
  change (match kept cs id with | [] => none | files => some (id, files)) = _
  cases hk : kept cs id <;> simp [hk]

theorem groupsOf_pairwise : ((groupsOf cs).map (·.1)).Pairwise (· < ·) := by
  rw [groupsOf_eq_keyed]
  exact keyed_pairwise _ _ (ascending_pairwise _)

theorem mem_kept (id f : String) :
    f ∈ kept cs id ↔ ∃ c ∈ cs, c.file = f ∧ c.groupId = id ∧ c.role?.isSome := by
  simp only [kept, List.mem_map, List.mem_filter, Bool.and_eq_true, decide_eq_true_eq]
  constructor
  · rintro ⟨c, ⟨hc, hid, hr⟩, hf⟩
    exact ⟨c, hc, hf, hid, hr⟩
  · rintro ⟨c, hc, hf, hid, hr⟩
    exact ⟨c, ⟨hc, hid, hr⟩, hf⟩

theorem lookup_groupsOf (id : String) :
    (groupsOf cs).lookup id = if kept cs id = [] then none else some (kept cs id) := by
  rw [groupsOf_eq_keyed, lookup_keyed]
  cases hk : kept cs id with
  | nil => simp
  | cons f files =>
    obtain ⟨c, hc, _, hid, _⟩ := (mem_kept cs id f).mp (by rw [hk]; simp)
    rw [if_pos (mem_ascending.mpr (List.mem_map.mpr ⟨c, hc, hid⟩)), if_neg (by simp)]

theorem mem_groupsOf (id : String) (files : List String) :
    (id, files) ∈ groupsOf cs ↔ files = kept cs id ∧ kept cs id ≠ [] := by
  rw [← lookup_eq_some_iff_of_nodup _ ((groupsOf_pairwise cs).imp ne_of_lt), lookup_groupsOf]
  by_cases hk : kept cs id = []
  · simp [hk]
  · simp [hk, eq_comm]

/-- The files that a group keeps are those of its capture that have a role. -/
theorem kept_candidates (regex : Regex) (buckets : List (Role × List PreparedRule))
    (files : List String) (id : String) :
    kept (candidates regex buckets files) id =
      files.filter fun f =>
        (groupIdOf regex f).toOption = some id && (roleOf? buckets f).isSome := by
  induction files with
  | nil => rfl
  | cons f files ih =>
    unfold kept candidates at ih ⊢
    rw [List.filterMap_cons, List.filter_cons]
    cases groupIdOf regex f with
    | error u => simpa [Except.toOption] using ih
    | ok i => cases roleOf? buckets f <;> by_cases hi : i = id <;>
        simp [Except.toOption, hi, ih]

theorem mem_rolelessOf (f : String) :
    f ∈ rolelessOf cs ↔ ∃ c ∈ cs, c.file = f ∧ c.role? = none := by
  simp only [rolelessOf, List.mem_flatMap, mem_ascending, List.mem_map, List.mem_filter,
    Bool.and_eq_true, decide_eq_true_eq, Option.isNone_iff_eq_none]
  constructor
  · rintro ⟨_, _, c, ⟨hc, _, hr⟩, hf⟩
    exact ⟨c, hc, hf, hr⟩
  · rintro ⟨c, hc, hf, hr⟩
    exact ⟨c.groupId, ⟨c, hc, rfl⟩, c, ⟨hc, rfl, hr⟩, hf⟩

theorem rolelessOf_nodup (hn : (cs.map (·.file)).Nodup) : (rolelessOf cs).Nodup := by
  unfold rolelessOf
  rw [List.nodup_flatMap]
  constructor
  · intro id _
    exact hn.sublist (List.filter_sublist.map _)
  · refine (ascending_nodup _).imp ?_
    intro i j hij f hi hj
    obtain ⟨c, hc, rfl⟩ := List.mem_map.mp hi
    obtain ⟨d, hd, he⟩ := List.mem_map.mp hj
    simp only [List.mem_filter, Bool.and_eq_true, decide_eq_true_eq] at hc hd
    have hcd := List.inj_on_of_nodup_map hn hd.1 hc.1 he
    exact hij (hc.2.1.symm.trans (hcd ▸ hd.2.1))

end Maps

section SortedMap

variable {α : Type} (m : List (String × α))

theorem sortedMap_eq_keyed : sortedMap m = keyed (ascending (m.map (·.1))) (m.lookup ·) := rfl

theorem sortedMap_pairwise : ((sortedMap m).map (·.1)).Pairwise (· < ·) :=
  keyed_pairwise _ _ (ascending_pairwise _)

/-- A map is looked up in ascending order as it was before. -/
theorem lookup_sortedMap (k : String) : (sortedMap m).lookup k = m.lookup k := by
  rw [sortedMap_eq_keyed, lookup_keyed]
  split
  · rfl
  · rename_i hk
    rw [mem_ascending, ← lookup_isSome_iff, Option.not_isSome_iff_eq_none] at hk
    exact hk.symm

theorem mem_keys_sortedMap (k : String) : k ∈ (sortedMap m).map (·.1) ↔ k ∈ m.map (·.1) := by
  rw [← lookup_isSome_iff, lookup_sortedMap, lookup_isSome_iff]

theorem mem_of_mem_sortedMap {e : String × α} (h : e ∈ sortedMap m) : e ∈ m := by
  obtain ⟨k, -, hk⟩ := List.mem_filterMap.mp h
  obtain ⟨a, ha, rfl⟩ := Option.map_eq_some_iff.mp hk
  exact mem_of_lookup_eq_some m k a ha

end SortedMap

section OfCandidates

variable (cs : List Candidate) (rs : List (String × Unmatched))

/-- The group of a candidate that has a role. -/
def grouped? (c : Candidate) : Option String :=
  if c.role?.isSome then some c.groupId else none

theorem grouped?_isSome (c : Candidate) : (grouped? c).isSome = c.role?.isSome := by
  unfold grouped?
  split <;> simp_all

theorem lookup_fileToGroupId (hn : (cs.map (·.file)).Nodup) (f id : String) :
    (tabulate cs grouped?).lookup f = some id ↔
      ∃ c ∈ cs, c.file = f ∧ c.groupId = id ∧ c.role?.isSome := by
  rw [lookup_tabulate, Option.bind_eq_some_iff]
  constructor
  · rintro ⟨c, hc, hg⟩
    obtain ⟨hm, hf⟩ := (find?_eq_some_iff cs hn f c).mp hc
    unfold grouped? at hg
    split at hg
    · exact ⟨c, hm, hf, by simpa using hg, by assumption⟩
    · cases hg
  · rintro ⟨c, hc, hf, hid, hr⟩
    exact ⟨c, (find?_eq_some_iff cs hn f c).mpr ⟨hc, hf⟩, by rw [grouped?, if_pos hr, hid]⟩

theorem keys_fileToRole :
    (tabulate cs (·.role?)).map (·.1) = (tabulate cs grouped?).map (·.1) := by
  rw [tabulate_eq_keyed, tabulate_eq_keyed, keys_keyed, keys_keyed]
  congr 1
  funext f
  cases cs.find? (·.file = f) with
  | none => rfl
  | some c => exact (grouped?_isSome c).symm

theorem unmatchedFiles_eq :
    (ofCandidates cs rs).unmatchedFiles = rs.map (·.1) ++ rolelessOf cs := by
  simp [ofCandidates, Function.comp_def]

theorem members_ofCandidates (id : String) : (ofCandidates cs rs).members id = kept cs id := by
  change ((groupsOf cs).lookup id).getD [] = kept cs id
  rw [lookup_groupsOf]
  split
  · rename_i h
    exact h.symm
  · rfl

theorem kept_sublist (id : String) : (kept cs id).Sublist (cs.map (·.file)) :=
  List.filter_sublist.map _

end OfCandidates

end PhotoGrouping.Grouping
