import Mathlib.Data.Finset.Card
import PhotoGrouping.Proofs.Grouping.Candidates

namespace PhotoGrouping.Grouping

open Text

/-- What ties the parts of a grouping of files to each other and to the files. -/
structure Consistent (files : List String) (g : Grouping) : Prop where
  groups_ascend : (g.groups.map (·.1)).Pairwise (· < ·)
  groupIds_ascend : (g.fileToGroupId.map (·.1)).Pairwise (· < ·)
  roles_ascend : (g.fileToRole.map (·.1)).Pairwise (· < ·)
  reasons_ascend : (g.unmatchedReasons.map (·.1)).Pairwise (· < ·)
  covered : ∀ f, f ∈ files ↔ f ∈ g.fileToGroupId.map (·.1) ∨ f ∈ g.unmatchedFiles
  disjoint : ∀ f ∈ g.fileToGroupId.map (·.1), f ∉ g.unmatchedFiles
  same_keys : g.fileToRole.map (·.1) = g.fileToGroupId.map (·.1)
  unmatched_nodup : g.unmatchedFiles.Nodup
  reason_iff : ∀ f, f ∈ g.unmatchedReasons.map (·.1) ↔ f ∈ g.unmatchedFiles
  group_ne_nil : ∀ e ∈ g.groups, e.2 ≠ []
  id_not_blank : ∀ e ∈ g.groups, trimmed e.1.toList ≠ []
  /-- A file is listed once in its own group and not at all in the others. -/
  listed_once : ∀ id f,
    (g.members id).count f = if g.fileToGroupId.lookup f = some id then 1 else 0
  /-- The files of a group stand in the order in which they occur first. -/
  in_order : ∀ e ∈ g.groups, e.2.Pairwise fun a b => files.idxOf a < files.idxOf b
  total : g.totalFiles = files.toFinset.card

/-- Files that are sifted into candidates for a group and files that are turned away. -/
structure Sifted (files : List String) (cs : List Candidate) (rs : List (String × Unmatched)) : Prop where
  in_order : (cs.map (·.file)).Sublist (distinct files)
  rejected_nodup : (rs.map (·.1)).Nodup
  covered : ∀ f, f ∈ files ↔ f ∈ cs.map (·.file) ∨ f ∈ rs.map (·.1)
  disjoint : ∀ f ∈ cs.map (·.file), f ∉ rs.map (·.1)
  id_not_blank : ∀ c ∈ cs, isBlankText c.groupId = false

namespace Sifted

variable {files : List String} {cs : List Candidate} {rs : List (String × Unmatched)} {f id : String}

theorem nodup (h : Sifted files cs rs) : (cs.map (·.file)).Nodup :=
  (nodup_distinct files).sublist h.in_order

theorem mem_grouped_iff (h : Sifted files cs rs) :
    f ∈ (tabulate cs grouped?).map (·.1) ↔ ∃ c ∈ cs, c.file = f ∧ c.role?.isSome := by
  rw [mem_keys_tabulate cs h.nodup]
  simp only [grouped?_isSome]

/-- A file is a candidate with a role, or has been turned away, or is a candidate without a role. -/
theorem mem_iff (h : Sifted files cs rs) :
    f ∈ files ↔ f ∈ (tabulate cs grouped?).map (·.1) ∨ f ∈ rs.map (·.1) ++ rolelessOf cs := by
  rw [h.covered, h.mem_grouped_iff, List.mem_append, mem_rolelessOf]
  constructor
  · rintro (h | h)
    · obtain ⟨c, hc, rfl⟩ := List.mem_map.mp h
      cases hrole : c.role? with
      | none => exact Or.inr (Or.inr ⟨c, hc, rfl, hrole⟩)
      | some role => exact Or.inl ⟨c, hc, rfl, by rw [hrole]; rfl⟩
    · exact Or.inr (Or.inl h)
  · rintro (⟨c, hc, rfl, _⟩ | h | ⟨c, hc, rfl, _⟩)
    · exact Or.inl (List.mem_map.mpr ⟨c, hc, rfl⟩)
    · exact Or.inr h
    · exact Or.inl (List.mem_map.mpr ⟨c, hc, rfl⟩)

theorem not_mem_of_grouped (h : Sifted files cs rs) (hf : f ∈ (tabulate cs grouped?).map (·.1)) :
    f ∉ rs.map (·.1) ++ rolelessOf cs := by
  obtain ⟨c, hc, rfl, hsome⟩ := h.mem_grouped_iff.mp hf
  rw [List.mem_append, mem_rolelessOf, not_or]
  refine ⟨h.disjoint c.file (List.mem_map.mpr ⟨c, hc, rfl⟩), ?_⟩
  rintro ⟨d, hdm, hfile, hnone⟩
  rw [List.inj_on_of_nodup_map h.nodup hdm hc hfile] at hnone
  simp [hnone] at hsome

theorem nodup_ungrouped (h : Sifted files cs rs) : (rs.map (·.1) ++ rolelessOf cs).Nodup := by
  refine List.nodup_append'.mpr ⟨h.rejected_nodup, rolelessOf_nodup cs h.nodup, ?_⟩
  intro f h1 h2
  obtain ⟨c, hc, rfl, _⟩ := (mem_rolelessOf cs f).mp h2
  exact h.disjoint c.file (List.mem_map.mpr ⟨c, hc, rfl⟩) h1

theorem trimmed_ne_nil (h : Sifted files cs rs) (hid : kept cs id ≠ []) : trimmed id.toList ≠ [] := by
  obtain ⟨f, hf⟩ := List.exists_mem_of_ne_nil _ hid
  obtain ⟨c, hc, _, rfl, _⟩ := (mem_kept cs id f).mp hf
  have hblank := h.id_not_blank c hc
  rw [isBlankText] at hblank
  intro ht
  rw [trimmed_eq_nil_iff.mp ht] at hblank
  cases hblank

theorem count_members (h : Sifted files cs rs) (id f : String) :
    ((ofCandidates cs rs).members id).count f =
      if (ofCandidates cs rs).fileToGroupId.lookup f = some id then 1 else 0 := by
  rw [members_ofCandidates]
  have hlookup := lookup_fileToGroupId cs h.nodup f id
  by_cases hf : f ∈ kept cs id
  · rw [List.count_eq_one_of_mem (h.nodup.sublist (kept_sublist cs id)) hf, if_pos]
    exact hlookup.mpr ((mem_kept cs id f).mp hf)
  · rw [List.count_eq_zero_of_not_mem hf, if_neg]
    exact fun hl => hf ((mem_kept cs id f).mpr (hlookup.mp hl))

theorem totalFiles_eq (h : Sifted files cs rs) :
    (ofCandidates cs rs).totalFiles = files.toFinset.card := by
  have hall : ((tabulate cs grouped?).map (·.1) ++ (rs.map (·.1) ++ rolelessOf cs)).Nodup :=
    List.nodup_append'.mpr
      ⟨(tabulate_pairwise cs grouped?).imp ne_of_lt, h.nodup_ungrouped, fun _ => h.not_mem_of_grouped⟩
  have hlength : (ofCandidates cs rs).fileToGroupId.length =
      ((tabulate cs grouped?).map (·.1)).length := (List.length_map _).symm
  rw [totalFiles, unmatchedFiles_eq, hlength, ← List.length_append]
  refine (List.toFinset_card_of_nodup hall).symm.trans (congrArg Finset.card ?_)
  ext f
  rw [List.mem_toFinset, List.mem_toFinset, List.mem_append]
  exact h.mem_iff.symm

/-- Sifted files are grouped consistently. -/
theorem consistent (h : Sifted files cs rs) : (ofCandidates cs rs).Consistent files := by
  refine {
    groups_ascend := groupsOf_pairwise cs
    groupIds_ascend := tabulate_pairwise cs grouped?
    roles_ascend := tabulate_pairwise cs (·.role?)
    reasons_ascend := sortedMap_pairwise _
    covered := ?_
    disjoint := ?_
    same_keys := keys_fileToRole cs
    unmatched_nodup := ?_
    reason_iff := ?_
    group_ne_nil := ?_
    id_not_blank := ?_
    listed_once := h.count_members
    in_order := ?_
    total := h.totalFiles_eq }
  · intro f
    rw [unmatchedFiles_eq]
    exact h.mem_iff
  · intro f hf
    rw [unmatchedFiles_eq]
    exact h.not_mem_of_grouped hf
  · rw [unmatchedFiles_eq]
    exact h.nodup_ungrouped
  · intro f
    refine (mem_keys_sortedMap _ f).trans ?_
    simp [ofCandidates]
  · rintro ⟨id, fs⟩ he
    obtain ⟨rfl, hk⟩ := (mem_groupsOf cs id fs).mp he
    exact hk
  · rintro ⟨id, fs⟩ he
    obtain ⟨rfl, hk⟩ := (mem_groupsOf cs id fs).mp he
    exact h.trimmed_ne_nil hk
  · rintro ⟨id, fs⟩ he
    obtain ⟨rfl, _⟩ := (mem_groupsOf cs id fs).mp he
    exact (distinct_pairwise_idxOf files).sublist ((kept_sublist cs id).trans h.in_order)

end Sifted

/-- Files without a group, each for its reason, are grouped consistently. -/
theorem ofUnmatched_consistent (files : List String) (us : List (String × Unmatched))
    (hn : (us.map (·.1)).Nodup) (hf : ∀ f, f ∈ files ↔ f ∈ us.map (·.1)) :
    (ofUnmatched us).Consistent files := by
  refine {
    groups_ascend := List.Pairwise.nil
    groupIds_ascend := List.Pairwise.nil
    roles_ascend := List.Pairwise.nil
    reasons_ascend := sortedMap_pairwise _
    covered := ?_
    disjoint := by simp [ofUnmatched]
    same_keys := rfl
    unmatched_nodup := hn
    reason_iff := ?_
    group_ne_nil := by simp [ofUnmatched]
    id_not_blank := by simp [ofUnmatched]
    listed_once := by simp [ofUnmatched, members]
    in_order := by simp [ofUnmatched]
    total := ?_ }
  · intro f
    simpa [ofUnmatched] using hf f
  · intro f
    refine (mem_keys_sortedMap _ f).trans ?_
    simp [ofUnmatched]
  · change 0 + (us.map (·.1)).length = _
    rw [Nat.zero_add]
    refine (List.toFinset_card_of_nodup hn).symm.trans (congrArg Finset.card ?_)
    ext f
    rw [List.mem_toFinset, List.mem_toFinset, hf]

/-- A pattern that can be read sifts the distinct files. -/
theorem sifted_ofRegex (files : List String) (regex : Regex)
    (buckets : List (Role × List PreparedRule)) :
    Sifted files (candidates regex buckets (distinct files)) (rejected regex (distinct files)) where
  in_order := candidates_files_sublist regex buckets _
  rejected_nodup := (nodup_distinct files).sublist (rejected_files_sublist regex _)
  covered f := by rw [← mem_candidates_or_rejected, mem_distinct]
  disjoint := candidates_rejected_disjoint regex buckets _
  id_not_blank c hc := by
    have hid := ((mem_candidates regex buckets _ c).mp hc).2.1
    exact isBlankText_of_groupIdOf regex c.file c.groupId hid

/-- A pattern that can be read groups the distinct files consistently. -/
theorem ofRegex_consistent (files : List String) (regex : Regex)
    (buckets : List (Role × List PreparedRule)) :
    (ofCandidates (candidates regex buckets (distinct files))
      (rejected regex (distinct files))).Consistent files :=
  (sifted_ofRegex files regex buckets).consistent

/-- A pattern that cannot be read leaves the distinct files unmatched, which is consistent. -/
theorem ofReason_consistent (files : List String) (reason : Unmatched) :
    (ofUnmatched ((distinct files).map (·, reason))).Consistent files := by
  apply ofUnmatched_consistent
  · simpa [Function.comp_def] using nodup_distinct files
  · simp [mem_distinct]

/-- Whatever the pattern and the rules are, each file is in one group, with a role, or is unmatched
for a reason. -/
theorem ofFiles_consistent (files : List String) (pattern : String) (rules : List RoleRule) :
    (ofFiles files pattern rules).Consistent files := by
  unfold ofFiles
  dsimp only
  split
  · exact ofReason_consistent files _
  · exact ofRegex_consistent files _ _

end PhotoGrouping.Grouping
