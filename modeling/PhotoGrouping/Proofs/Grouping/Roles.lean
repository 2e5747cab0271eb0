import PhotoGrouping.Proofs.Grouping.Consistency

namespace PhotoGrouping.Grouping

variable {files : List String} {g : Grouping} {id f : String} {role : Role}

theorem mem_filesWithRole :
    f ∈ g.filesWithRole id role ↔ f ∈ g.members id ∧ g.fileToRole.lookup f = some role := by
  rw [filesWithRole, List.mem_filter, decide_eq_true_eq]

theorem contains_rolesIn : (g.rolesIn id).contains role = !(g.filesWithRole id role).isEmpty := by
  have hall : role ∈ Role.all := by cases role <;> decide
  rw [Bool.eq_iff_iff, List.contains_iff_mem, rolesIn, List.mem_filter]
  exact and_iff_right hall

namespace Consistent

variable (h : g.Consistent files)

include h

theorem mem_members : f ∈ g.members id ↔ g.fileToGroupId.lookup f = some id := by
  rw [← List.count_pos_iff, h.listed_once]
  split
  · simp [*]
  · simp [*]

theorem nodup_members (id : String) : (g.members id).Nodup := by
  rw [List.nodup_iff_count_le_one]
  intro f
  rw [h.listed_once]
  split
  · exact Nat.le_refl 1
  · exact Nat.zero_le 1

theorem lookup_groups_of_mem {e : String × List String} (he : e ∈ g.groups) :
    g.groups.lookup e.1 = some e.2 :=
  (lookup_eq_some_iff_of_nodup g.groups (h.groups_ascend.imp ne_of_lt) e.1 e.2).mpr he

theorem members_eq_of_mem {e : String × List String} (he : e ∈ g.groups) :
    g.members e.1 = e.2 := by
  rw [members, h.lookup_groups_of_mem he, Option.getD_some]

/-- The groups are those that some file is in. -/
theorem mem_groupIds : id ∈ g.groups.map (·.1) ↔ ∃ f, f ∈ g.members id := by
  constructor
  · intro hid
    obtain ⟨e, he, rfl⟩ := List.mem_map.mp hid
    rw [h.members_eq_of_mem he]
    exact List.exists_mem_of_ne_nil _ (h.group_ne_nil e he)
  · rintro ⟨f, hf⟩
    rw [← lookup_isSome_iff]
    unfold members at hf
    cases hl : g.groups.lookup id with
    | none => simp [hl] at hf
    | some fs => rfl

theorem isBlankText_of_mem_members (hf : f ∈ g.members id) : Text.isBlankText id = false := by
  obtain ⟨e, he, rfl⟩ := List.mem_map.mp (h.mem_groupIds.mpr ⟨f, hf⟩)
  have hid := h.id_not_blank e he
  rw [ne_eq, Text.trimmed_eq_nil_iff] at hid
  rw [Text.isBlankText, Bool.eq_false_iff]
  exact hid

/-- The files with a group are those with a role. -/
theorem isSome_lookup_role (f : String) :
    (g.fileToRole.lookup f).isSome = (g.fileToGroupId.lookup f).isSome := by
  rw [Bool.eq_iff_iff, lookup_isSome_iff, lookup_isSome_iff, h.same_keys]

theorem exists_role_of_mem_members (hf : f ∈ g.members id) :
    ∃ role, g.fileToRole.lookup f = some role := by
  rw [← Option.isSome_iff_exists, h.isSome_lookup_role, h.mem_members.mp hf]
  rfl

theorem exists_group_of_role (hf : g.fileToRole.lookup f = some role) :
    ∃ id, f ∈ g.members id := by
  have hsome := h.isSome_lookup_role f
  rw [hf] at hsome
  obtain ⟨id, hid⟩ := Option.isSome_iff_exists.mp hsome.symm
  exact ⟨id, h.mem_members.mpr hid⟩

theorem mem_files_of_role (hf : g.fileToRole.lookup f = some role) : f ∈ files := by
  have hkey : f ∈ g.fileToRole.map (·.1) := by
    rw [← lookup_isSome_iff, hf]
    rfl
  rw [h.same_keys] at hkey
  exact (h.covered f).mpr (Or.inl hkey)

/-- The roles divide a group. -/
theorem perm_members (id : String) :
    (g.filesWithRole id .front ++ g.filesWithRole id .rear ++ g.filesWithRole id .overview).Perm
      (g.members id) := by
  have hnodup (role : Role) : (g.filesWithRole id role).Nodup := (h.nodup_members id).filter _
  have hdisjoint {role role' : Role} (hne : role ≠ role') :
      (g.filesWithRole id role).Disjoint (g.filesWithRole id role') := by
    intro f hf hf'
    have hrole := (mem_filesWithRole.mp hf).2
    rw [(mem_filesWithRole.mp hf').2] at hrole
    exact hne (Option.some.inj hrole).symm
  have hfr := List.nodup_append'.mpr
    ⟨hnodup .front, hnodup .rear, hdisjoint (show Role.front ≠ .rear by decide)⟩
  have hall : (g.filesWithRole id .front ++ g.filesWithRole id .rear ++
      g.filesWithRole id .overview).Nodup := by
    refine List.nodup_append'.mpr ⟨hfr, hnodup .overview, ?_⟩
    rw [List.disjoint_append_left]
    exact ⟨hdisjoint (by decide), hdisjoint (by decide)⟩
  rw [List.perm_ext_iff_of_nodup hall (h.nodup_members id)]
  intro f
  simp only [List.mem_append, mem_filesWithRole]
  constructor
  · rintro ((hf | hf) | hf)
    all_goals exact hf.1
  · intro hf
    obtain ⟨role, hrole⟩ := h.exists_role_of_mem_members hf
    cases role with
    | front => exact Or.inl (Or.inl ⟨hf, hrole⟩)
    | rear => exact Or.inl (Or.inr ⟨hf, hrole⟩)
    | overview => exact Or.inr ⟨hf, hrole⟩

/-- The files with a role are those with it in the groups. -/
theorem perm_filesWithRole (role : Role) :
    ((distinct files).filter fun f => g.fileToRole.lookup f = some role).Perm
      (g.groups.flatMap fun e => g.filesWithRole e.1 role) := by
  have hgroups : (g.groups.flatMap fun e => g.filesWithRole e.1 role).Nodup := by
    rw [List.nodup_flatMap]
    constructor
    · intro e _
      exact (h.nodup_members e.1).filter _
    · refine (List.pairwise_map.mp h.groups_ascend).imp ?_
      intro a b hab f ha hb
      have hid := h.mem_members.mp (mem_filesWithRole.mp ha).1
      rw [h.mem_members.mp (mem_filesWithRole.mp hb).1] at hid
      exact (ne_of_lt hab) (Option.some.inj hid).symm
  rw [List.perm_ext_iff_of_nodup ((nodup_distinct files).filter _) hgroups]
  intro f
  rw [List.mem_filter, decide_eq_true_eq, mem_distinct, List.mem_flatMap]
  constructor
  · rintro ⟨-, hrole⟩
    obtain ⟨id, hid⟩ := h.exists_group_of_role hrole
    obtain ⟨e, he, rfl⟩ := List.mem_map.mp (h.mem_groupIds.mpr ⟨f, hid⟩)
    exact ⟨e, he, mem_filesWithRole.mpr ⟨hid, hrole⟩⟩
  · rintro ⟨e, -, he⟩
    have hrole := (mem_filesWithRole.mp he).2
    exact ⟨h.mem_files_of_role hrole, hrole⟩

/-- The files with some role are those that the roles are listed for. -/
theorem length_filter_isSome :
    ((distinct files).filter fun f => (g.fileToRole.lookup f).isSome).length =
      g.fileToRole.length := by
  have hperm : ((distinct files).filter fun f => (g.fileToRole.lookup f).isSome).Perm
      (g.fileToRole.map (·.1)) := by
    rw [List.perm_ext_iff_of_nodup ((nodup_distinct files).filter _)
      (h.roles_ascend.imp ne_of_lt)]
    intro f
    rw [List.mem_filter, mem_distinct, lookup_isSome_iff]
    refine and_iff_right_of_imp ?_
    intro hf
    rw [h.same_keys] at hf
    exact (h.covered f).mpr (Or.inl hf)
  rw [hperm.length_eq, List.length_map]

theorem length_distinct : (distinct files).length = g.totalFiles := by
  rw [h.total, ← List.toFinset_card_of_nodup (nodup_distinct files)]
  congr 1
  ext f
  rw [List.mem_toFinset, List.mem_toFinset, mem_distinct]

theorem totalFiles_eq : g.totalFiles = g.fileToRole.length + g.unmatchedFiles.length := by
  have hkeys := congrArg List.length h.same_keys
  rw [List.length_map, List.length_map] at hkeys
  rw [totalFiles, hkeys]

end Consistent

end PhotoGrouping.Grouping
