import Mathlib.Algebra.GroupWithZero.Nat
import PhotoGrouping.Preview
import PhotoGrouping.Proofs.Grouping.Roles

namespace PhotoGrouping

namespace Outcome

/-- What became of a file in a grouping. -/
def inGrouping (g : Grouping) (f : String) : Outcome :=
  match g.fileToGroupId.lookup f, g.fileToRole.lookup f with
  | some id, some role => placed f id role
  | _, _ => unplaced f

theorem ofGrouping_eq_map (g : Grouping) (files : List String) :
    ofGrouping g files = (distinct files).map (inGrouping g) := rfl

theorem filename_inGrouping (g : Grouping) (f : String) : (inGrouping g f).filename = f := by
  unfold inGrouping
  split
  · rfl
  · rfl

theorem error_inGrouping (g : Grouping) (f : String) : (inGrouping g f).error = none := by
  unfold inGrouping
  split
  · rfl
  · rfl

variable {files : List String} {g : Grouping} (h : g.Consistent files)

include h

/-- A file is placed in its group with its role, or it has neither. -/
theorem inGrouping_eq (f : String) :
    (∃ id role, g.fileToGroupId.lookup f = some id ∧ g.fileToRole.lookup f = some role ∧
      inGrouping g f = placed f id role) ∨
    (g.fileToGroupId.lookup f = none ∧ g.fileToRole.lookup f = none ∧
      inGrouping g f = unplaced f) := by
  have hsome := h.isSome_lookup_role f
  unfold inGrouping
  cases hid : g.fileToGroupId.lookup f with
  | none =>
    rw [hid, Option.isSome_none, Option.isSome_eq_false_iff, Option.isNone_iff_eq_none] at hsome
    exact Or.inr ⟨rfl, hsome, rfl⟩
  | some id =>
    rw [hid, Option.isSome_some] at hsome
    obtain ⟨role, hrole⟩ := Option.isSome_iff_exists.mp hsome
    exact Or.inl ⟨id, role, rfl, hrole, by rw [hrole]⟩

theorem matched_inGrouping (f : String) :
    (inGrouping g f).matched = (g.fileToRole.lookup f).isSome := by
  rcases inGrouping_eq h f with ⟨id, role, -, hrole, he⟩ | ⟨-, hrole, he⟩
  · rw [he, hrole]
    rfl
  · rw [he, hrole]
    rfl

theorem role_inGrouping (f : String) : (inGrouping g f).role = g.fileToRole.lookup f := by
  rcases inGrouping_eq h f with ⟨id, role, -, hrole, he⟩ | ⟨-, hrole, he⟩
  · rw [he, hrole]
    rfl
  · rw [he, hrole]
    rfl

/-- No group of a file is blank, so a preview keeps it. -/
theorem groupOf?_inGrouping (f : String) :
    Preview.groupOf? (inGrouping g f) = g.fileToGroupId.lookup f := by
  rcases inGrouping_eq h f with ⟨id, role, hid, -, he⟩ | ⟨hid, -, he⟩
  · have hblank := h.isBlankText_of_mem_members (h.mem_members.mpr hid)
    rw [he, hid]
    simp [Preview.groupOf?, placed, Option.filter, hblank]
  · rw [he, hid]
    rfl

end Outcome

namespace Preview

/-- What ties a preview, and the outcomes that it counts, to the grouping of files that it sums up. -/
structure Summarises (files : List String) (g : Grouping) (outcomes : List Outcome) (p : Preview) :
    Prop where
  mem_filenames : ∀ f, f ∈ outcomes.map (·.filename) ↔ f ∈ files
  /-- There is one outcome for each file, in the order in which the files occur first. -/
  in_order : (outcomes.map (·.filename)).Pairwise fun a b => files.idxOf a < files.idxOf b
  totalFiles_eq : p.totalFiles = g.totalFiles
  matchedFiles_eq : p.matchedFiles = g.fileToRole.length
  unmatchedFiles_eq : p.unmatchedFiles = g.unmatchedFiles.length
  groupRoles_eq : p.groupRoles = g.groups.map fun e => (e.1, g.rolesIn e.1)
  roles_ne_nil : ∀ e ∈ p.groupRoles, e.2 ≠ []
  /-- The files of a group are divided by their roles. -/
  perm_members : ∀ id,
    (g.filesWithRole id .front ++ g.filesWithRole id .rear ++ g.filesWithRole id .overview).Perm
      (g.members id)
  role_unique : ∀ id f role role',
    f ∈ g.filesWithRole id role → f ∈ g.filesWithRole id role' → role = role'
  roleCount_eq : ∀ role,
    p.roleCount role = (g.groups.map fun e => (g.filesWithRole e.1 role).length).sum
  matched_by_role : p.roleCount .front + p.roleCount .rear + p.roleCount .overview = p.matchedFiles
  incomplete_ascend : p.incompleteGroups.Pairwise (· < ·)
  mem_incomplete : ∀ id, id ∈ p.incompleteGroups ↔
    id ∈ g.groups.map (·.1) ∧ (g.filesWithRole id .front = [] ∨ g.filesWithRole id .rear = [])
  no_errors : p.errors = []

theorem roleCount_of (outcomes : List Outcome) (role : Role) :
    (of outcomes).roleCount role = (outcomes.filter (·.role = some role)).length := by
  cases role with
  | front => rfl
  | rear => rfl
  | overview => rfl

private theorem length_filter_roles (value : String → Option Role) (fs : List String) :
    (fs.filter fun f => value f = some .front).length +
        (fs.filter fun f => value f = some .rear).length +
        (fs.filter fun f => value f = some .overview).length =
      (fs.filter fun f => (value f).isSome).length := by
  induction fs with
  | nil => rfl
  | cons f fs ih =>
    simp only [List.filter_cons]
    cases value f with
    | none => simpa using ih
    | some role =>
      cases role with
      | front | rear | overview =>
        simp
        omega

section

variable {files : List String} {g : Grouping} (h : g.Consistent files)

include h

theorem roleCount_ofGrouping (role : Role) :
    (ofGrouping g files).roleCount role =
      ((distinct files).filter fun f => g.fileToRole.lookup f = some role).length := by
  rw [ofGrouping, roleCount_of, Outcome.ofGrouping_eq_map, List.filter_map, List.length_map]
  simp only [Function.comp_def, Outcome.role_inGrouping h]

theorem matchedFiles_ofGrouping : (ofGrouping g files).matchedFiles = g.fileToRole.length := by
  change ((Outcome.ofGrouping g files).filter (·.matched)).length = _
  rw [Outcome.ofGrouping_eq_map, List.filter_map, List.length_map, ← h.length_filter_isSome]
  simp only [Function.comp_def, Outcome.matched_inGrouping h]

theorem totalFiles_ofGrouping : (ofGrouping g files).totalFiles = g.totalFiles := by
  change (Outcome.ofGrouping g files).length = _
  rw [Outcome.ofGrouping_eq_map, List.length_map, h.length_distinct]

theorem unmatchedFiles_ofGrouping :
    (ofGrouping g files).unmatchedFiles = g.unmatchedFiles.length := by
  change (ofGrouping g files).totalFiles - (ofGrouping g files).matchedFiles = _
  rw [totalFiles_ofGrouping h, matchedFiles_ofGrouping h, h.totalFiles_eq, Nat.add_sub_cancel_left]

theorem rolesOf_ofGrouping (id : String) :
    rolesOf (Outcome.ofGrouping g files) id = g.rolesIn id := by
  unfold rolesOf Grouping.rolesIn
  congr 1
  funext role
  rw [Outcome.ofGrouping_eq_map, List.any_map, Bool.eq_iff_iff, List.any_eq_true,
    Bool.not_eq_true', List.isEmpty_eq_false_iff_exists_mem]
  simp only [Function.comp_apply, Outcome.groupOf?_inGrouping h, Outcome.role_inGrouping h,
    Bool.and_eq_true, decide_eq_true_eq, mem_distinct, Grouping.mem_filesWithRole, h.mem_members]
  constructor
  · rintro ⟨f, -, hid, hrole⟩
    exact ⟨f, hid, hrole⟩
  · rintro ⟨f, hid, hrole⟩
    exact ⟨f, h.mem_files_of_role hrole, hid, hrole⟩

theorem groupRoles_ofGrouping :
    (ofGrouping g files).groupRoles = g.groups.map fun e => (e.1, g.rolesIn e.1) := by
  have hids : ascending ((Outcome.ofGrouping g files).filterMap groupOf?) = g.groups.map (·.1) := by
    apply ascending_eq_of_pairwise h.groups_ascend
    intro id
    rw [h.mem_groupIds, Outcome.ofGrouping_eq_map, List.filterMap_map, List.mem_filterMap]
    simp only [Function.comp_apply, Outcome.groupOf?_inGrouping h, mem_distinct, h.mem_members]
    constructor
    · rintro ⟨f, -, hid⟩
      exact ⟨f, hid⟩
    · rintro ⟨f, hid⟩
      obtain ⟨role, hrole⟩ := h.exists_role_of_mem_members (h.mem_members.mpr hid)
      exact ⟨f, h.mem_files_of_role hrole, hid⟩
  change (ascending ((Outcome.ofGrouping g files).filterMap groupOf?)).map
    (fun id => (id, rolesOf (Outcome.ofGrouping g files) id)) = _
  rw [hids, List.map_map]
  simp only [Function.comp_def, rolesOf_ofGrouping h]

theorem rolesIn_ne_nil {id : String} (hid : id ∈ g.groups.map (·.1)) : g.rolesIn id ≠ [] := by
  obtain ⟨f, hf⟩ := h.mem_groupIds.mp hid
  obtain ⟨role, hrole⟩ := h.exists_role_of_mem_members hf
  have hcontains : (g.rolesIn id).contains role = true := by
    rw [Grouping.contains_rolesIn, Bool.not_eq_true', List.isEmpty_eq_false_iff_exists_mem]
    exact ⟨f, Grouping.mem_filesWithRole.mpr ⟨hf, hrole⟩⟩
  exact List.ne_nil_of_mem (List.contains_iff_mem.mp hcontains)

/-- The incomplete groups are those without a front or without a rear, as no group is without any
role. -/
theorem incompleteGroups_ofGrouping :
    (ofGrouping g files).incompleteGroups = (g.groups.map (·.1)).filter fun id =>
      !(g.rolesIn id).contains .front || !(g.rolesIn id).contains .rear := by
  change ((ofGrouping g files).groupRoles.filter fun e => isIncomplete e.2).map (·.1) = _
  rw [groupRoles_ofGrouping h, List.filter_map, List.map_map, List.filter_map]
  congr 1
  apply List.filter_congr
  intro e he
  have hne := rolesIn_ne_nil h (List.mem_map_of_mem (f := (·.1)) he)
  rw [Function.comp_apply, isIncomplete, List.isEmpty_eq_false_iff.mpr hne, Bool.not_false,
    Bool.true_and, Function.comp_apply]

/-- The preview of a consistent grouping sums it up. -/
theorem summarises_of_consistent :
    (ofGrouping g files).Summarises files g (Outcome.ofGrouping g files) := by
  have hnames : (Outcome.ofGrouping g files).map (·.filename) = distinct files := by
    rw [Outcome.ofGrouping_eq_map, List.map_map]
    simp only [Function.comp_def, Outcome.filename_inGrouping, List.map_id']
  refine {
    mem_filenames := ?_
    in_order := ?_
    totalFiles_eq := totalFiles_ofGrouping h
    matchedFiles_eq := matchedFiles_ofGrouping h
    unmatchedFiles_eq := unmatchedFiles_ofGrouping h
    groupRoles_eq := groupRoles_ofGrouping h
    roles_ne_nil := ?_
    perm_members := h.perm_members
    role_unique := ?_
    roleCount_eq := ?_
    matched_by_role := ?_
    incomplete_ascend := ?_
    mem_incomplete := ?_
    no_errors := ?_ }
  · intro f
    rw [hnames, mem_distinct]
  · rw [hnames]
    exact distinct_pairwise_idxOf files
  · rw [groupRoles_ofGrouping h]
    intro e he
    obtain ⟨e', he', rfl⟩ := List.mem_map.mp he
    exact rolesIn_ne_nil h (List.mem_map_of_mem (f := (·.1)) he')
  · intro id f role role' hf hf'
    have hrole := (Grouping.mem_filesWithRole.mp hf).2
    rw [(Grouping.mem_filesWithRole.mp hf').2] at hrole
    exact (Option.some.inj hrole).symm
  · intro role
    rw [roleCount_ofGrouping h, (h.perm_filesWithRole role).length_eq, List.length_flatMap]
  · rw [roleCount_ofGrouping h, roleCount_ofGrouping h, roleCount_ofGrouping h,
      matchedFiles_ofGrouping h, ← h.length_filter_isSome]
    exact length_filter_roles (fun f => g.fileToRole.lookup f) (distinct files)
  · rw [incompleteGroups_ofGrouping h]
    exact h.groups_ascend.filter _
  · intro id
    rw [incompleteGroups_ofGrouping h, List.mem_filter]
    simp only [Grouping.contains_rolesIn, Bool.not_not, Bool.or_eq_true, List.isEmpty_iff]
  · change (Outcome.ofGrouping g files).filterMap (·.error) = []
    rw [Outcome.ofGrouping_eq_map, List.filterMap_eq_nil_iff]
    intro o ho
    obtain ⟨f, -, rfl⟩ := List.mem_map.mp ho
    exact Outcome.error_inGrouping g f

end

/-- Whatever the pattern and the rules are, the preview of a grouping of files sums it up. -/
theorem ofGrouping_summarises (files : List String) (pattern : String) (rules : List RoleRule) :
    (ofGrouping (.ofFiles files pattern rules) files).Summarises files
      (.ofFiles files pattern rules) (Outcome.ofGrouping (.ofFiles files pattern rules) files) := by
  apply summarises_of_consistent
  unfold Grouping.ofFiles
  dsimp only
  split
  · exact Grouping.ofReason_consistent files _
  · exact Grouping.ofRegex_consistent files _ _

end Preview

end PhotoGrouping
