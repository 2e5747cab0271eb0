import PhotoGrouping.Proofs.Grouping.Roles

namespace PhotoGrouping.Grouping

/-- What becomes of a file: it gets a role in a group, or it is left unmatched for a reason. -/
inductive Fate
  | placed (groupId : String) (role : Role)
  | left (reason : Unmatched)
  deriving Repr, DecidableEq

namespace Fate

def groupId? : Fate → Option String
  | .placed id _ => some id
  | .left _ => none

def role? : Fate → Option Role
  | .placed _ role => some role
  | .left _ => none

/-- The reason in words for which a file is left unmatched. -/
def reason? : Fate → Option String
  | .placed .. => none
  | .left reason => some reason.message

/-- What becomes of a file by a pattern that can be read. -/
def ofRegex (regex : Regex) (buckets : List (Role × List PreparedRule)) (f : String) : Fate :=
  match groupIdOf regex f with
  | .error reason => .left reason
  | .ok id =>
    match roleOf? buckets f with
    | none => .left .noRole
    | some role => .placed id role

/-- What becomes of a file by the pattern and the rules alone. -/
def of (pattern : String) (rules : List RoleRule) (f : String) : Fate :=
  match Regex.parse pattern true with
  | .error e => .left (.invalidPattern (e.message))
  | .ok regex => ofRegex regex (preparedBuckets rules) f

/-- What becomes of a file where only some files are grouped. -/
def within (files : List String) (fate : String → Fate) (f : String) : Option Fate :=
  if f ∈ files then some (fate f) else none

variable {files : List String} {fate : String → Fate} {f id : String} {role : Role}

theorem groupId?_within :
    (within files fate f).bind groupId? = some id ↔ f ∈ files ∧ ∃ role, fate f = .placed id role := by
  unfold within
  split
  · cases h : fate f <;> simp_all [groupId?]
  · simp_all

theorem role?_within :
    (within files fate f).bind role? = some role ↔ f ∈ files ∧ ∃ id, fate f = .placed id role := by
  unfold within
  split
  · cases h : fate f <;> simp_all [role?]
  · simp_all

theorem reason?_within {m : String} :
    (within files fate f).bind reason? = some m ↔
      f ∈ files ∧ ∃ reason, fate f = .left reason ∧ reason.message = m := by
  unfold within
  split
  · cases h : fate f <;> simp_all [reason?]
  · simp_all

end Fate

/-- Whether all parts of a grouping tell the same of a file; of some files they tell nothing. -/
structure Tells (g : Grouping) (f : String) (fate : Option Fate) : Prop where
  groupId : g.fileToGroupId.lookup f = fate.bind Fate.groupId?
  role : g.fileToRole.lookup f = fate.bind Fate.role?
  reason : g.unmatchedReasons.lookup f = fate.bind Fate.reason?
  member_iff : ∀ id, f ∈ g.members id ↔ fate.bind Fate.groupId? = some id
  unmatched_iff : f ∈ g.unmatchedFiles ↔ (fate.bind Fate.reason?).isSome

/-- Whether groupings differ in the order of the files in a group and of the unmatched files only. -/
structure Reorders (g g' : Grouping) : Prop where
  groups : List.Forall₂ (fun e e' => e.1 = e'.1 ∧ e.2.Perm e'.2) g.groups g'.groups
  groupIds : g.fileToGroupId = g'.fileToGroupId
  roles : g.fileToRole = g'.fileToRole
  unmatched : g.unmatchedFiles.Perm g'.unmatchedFiles
  reasons : g.unmatchedReasons = g'.unmatchedReasons

section Regex

variable (regex : Regex) (buckets : List (Role × List PreparedRule)) {files : List String}
variable {f id : String}

/-- The candidates with a role are the files that are placed. -/
theorem exists_candidate_iff {role : Role} :
    (∃ c ∈ candidates regex buckets files, c.file = f ∧ c.groupId = id ∧ c.role? = some role) ↔
      f ∈ files ∧ Fate.ofRegex regex buckets f = .placed id role := by
  simp only [mem_candidates]
  constructor
  · rintro ⟨c, ⟨hf, hid, hrole⟩, rfl, rfl, hsome⟩
    refine ⟨hf, ?_⟩
    rw [Fate.ofRegex, hid, ← hrole, hsome]
  · rintro ⟨hf, hfate⟩
    unfold Fate.ofRegex at hfate
    split at hfate
    · cases hfate
    · rename_i id' hid
      split at hfate
      · cases hfate
      · rename_i role' hrole
        obtain ⟨rfl, rfl⟩ := Fate.placed.inj hfate
        exact ⟨⟨f, id', some role'⟩, ⟨hf, hid, hrole.symm⟩, rfl, rfl, rfl⟩

theorem exists_grouped_iff :
    (∃ c ∈ candidates regex buckets files, c.file = f ∧ c.groupId = id ∧ c.role?.isSome) ↔
      f ∈ files ∧ ∃ role, Fate.ofRegex regex buckets f = .placed id role := by
  simp only [Option.isSome_iff_exists]
  constructor
  · rintro ⟨c, hc, hf, hid, role, hrole⟩
    obtain ⟨hf, hfate⟩ := (exists_candidate_iff regex buckets).mp ⟨c, hc, hf, hid, hrole⟩
    exact ⟨hf, role, hfate⟩
  · rintro ⟨hf, role, hfate⟩
    obtain ⟨c, hc, hf, hid, hrole⟩ := (exists_candidate_iff regex buckets).mpr ⟨hf, hfate⟩
    exact ⟨c, hc, hf, hid, role, hrole⟩

/-- The files that are left unmatched, with the reasons. -/
def leftOver (files : List String) : List (String × Unmatched) :=
  rejected regex files ++ (rolelessOf (candidates regex buckets files)).map (·, .noRole)

theorem mem_leftOver {reason : Unmatched} :
    (f, reason) ∈ leftOver regex buckets files ↔
      f ∈ files ∧ Fate.ofRegex regex buckets f = .left reason := by
  rw [leftOver, List.mem_append, mem_rejected, List.mem_map]
  simp only [Prod.mk.injEq, mem_rolelessOf, mem_candidates]
  unfold Fate.ofRegex
  cases hid : groupIdOf regex f with
  | error u =>
    constructor
    · rintro (⟨hf, h⟩ | ⟨_, ⟨c, ⟨-, hok, -⟩, rfl, -⟩, rfl, -⟩)
      · exact ⟨hf, by rw [Except.error.inj h]⟩
      · rw [hid] at hok
        cases hok
    · rintro ⟨hf, h⟩
      exact Or.inl ⟨hf, by rw [Fate.left.inj h]⟩
  | ok id =>
    cases hrole : roleOf? buckets f with
    | none =>
      constructor
      · rintro (⟨-, h⟩ | ⟨_, ⟨c, ⟨hf, -⟩, rfl, -⟩, rfl, rfl⟩)
        · cases h
        · exact ⟨hf, rfl⟩
      · rintro ⟨hf, h⟩
        exact Or.inr ⟨f, ⟨⟨f, id, none⟩, ⟨hf, hid, hrole.symm⟩, rfl, rfl⟩, rfl, Fate.left.inj h⟩
    | some role =>
      constructor
      · rintro (⟨-, h⟩ | ⟨_, ⟨c, ⟨-, -, hc⟩, rfl, hnone⟩, rfl, -⟩)
        · cases h
        · rw [hnone, hrole] at hc
          cases hc
      · rintro ⟨-, h⟩
        cases h

theorem tells_ofCandidates (hn : files.Nodup) (f : String) :
    (ofCandidates (candidates regex buckets files) (rejected regex files)).Tells f
      (Fate.within files (Fate.ofRegex regex buckets) f) := by
  have hcs := hn.sublist (candidates_files_sublist regex buckets files)
  refine { groupId := ?_, role := ?_, reason := ?_, member_iff := ?_, unmatched_iff := ?_ }
  · apply Option.ext
    intro id
    exact (lookup_fileToGroupId _ hcs f id).trans
      ((exists_grouped_iff regex buckets).trans Fate.groupId?_within.symm)
  · apply Option.ext
    intro role
    rw [Fate.role?_within]
    change (tabulate _ (·.role?)).lookup f = some role ↔ _
    rw [lookup_tabulate, Option.bind_eq_some_iff]
    simp only [find?_eq_some_iff _ hcs]
    constructor
    · rintro ⟨c, ⟨hc, hf⟩, hrole⟩
      obtain ⟨hf, hfate⟩ := (exists_candidate_iff regex buckets).mp ⟨c, hc, hf, rfl, hrole⟩
      exact ⟨hf, c.groupId, hfate⟩
    · rintro ⟨hf, id, hfate⟩
      obtain ⟨c, hc, hf, -, hrole⟩ := (exists_candidate_iff regex buckets).mpr ⟨hf, hfate⟩
      exact ⟨c, ⟨hc, hf⟩, hrole⟩
  · apply Option.ext
    intro m
    rw [Fate.reason?_within]
    change (sortedMap ((leftOver regex buckets files).map fun u => (u.1, u.2.message))).lookup f =
      some m ↔ _
    rw [lookup_sortedMap, lookup_eq_some_iff_of_unique]
    · simp only [List.mem_map, Prod.exists, mem_leftOver, Prod.mk.injEq]
      constructor
      · rintro ⟨f, reason, ⟨hf, hfate⟩, rfl, rfl⟩
        exact ⟨hf, reason, hfate, rfl⟩
      · rintro ⟨hf, reason, hfate, rfl⟩
        exact ⟨f, reason, ⟨hf, hfate⟩, rfl, rfl⟩
    · intro k a b ha hb
      simp only [List.mem_map, Prod.exists, mem_leftOver, Prod.mk.injEq] at ha hb
      obtain ⟨_, u, ⟨-, hu⟩, rfl, rfl⟩ := ha
      obtain ⟨_, v, ⟨-, hv⟩, rfl, rfl⟩ := hb
      rw [hu] at hv
      rw [Fate.left.inj hv]
  · intro id
    rw [members_ofCandidates, mem_kept, exists_grouped_iff, Fate.groupId?_within]
  · have hfiles : (ofCandidates (candidates regex buckets files)
        (rejected regex files)).unmatchedFiles = (leftOver regex buckets files).map (·.1) := rfl
    rw [hfiles, List.mem_map, Option.isSome_iff_exists]
    simp only [Prod.exists, mem_leftOver, Fate.reason?_within]
    constructor
    · rintro ⟨f, reason, ⟨hf, hfate⟩, rfl⟩
      exact ⟨_, hf, reason, hfate, rfl⟩
    · rintro ⟨_, hf, reason, hfate, -⟩
      exact ⟨f, reason, ⟨hf, hfate⟩, rfl⟩

end Regex

theorem tells_ofUnmatched (files : List String) (reason : Unmatched) (f : String) :
    (ofUnmatched (files.map (·, reason))).Tells f (Fate.within files (fun _ => .left reason) f) := by
  have hreason : (Fate.within files (fun _ => .left reason) f).bind Fate.reason? =
      if f ∈ files then some reason.message else none := by
    unfold Fate.within
    split <;> rfl
  have hgroup : (Fate.within files (fun _ => .left reason) f).bind Fate.groupId? = none := by
    unfold Fate.within
    split <;> rfl
  have hrole : (Fate.within files (fun _ => .left reason) f).bind Fate.role? = none := by
    unfold Fate.within
    split <;> rfl
  refine { groupId := ?_, role := ?_, reason := ?_, member_iff := ?_, unmatched_iff := ?_ }
  · rw [hgroup]
    rfl
  · rw [hrole]
    rfl
  · rw [hreason, ofUnmatched, lookup_sortedMap, List.map_map]
    exact lookup_map_const files reason.message f
  · intro id
    rw [hgroup]
    simp [ofUnmatched, members]
  · rw [hreason]
    simp [ofUnmatched]

/-- A grouping tells of each of its files what becomes of it by the pattern and the rules. -/
theorem tells_ofFiles (files : List String) (pattern : String) (rules : List RoleRule) (f : String) :
    (ofFiles files pattern rules).Tells f (Fate.within files (Fate.of pattern rules) f) := by
  have hwithin (fate : String → Fate) :
      Fate.within files fate f = Fate.within (distinct files) fate f := by
    simp only [Fate.within, mem_distinct]
  rw [hwithin]
  unfold ofFiles Fate.of
  cases Regex.parse pattern true with
  | error e => exact tells_ofUnmatched (distinct files) _ f
  | ok regex => exact tells_ofCandidates regex _ (nodup_distinct files) f

namespace Consistent

variable {files files' : List String} {g g' : Grouping}

theorem groups_eq_map (h : g.Consistent files) :
    g.groups = (g.groups.map (·.1)).map fun id => (id, g.members id) := by
  rw [List.map_map]
  conv_lhs => rw [← List.map_id g.groups]
  apply List.map_congr_left
  intro e he
  change e = (e.1, g.members e.1)
  rw [h.members_eq_of_mem he]

/-- Groupings that tell the same of every file differ in the order of files only. -/
theorem reorders (h : g.Consistent files) (h' : g'.Consistent files') (fate : String → Option Fate)
    (hg : ∀ f, g.Tells f (fate f)) (hg' : ∀ f, g'.Tells f (fate f)) : g.Reorders g' := by
  have hmem (id f : String) : f ∈ g.members id ↔ f ∈ g'.members id := by
    rw [(hg f).member_iff, (hg' f).member_iff]
  have hkeys : g.groups.map (·.1) = g'.groups.map (·.1) := by
    refine List.Perm.eq_of_pairwise ?_ h.groups_ascend h'.groups_ascend ?_
    · intro a b _ _ hab hba
      exact absurd hba (lt_asymm hab)
    · rw [List.perm_ext_iff_of_nodup (h.groups_ascend.imp ne_of_lt)
        (h'.groups_ascend.imp ne_of_lt)]
      intro id
      simp only [h.mem_groupIds, h'.mem_groupIds, hmem]
  have hmembers (id : String) : (g.members id).Perm (g'.members id) := by
    rw [List.perm_ext_iff_of_nodup (h.nodup_members id) (h'.nodup_members id)]
    exact hmem id
  refine { groups := ?_, groupIds := ?_, roles := ?_, unmatched := ?_, reasons := ?_ }
  · rw [h.groups_eq_map, h'.groups_eq_map, hkeys, List.forall₂_map_left_iff,
      List.forall₂_map_right_iff, List.forall₂_same]
    exact fun id _ => ⟨rfl, hmembers id⟩
  · refine eq_of_lookup_eq _ _ h.groupIds_ascend h'.groupIds_ascend fun f => ?_
    rw [(hg f).groupId, (hg' f).groupId]
  · refine eq_of_lookup_eq _ _ h.roles_ascend h'.roles_ascend fun f => ?_
    rw [(hg f).role, (hg' f).role]
  · rw [List.perm_ext_iff_of_nodup h.unmatched_nodup h'.unmatched_nodup]
    intro f
    rw [(hg f).unmatched_iff, (hg' f).unmatched_iff]
  · refine eq_of_lookup_eq _ _ h.reasons_ascend h'.reasons_ascend fun f => ?_
    rw [(hg f).reason, (hg' f).reason]

end Consistent

section Independence

variable (pattern : String) (rules : List RoleRule) {files files' : List String}

theorem reorders_ofFiles (h : ∀ f, f ∈ files ↔ f ∈ files') :
    (ofFiles files pattern rules).Reorders (ofFiles files' pattern rules) := by
  have hwithin (f : String) : Fate.within files' (Fate.of pattern rules) f =
      Fate.within files (Fate.of pattern rules) f := by
    simp only [Fate.within, h]
  have hg := tells_ofFiles files pattern rules
  have hg' (f : String) := hwithin f ▸ tells_ofFiles files' pattern rules f
  unfold ofFiles at hg hg' ⊢
  dsimp only at hg hg' ⊢
  cases hp : Regex.parse pattern true with
  | error e =>
    rw [hp] at hg hg'
    exact (ofReason_consistent files _).reorders (ofReason_consistent files' _) _ hg hg'
  | ok regex =>
    rw [hp] at hg hg'
    exact (ofRegex_consistent files regex _).reorders (ofRegex_consistent files' regex _) _ hg hg'

/-- What becomes of a file does not depend on the other files, and the order of the files and their
repetitions show in the order of the files in a group and of the unmatched files only. -/
theorem ofFiles_independent (pattern : String) (rules : List RoleRule) (files files' : List String) :
    (∀ f ∈ files, f ∈ files' → ∃ fate : Fate,
      (ofFiles files pattern rules).Tells f (some fate) ∧
        (ofFiles files' pattern rules).Tells f (some fate)) ∧
    ((∀ f, f ∈ files ↔ f ∈ files') →
      (ofFiles files pattern rules).Reorders (ofFiles files' pattern rules)) := by
  refine ⟨?_, reorders_ofFiles pattern rules⟩
  intro f hf hf'
  have hg := tells_ofFiles files pattern rules f
  have hg' := tells_ofFiles files' pattern rules f
  rw [Fate.within, if_pos hf] at hg
  rw [Fate.within, if_pos hf'] at hg'
  exact ⟨Fate.of pattern rules f, hg, hg'⟩

theorem ofFiles_independent_repeated :
    let first := ["car1_back.jpg", "readme.txt", "car1_front.jpg", "car2_side.jpg"]
    let second := ["car1_front.jpg", "car1_back.jpg", "car1_front.jpg", "car2_side.jpg", "readme.txt"]
    let rules : List RoleRule :=
      [⟨.front, .contains, "front", false, 0⟩, ⟨.rear, .contains, "back", false, 1⟩]
    (∀ f, f ∈ first ↔ f ∈ second) ∧
      (ofFiles first "^(\\w+)_" rules).Reorders (ofFiles second "^(\\w+)_" rules) ∧
      ∃ fate : Fate, (ofFiles first "^(\\w+)_" rules).Tells "car2_side.jpg" (some fate) ∧
        (ofFiles second "^(\\w+)_" rules).Tells "car2_side.jpg" (some fate) := by
  intro first second rules
  have hsame (f : String) : f ∈ first ↔ f ∈ second := by
    simp only [first, second, List.mem_cons, List.not_mem_nil, or_false]
    tauto
  obtain ⟨hfile, hlists⟩ := ofFiles_independent "^(\\w+)_" rules first second
  exact ⟨hsame, hlists hsame, hfile "car2_side.jpg" (by decide) (by decide)⟩

end Independence

end PhotoGrouping.Grouping
