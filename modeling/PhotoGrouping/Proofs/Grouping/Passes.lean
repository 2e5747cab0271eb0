import PhotoGrouping.Proofs.Grouping.Candidates

namespace PhotoGrouping

open Text

theorem RoleRule.mem_forRole (rules : List RoleRule) (role : Role) (r : RoleRule) :
    r ∈ RoleRule.forRole rules role ↔ r ∈ rules ∧ r.role = role := by
  rw [RoleRule.forRole, (List.mergeSort_perm _ _).mem_iff, List.mem_filter, decide_eq_true_eq]

/-- Reading an override beforehand changes nothing about what it matches. -/
theorem PreparedRule.isMatch_of (r : RoleRule) (file : String) :
    (PreparedRule.of r).isMatch file = r.isMatch file := by
  unfold PreparedRule.of PreparedRule.isMatch
  by_cases ht : r.type = .override
  · cases hb : r.isBlank with
    | true => simp [ht, hb, RoleRule.isMatch]
    | false =>
      cases hr : r.regex with
      | ok regex => simp [ht, hb, hr, RoleRule.isMatch, Except.toOption]
      | error e => simp [ht, hb, hr, RoleRule.isMatch, Except.toOption]
  · simp [ht]

/-- Whether some rule for a role matches a file. -/
def Role.claims (rules : List RoleRule) (file : String) (role : Role) : Bool :=
  rules.any fun r => r.role = role && r.isMatch file

theorem any_prepared (rules : List RoleRule) (role : Role) (file : String) :
    (((RoleRule.forRole rules role).map PreparedRule.of).any fun p => p.isMatch file) =
      role.claims rules file := by
  rw [Bool.eq_iff_iff, List.any_map, List.any_eq_true, Role.claims, List.any_eq_true]
  constructor
  · rintro ⟨r, hr, hm⟩
    obtain ⟨hr, hrole⟩ := (RoleRule.mem_forRole rules role r).mp hr
    rw [Function.comp_apply, PreparedRule.isMatch_of] at hm
    exact ⟨r, hr, by simp [hrole, hm]⟩
  · rintro ⟨r, hr, hm⟩
    rw [Bool.and_eq_true, decide_eq_true_eq] at hm
    refine ⟨r, (RoleRule.mem_forRole rules role r).mpr ⟨hr, hm.1⟩, ?_⟩
    rw [Function.comp_apply, PreparedRule.isMatch_of]
    exact hm.2

/-- A file gets the first role that claims it, overviews before fronts before rears. -/
theorem roleOf?_prepared (rules : List RoleRule) (file : String) :
    roleOf? (preparedBuckets rules) file =
      Role.precedence.find? fun role => role.claims rules file := by
  unfold roleOf? preparedBuckets
  rw [List.find?_map, Option.map_map]
  simp only [Function.comp_def, any_prepared, Option.map_id']

/-- A grouping under way: the groups with their files, the roles given so far, and the files that
the pattern turns away. -/
structure Draft where
  groups : List (String × List String) := []
  roles : List (String × Role) := []
  unmatched : List (String × Unmatched) := []

namespace Draft

/-- The group id of a file: what the first group of the first match took, unless that is blank. -/
def captured (regex : Regex) (file : String) : Except Unmatched String :=
  match regex.search file.toList with
  | none => .error .noMatch
  | some slots =>
    match slots.text? file.toList 1 with
    | some id => if trim id = "" then .error .emptyGroupId else .ok id
    | none => .error .emptyGroupId

/-- Groups with a file added to one of them, which is opened if it is not there. -/
def join (id file : String) : List (String × List String) → List (String × List String)
  | [] => [(id, [file])]
  | (i, fs) :: rest => if i = id then (i, fs ++ [file]) :: rest else (i, fs) :: join id file rest

/-- The first pass: a file joins the group of its capture or is turned away. -/
def place (regex : Regex) (d : Draft) (file : String) : Draft :=
  match captured regex file with
  | .ok id => { d with groups := join id file d.groups }
  | .error u => { d with unmatched := d.unmatched ++ [(file, u)] }

def members (d : Draft) : List String :=
  d.groups.flatMap (·.2)

/-- Gives a file a role if it has none yet and a rule for the role matches it. -/
def give (rules : List RoleRule) (role : Role) (roles : List (String × Role)) (file : String) :
    List (String × Role) :=
  if (roles.lookup file).isNone && role.claims rules file then roles ++ [(file, role)] else roles

/-- A pass for one role over the files of all groups. -/
def assign (rules : List RoleRule) (d : Draft) (role : Role) : Draft :=
  { d with roles := d.members.foldl (give rules role) d.roles }

/-- The files without a role leave their groups, and groups without files are dropped. -/
def settle (d : Draft) : Grouping :=
  let hasRole (file : String) : Bool := (d.roles.lookup file).isSome
  let roleless := d.members.filter (!hasRole ·)
  let unmatched := d.unmatched ++ roleless.map (·, Unmatched.noRole)
  { groups := Grouping.sortedMap (d.groups.filterMap fun (id, fs) =>
      match fs.filter hasRole with
      | [] => none
      | fs => some (id, fs))
    fileToGroupId := Grouping.sortedMap (d.groups.flatMap fun (id, fs) =>
      (fs.filter hasRole).map (·, id))
    fileToRole := Grouping.sortedMap d.roles
    unmatchedFiles := unmatched.map (·.1)
    unmatchedReasons := Grouping.sortedMap (unmatched.map fun u => (u.1, u.2.message)) }

/-- The draft after all passes: one over the files for the groups, and one for each role. -/
def ofFiles (regex : Regex) (files : List String) (rules : List RoleRule) : Draft :=
  [Role.overview, .front, .rear].foldl (assign rules) ((distinct files).foldl (place regex) {})

theorem captured_eq (regex : Regex) (file : String) : captured regex file = groupIdOf regex file := by
  unfold captured groupIdOf
  dsimp only
  cases regex.search file.toList with
  | none => rfl
  | some slots =>
    dsimp only
    cases slots.text? file.toList 1 with
    | none => rfl
    | some id =>
      have hb : trim id = "" ↔ isBlankText id = true := by
        rw [trim, isBlankText, ← trimmed_eq_nil_iff, ← String.toList_inj, String.toList_ofList]
        rfl
      simp only [hb]

section First

theorem lookup_join (gs : List (String × List String)) (id file i : String) :
    (join id file gs).lookup i =
      if i = id then some ((gs.lookup id).getD [] ++ [file]) else gs.lookup i := by
  induction gs with
  | nil => simp [join, lookup_cons_eq]
  | cons g gs ih =>
    obtain ⟨j, fs⟩ := g
    rw [join]
    by_cases hj : j = id
    · subst hj
      by_cases hi : i = j <;> simp [hi, lookup_cons_eq]
    · rw [if_neg hj, lookup_cons_eq, lookup_cons_eq, lookup_cons_eq, if_neg (Ne.symm hj), ih]
      by_cases hi : i = j
      · subst hi
        simp [hj]
      · simp [hi]

theorem keys_join_nodup (gs : List (String × List String)) (id file : String)
    (h : (gs.map (·.1)).Nodup) : ((join id file gs).map (·.1)).Nodup := by
  have hkeys (gs : List (String × List String)) (i : String) :
      i ∈ (join id file gs).map (·.1) ↔ i = id ∨ i ∈ gs.map (·.1) := by
    rw [← lookup_isSome_iff, ← lookup_isSome_iff, lookup_join]
    by_cases hi : i = id <;> simp [hi]
  induction gs with
  | nil => simp [join]
  | cons g gs ih =>
    obtain ⟨j, fs⟩ := g
    obtain ⟨hj, hgs⟩ := List.nodup_cons.mp h
    rw [join]
    split
    · exact h
    · rename_i hne
      refine List.nodup_cons.mpr ⟨?_, ih hgs⟩
      rw [hkeys, not_or]
      exact ⟨hne, hj⟩

/-- What the first pass leaves after some files. -/
structure Placed (regex : Regex) (files : List String) (d : Draft) : Prop where
  members : ∀ id, (d.groups.lookup id).getD [] =
    files.filter fun f => (captured regex f).toOption = some id
  keys_nodup : (d.groups.map (·.1)).Nodup
  unmatched : d.unmatched = Grouping.rejected regex files

theorem Placed.place (regex : Regex) (files : List String) (d : Draft) (f : String)
    (h : Placed regex files d) : Placed regex (files ++ [f]) (d.place regex f) := by
  unfold Draft.place
  cases hc : captured regex f with
  | ok id =>
    have hg : groupIdOf regex f = .ok id := (captured_eq regex f).symm.trans hc
    refine ⟨?_, keys_join_nodup d.groups id f h.keys_nodup, ?_⟩
    · intro i
      rw [lookup_join, List.filter_append]
      by_cases hi : i = id
      · subst hi
        simp [h.members, hc, Except.toOption]
      · simp [h.members, hc, hi, Ne.symm hi, Except.toOption]
    · simp [Grouping.rejected, List.filterMap_append, hg, h.unmatched]
  | error u =>
    have hg : groupIdOf regex f = .error u := (captured_eq regex f).symm.trans hc
    refine ⟨?_, h.keys_nodup, ?_⟩
    · intro i
      rw [h.members, List.filter_append]
      simp [hc, Except.toOption]
    · simp [Grouping.rejected, List.filterMap_append, hg, h.unmatched]

theorem placed_foldl (regex : Regex) (files more : List String) (d : Draft)
    (h : Placed regex files d) :
    Placed regex (files ++ more) (more.foldl (Draft.place regex) d) := by
  induction more generalizing files d with
  | nil => simpa using h
  | cons f more ih =>
    have h2 := ih (files ++ [f]) (d.place regex f) (h.place regex files d f)
    rwa [List.append_assoc] at h2

/-- The groups after the first pass hold the files of their captures. -/
theorem placed_all (regex : Regex) (files : List String) :
    Placed regex files (files.foldl (Draft.place regex) {}) :=
  placed_foldl regex [] files {} ⟨by simp, by simp, rfl⟩

/-- The first pass gives no roles. -/
theorem roles_foldl_place (regex : Regex) (files : List String) (d : Draft) :
    (files.foldl (Draft.place regex) d).roles = d.roles := by
  induction files generalizing d with
  | nil => rfl
  | cons f files ih =>
    rw [List.foldl_cons, ih]
    unfold Draft.place
    split <;> rfl

variable (regex : Regex) (files : List String) (d : Draft) (h : Placed regex files d)

include h

theorem Placed.eq_filter (id : String) (fs : List String) (hg : (id, fs) ∈ d.groups) :
    fs = files.filter fun f => (captured regex f).toOption = some id := by
  rw [← h.members, (lookup_eq_some_iff_of_nodup d.groups h.keys_nodup id fs).mpr hg,
    Option.getD_some]

theorem Placed.mem_group (id f : String) :
    (∃ fs, (id, fs) ∈ d.groups ∧ f ∈ fs) ↔ f ∈ files ∧ groupIdOf regex f = .ok id := by
  have hok : (captured regex f).toOption = some id ↔ groupIdOf regex f = .ok id := by
    rw [captured_eq]
    cases groupIdOf regex f <;> simp [Except.toOption]
  constructor
  · rintro ⟨fs, hg, hf⟩
    rw [h.eq_filter regex files d id fs hg, List.mem_filter, decide_eq_true_eq, hok] at hf
    exact hf
  · rintro ⟨hf, hid⟩
    have hm : f ∈ (d.groups.lookup id).getD [] := by
      rw [h.members, List.mem_filter, decide_eq_true_eq, hok]
      exact ⟨hf, hid⟩
    cases hl : d.groups.lookup id with
    | none => simp [hl] at hm
    | some fs => exact ⟨fs, mem_of_lookup_eq_some d.groups id fs hl, by simpa [hl] using hm⟩

theorem Placed.members_nodup (hn : files.Nodup) : d.members.Nodup := by
  unfold Draft.members
  rw [List.nodup_flatMap]
  constructor
  · rintro ⟨id, fs⟩ hg
    rw [h.eq_filter regex files d id fs hg]
    exact hn.filter _
  · refine (List.pairwise_map.mp h.keys_nodup).imp_of_mem ?_
    rintro ⟨i, fs⟩ ⟨j, gs⟩ hi hj hij f hf hg
    have h1 := (h.mem_group regex files d i f).mp ⟨fs, hi, hf⟩
    have h2 := (h.mem_group regex files d j f).mp ⟨gs, hj, hg⟩
    rw [h1.2] at h2
    exact hij (by simpa using h2.2)

theorem Placed.mem_members (f : String) :
    f ∈ d.members ↔ f ∈ files ∧ ∃ id, groupIdOf regex f = .ok id := by
  unfold Draft.members
  rw [List.mem_flatMap]
  constructor
  · rintro ⟨⟨id, fs⟩, hg, hf⟩
    obtain ⟨hf, hid⟩ := (h.mem_group regex files d id f).mp ⟨fs, hg, hf⟩
    exact ⟨hf, id, hid⟩
  · rintro ⟨hf, id, hid⟩
    obtain ⟨fs, hg, hf⟩ := (h.mem_group regex files d id f).mpr ⟨hf, hid⟩
    exact ⟨(id, fs), hg, hf⟩

end First

section Roles

variable (rules : List RoleRule)

theorem lookup_foldl_give (role : Role) (files : List String) (roles : List (String × Role))
    (f : String) :
    (files.foldl (give rules role) roles).lookup f =
      (roles.lookup f).or (if f ∈ files && role.claims rules f then some role else none) := by
  induction files generalizing roles with
  | nil => simp
  | cons x files ih =>
    have hgive : (give rules role roles x).lookup f =
        (roles.lookup f).or (if f = x && role.claims rules x then some role else none) := by
      unfold give
      by_cases hx : f = x
      · subst hx
        cases hl : roles.lookup f <;> cases hc : role.claims rules f <;>
          simp [hl, List.lookup_append]
      · split <;> simp [hx, List.lookup_append, lookup_cons_eq]
    rw [List.foldl_cons, ih, hgive, Option.or_assoc]
    by_cases hx : f = x
    · subst hx
      cases role.claims rules f <;> simp
    · simp [hx]

theorem foldl_assign_groups (order : List Role) (d : Draft) :
    (order.foldl (assign rules) d).groups = d.groups ∧
      (order.foldl (assign rules) d).unmatched = d.unmatched := by
  induction order generalizing d with
  | nil => exact ⟨rfl, rfl⟩
  | cons role order ih => exact ih (d.assign rules role)

/-- After passes for roles in some order a file of a group has the first of them that claims it,
unless it had a role before. -/
theorem lookup_foldl_assign (order : List Role) (d : Draft) (f : String) :
    (order.foldl (assign rules) d).roles.lookup f =
      (d.roles.lookup f).or
        (if f ∈ d.members then order.find? (fun role => role.claims rules f) else none) := by
  induction order generalizing d with
  | nil => simp
  | cons role order ih =>
    have hm : (d.assign rules role).members = d.members := rfl
    have hr : (d.assign rules role).roles = d.members.foldl (give rules role) d.roles := rfl
    rw [List.foldl_cons, ih, hm, hr, lookup_foldl_give, Option.or_assoc]
    by_cases hf : f ∈ d.members
    · cases hc : role.claims rules f <;> simp [hf, hc]
    · simp [hf]

end Roles

section Settle

variable (regex : Regex) (files : List String) (d : Draft)
  (buckets : List (Role × List PreparedRule))

/-- What the passes leave: groups by capture, and each file in them with the role of its bucket. -/
structure Assigned : Prop extends Placed regex files d where
  role_eq : ∀ f, d.roles.lookup f = if f ∈ d.members then roleOf? buckets f else none

variable (h : Assigned regex files d buckets)

include h

theorem Assigned.mem_members (f : String) :
    f ∈ d.members ↔ ∃ c ∈ Grouping.candidates regex buckets files, c.file = f := by
  rw [h.toPlaced.mem_members]
  constructor
  · rintro ⟨hf, id, hid⟩
    exact ⟨⟨f, id, roleOf? buckets f⟩,
      (Grouping.mem_candidates regex buckets files _).mpr ⟨hf, hid, rfl⟩, rfl⟩
  · rintro ⟨c, hc, rfl⟩
    obtain ⟨hf, hid, _⟩ := (Grouping.mem_candidates regex buckets files c).mp hc
    exact ⟨hf, c.groupId, hid⟩

theorem Assigned.isSome_of_mem (f : String) (hf : f ∈ d.members) :
    (d.roles.lookup f).isSome = (roleOf? buckets f).isSome := by
  rw [h.role_eq, if_pos hf]

theorem Assigned.filter_eq_kept (id : String) (fs : List String) (hg : (id, fs) ∈ d.groups) :
    fs.filter (fun f => (d.roles.lookup f).isSome) =
      Grouping.kept (Grouping.candidates regex buckets files) id := by
  have hfs := h.toPlaced.eq_filter regex files d id fs hg
  have hrole : ∀ f ∈ fs, (d.roles.lookup f).isSome = (roleOf? buckets f).isSome := by
    intro f hf
    exact h.isSome_of_mem regex files d buckets f (List.mem_flatMap.mpr ⟨(id, fs), hg, hf⟩)
  rw [List.filter_congr hrole, Grouping.kept_candidates, hfs, List.filter_filter]
  simp only [captured_eq, Bool.and_comm]

theorem Assigned.groups_eq :
    d.settle.groups = Grouping.groupsOf (Grouping.candidates regex buckets files) := by
  let cs := Grouping.candidates regex buckets files
  let nonempty (g : String × List String) : Option (String × List String) :=
    match g.2.filter (fun f => (d.roles.lookup f).isSome) with
    | [] => none
    | fs => some (g.1, fs)
  have hmem (id : String) (fs : List String) :
      (id, fs) ∈ d.groups.filterMap nonempty ↔ (id, fs) ∈ Grouping.groupsOf cs := by
    rw [List.mem_filterMap, Grouping.mem_groupsOf]
    constructor
    · rintro ⟨⟨i, gs⟩, hg, hn⟩
      have hk := h.filter_eq_kept regex files d buckets i gs hg
      dsimp only [nonempty] at hn
      split at hn
      · cases hn
      · rename_i hne
        rw [hk] at hn hne
        cases hn
        exact ⟨rfl, hne⟩
    · rintro ⟨rfl, hne⟩
      obtain ⟨f, hf⟩ := List.exists_mem_of_ne_nil _ hne
      obtain ⟨c, hc, _, hid, _⟩ := (Grouping.mem_kept cs id f).mp hf
      have hcm := (Grouping.mem_candidates regex buckets files c).mp hc
      obtain ⟨gs, hg, _⟩ := (h.toPlaced.mem_group regex files d id c.file).mpr
        ⟨hcm.1, hid ▸ hcm.2.1⟩
      refine ⟨(id, gs), hg, ?_⟩
      have hk := h.filter_eq_kept regex files d buckets id gs hg
      dsimp only [nonempty]
      split
      · rename_i hnil
        exact absurd (hk.symm.trans hnil) hne
      · rw [hk]
  have hunique (k : String) (a b : List String) (ha : (k, a) ∈ d.groups.filterMap nonempty)
      (hb : (k, b) ∈ d.groups.filterMap nonempty) : a = b := by
    rw [hmem, Grouping.mem_groupsOf] at ha hb
    exact ha.1.trans hb.1.symm
  refine eq_of_lookup_eq _ _ (Grouping.sortedMap_pairwise _) (Grouping.groupsOf_pairwise cs) ?_
  intro k
  apply Option.ext
  intro a
  change (Grouping.sortedMap (d.groups.filterMap nonempty)).lookup k = some a ↔ _
  rw [Grouping.lookup_sortedMap, lookup_eq_some_iff_of_unique _ hunique, hmem,
    lookup_eq_some_iff_of_nodup _ ((Grouping.groupsOf_pairwise cs).imp ne_of_lt)]

theorem Assigned.mem_kept (id f : String) :
    (f, id) ∈ (d.groups.flatMap fun (id, fs) =>
        (fs.filter fun f => (d.roles.lookup f).isSome).map (·, id)) ↔
      f ∈ Grouping.kept (Grouping.candidates regex buckets files) id := by
  rw [List.mem_flatMap]
  constructor
  · rintro ⟨⟨i, fs⟩, hg, hm⟩
    obtain ⟨x, hf, he⟩ := List.mem_map.mp hm
    cases he
    rwa [h.filter_eq_kept regex files d buckets id fs hg] at hf
  · intro hf
    obtain ⟨c, hc, _, hid, _⟩ := (Grouping.mem_kept _ id f).mp hf
    have hcm := (Grouping.mem_candidates regex buckets files c).mp hc
    obtain ⟨fs, hg, _⟩ := (h.toPlaced.mem_group regex files d id c.file).mpr
      ⟨hcm.1, hid ▸ hcm.2.1⟩
    refine ⟨(id, fs), hg, List.mem_map.mpr ⟨f, ?_, rfl⟩⟩
    rwa [h.filter_eq_kept regex files d buckets id fs hg]

theorem Assigned.fileToGroupId_eq (hn : files.Nodup) :
    d.settle.fileToGroupId =
      Grouping.tabulate (Grouping.candidates regex buckets files) Grouping.grouped? := by
  let cs := Grouping.candidates regex buckets files
  have hcs : (cs.map (·.file)).Nodup :=
    hn.sublist (Grouping.candidates_files_sublist regex buckets files)
  have hmem (f id : String) := (h.mem_kept regex files d buckets id f).trans
    ((Grouping.mem_kept cs id f).trans (Grouping.lookup_fileToGroupId cs hcs f id).symm)
  refine eq_of_lookup_eq _ _ (Grouping.sortedMap_pairwise _)
    (Grouping.tabulate_pairwise cs Grouping.grouped?) ?_
  intro f
  apply Option.ext
  intro id
  refine Iff.trans ?_ (hmem f id)
  rw [settle, Grouping.lookup_sortedMap]
  apply lookup_eq_some_iff_of_unique
  intro f i j hi hj
  rw [hmem] at hi hj
  exact Option.some.inj (hi.symm.trans hj)

theorem Assigned.fileToRole_eq (hn : files.Nodup) :
    d.settle.fileToRole =
      Grouping.tabulate (Grouping.candidates regex buckets files) (·.role?) := by
  let cs := Grouping.candidates regex buckets files
  have hcs : (cs.map (·.file)).Nodup :=
    hn.sublist (Grouping.candidates_files_sublist regex buckets files)
  refine eq_of_lookup_eq _ _ (Grouping.sortedMap_pairwise _)
    (Grouping.tabulate_pairwise cs (·.role?)) ?_
  intro f
  rw [settle, Grouping.lookup_sortedMap, Grouping.lookup_tabulate, h.role_eq]
  split
  · rename_i hf
    obtain ⟨c, hc, rfl⟩ := (h.mem_members regex files d buckets f).mp hf
    rw [(Grouping.find?_eq_some_iff cs hcs c.file c).mpr ⟨hc, rfl⟩]
    exact ((Grouping.mem_candidates regex buckets files c).mp hc).2.2.symm
  · rename_i hf
    have hnone : cs.find? (·.file = f) = none := by
      rw [List.find?_eq_none]
      intro c hc he
      exact hf ((h.mem_members regex files d buckets f).mpr ⟨c, hc, by simpa using he⟩)
    rw [hnone]
    rfl

/-- The files that the passes leave without a role are the candidates without one. -/
theorem Assigned.roleless_perm (hn : files.Nodup) :
    (Grouping.rolelessOf (Grouping.candidates regex buckets files)).Perm
      (d.members.filter fun f => !(d.roles.lookup f).isSome) := by
  have hcs := hn.sublist (Grouping.candidates_files_sublist regex buckets files)
  have hm := h.toPlaced.members_nodup regex files d hn
  rw [List.perm_ext_iff_of_nodup (Grouping.rolelessOf_nodup _ hcs) (hm.filter _)]
  intro f
  rw [Grouping.mem_rolelessOf, List.mem_filter, h.mem_members]
  constructor
  · rintro ⟨c, hc, rfl, hr⟩
    refine ⟨⟨c, hc, rfl⟩, ?_⟩
    rw [((Grouping.mem_candidates regex buckets files c).mp hc).2.2] at hr
    rw [h.isSome_of_mem regex files d buckets c.file
      ((h.mem_members regex files d buckets c.file).mpr ⟨c, hc, rfl⟩), hr]
    rfl
  · rintro ⟨⟨c, hc, rfl⟩, hr⟩
    refine ⟨c, hc, rfl, ?_⟩
    rw [h.isSome_of_mem regex files d buckets c.file
      ((h.mem_members regex files d buckets c.file).mpr ⟨c, hc, rfl⟩),
      ← ((Grouping.mem_candidates regex buckets files c).mp hc).2.2] at hr
    simpa using hr

theorem Assigned.unmatchedFiles_perm (hn : files.Nodup) :
    (Grouping.ofCandidates (Grouping.candidates regex buckets files)
      (Grouping.rejected regex files)).unmatchedFiles.Perm d.settle.unmatchedFiles := by
  have hd : d.settle.unmatchedFiles = (Grouping.rejected regex files).map (·.1) ++
      d.members.filter fun f => !(d.roles.lookup f).isSome := by
    simp [settle, h.unmatched, Function.comp_def]
  rw [Grouping.unmatchedFiles_eq, hd]
  exact (h.roleless_perm regex files d buckets hn).append_left _

theorem Assigned.unmatchedReasons_eq (hn : files.Nodup) :
    (Grouping.ofCandidates (Grouping.candidates regex buckets files)
      (Grouping.rejected regex files)).unmatchedReasons = d.settle.unmatchedReasons := by
  refine eq_of_lookup_eq _ _ (Grouping.sortedMap_pairwise _) (Grouping.sortedMap_pairwise _) ?_
  intro f
  rw [Grouping.ofCandidates, settle, Grouping.lookup_sortedMap, Grouping.lookup_sortedMap,
    h.unmatched, List.map_append, List.map_append, List.lookup_append, List.lookup_append,
    List.map_map, List.map_map]
  refine congrArg _ ?_
  change ((Grouping.rolelessOf _).map (·, Unmatched.noRole.message)).lookup f =
    ((d.members.filter _).map (·, Unmatched.noRole.message)).lookup f
  rw [lookup_map_const, lookup_map_const]
  simp only [(h.roleless_perm regex files d buckets hn).mem_iff]

end Settle

theorem assigned_ofFiles (regex : Regex) (files : List String) (rules : List RoleRule) :
    Assigned regex (distinct files) (ofFiles regex files rules) (preparedBuckets rules) := by
  let first := (distinct files).foldl (place regex) {}
  obtain ⟨hg, hu⟩ := foldl_assign_groups rules [.overview, .front, .rear] first
  have hp := placed_all regex (distinct files)
  refine { members := ?_, keys_nodup := ?_, unmatched := ?_, role_eq := ?_ }
  · rw [ofFiles, hg]
    exact hp.members
  · rw [ofFiles, hg]
    exact hp.keys_nodup
  · rw [ofFiles, hu]
    exact hp.unmatched
  · intro f
    rw [ofFiles, lookup_foldl_assign, roles_foldl_place, roleOf?_prepared]
    unfold members
    rw [hg]
    rfl

end Draft

/-- The grouping of files in passes, in which every rule is read anew for every file. -/
def Grouping.inPasses (files : List String) (pattern : String) (rules : List RoleRule) : Grouping :=
  match Regex.parse pattern true with
  | .error e => ofUnmatched ((distinct files).map (·, .invalidPattern (e.message)))
  | .ok regex => (Draft.ofFiles regex files rules).settle

/-- Looking for the first role of each file, with overrides read beforehand, groups files as passes
over the groups do, one for each role. -/
theorem Grouping.ofFiles_eq_inPasses (files : List String) (pattern : String)
    (rules : List RoleRule) :
    let g := ofFiles files pattern rules
    let p := inPasses files pattern rules
    g.groups = p.groups ∧ g.fileToGroupId = p.fileToGroupId ∧ g.fileToRole = p.fileToRole ∧
      g.unmatchedFiles.Perm p.unmatchedFiles ∧ g.unmatchedReasons = p.unmatchedReasons := by
  unfold ofFiles inPasses
  dsimp only
  cases Regex.parse pattern true with
  | error e => exact ⟨rfl, rfl, rfl, List.Perm.refl _, rfl⟩
  | ok regex =>
    have ha := Draft.assigned_ofFiles regex files rules
    have hn := nodup_distinct files
    exact ⟨(ha.groups_eq regex _ _ _).symm, (ha.fileToGroupId_eq regex _ _ _ hn).symm,
      (ha.fileToRole_eq regex _ _ _ hn).symm, ha.unmatchedFiles_perm regex _ _ _ hn,
      ha.unmatchedReasons_eq regex _ _ _ hn⟩

end PhotoGrouping
