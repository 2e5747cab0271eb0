import PhotoGrouping.Proofs.Grouping.Passes
import PhotoGrouping.Validation.Samples

namespace PhotoGrouping

/-- Whether a list of rules comes from another one by reordering rules, giving them other priorities
and repeating them. -/
inductive RoleRule.Rearranged : List RoleRule → List RoleRule → Prop
  | reorder {rs rs' : List RoleRule} (h : rs.Perm rs') : Rearranged rs rs'
  | reprioritize {rs rs' : List RoleRule}
      (h : List.Forall₂ (fun r r' => ∃ p, r' = { r with priority := p }) rs rs') : Rearranged rs rs'
  | again {rs : List RoleRule} {r : RoleRule} (h : r ∈ rs) : Rearranged rs (r :: rs)
  | trans {rs rs' rs'' : List RoleRule} (h : Rearranged rs rs') (h' : Rearranged rs' rs'') :
      Rearranged rs rs''

variable {rs rs' : List RoleRule}

/-- What holds of some rule whatever its priority holds of some rule after a rearrangement, and the
other way round. -/
theorem RoleRule.Rearranged.any_eq (h : Rearranged rs rs') {P : RoleRule → Bool}
    (hP : ∀ r p, P { r with priority := p } = P r) : rs.any P = rs'.any P := by
  induction h with
  | reorder h => exact h.any_eq
  | reprioritize h =>
    induction h with
    | nil => rfl
    | @cons r _ _ _ hr _ ih =>
      obtain ⟨p, rfl⟩ := hr
      rw [List.any_cons, List.any_cons, hP r p, ih]
  | @again rs r h =>
    rw [List.any_cons]
    cases hr : P r with
    | false => rfl
    | true => exact List.any_eq_true.mpr ⟨r, h, hr⟩
  | trans _ _ ih ih' => exact ih.trans ih'

theorem RoleRule.Rearranged.claims_eq (h : Rearranged rs rs') (role : Role) (file : String) :
    role.claims rs file = role.claims rs' file :=
  h.any_eq fun _ _ => rfl

/-- A grouping depends on the rules only by which roles they let claim which files. -/
theorem Grouping.ofFiles_congr (files : List String) (pattern : String)
    (h : ∀ (role : Role) file, role.claims rs file = role.claims rs' file) :
    ofFiles files pattern rs = ofFiles files pattern rs' := by
  have hroles : roleOf? (preparedBuckets rs) = roleOf? (preparedBuckets rs') := by
    funext file
    rw [roleOf?_prepared, roleOf?_prepared]
    congr 1
    funext role
    exact h role file
  have hcandidates : ∀ regex : Regex,
      candidates regex (preparedBuckets rs) = candidates regex (preparedBuckets rs') := by
    intro regex
    funext files
    unfold candidates
    rw [hroles]
  unfold ofFiles
  dsimp only
  split
  · rfl
  · rw [hcandidates]

/-- Samples are grouped alike: roles without rules get the same overrides, before rules of the same
claims. -/
theorem RoleRule.Rearranged.claims_sampleRules (h : Rearranged rs rs') (c : PatternConfig)
    (role : Role) (file : String) :
    role.claims (Validation.sampleRules { c with roleRules := rs }) file =
      role.claims (Validation.sampleRules { c with roleRules := rs' }) file := by
  have hruled : ∀ role : Role, rs.any (·.role = role) = rs'.any (·.role = role) :=
    fun _ => h.any_eq fun _ _ => rfl
  have hpattern : ∀ role, ({ c with roleRules := rs } : PatternConfig).rolePattern? role =
      ({ c with roleRules := rs' } : PatternConfig).rolePattern? role := by
    intro role
    cases role with
    | front => rfl
    | rear => rfl
    | overview => rfl
  have hrest := h.claims_eq role file
  unfold Role.claims at hrest ⊢
  unfold Validation.sampleRules
  dsimp only
  simp only [hruled, hpattern, List.any_append, hrest]

/-- The order of the rules, their priorities and how often each is given change neither a grouping
nor the report on samples. -/
theorem grouping_rearranged (h : RoleRule.Rearranged rs rs') :
    (∀ files pattern, Grouping.ofFiles files pattern rs = Grouping.ofFiles files pattern rs') ∧
      ∀ (c : PatternConfig) files,
        Validation.samples { c with roleRules := rs } files =
          Validation.samples { c with roleRules := rs' } files := by
  refine ⟨fun files pattern => Grouping.ofFiles_congr files pattern h.claims_eq, ?_⟩
  intro c files
  have hgrouping := fun pattern => Grouping.ofFiles_congr files pattern (h.claims_sampleRules c)
  unfold Validation.samples
  simp only [hgrouping]
  rfl

/-- Two rules that match the same photo, the other way round, the second one twice and with
priorities that would reverse them. -/
theorem grouping_rearranged_overlap :
    let front : RoleRule := ⟨.front, .contains, "car", false, 1⟩
    let overview : RoleRule := ⟨.overview, .override, "^car_\\d+", true, 2⟩
    let rearranged : List RoleRule :=
      [{ overview with priority := 2 }, { overview with priority := 0 },
        { front with priority := -4 }]
    RoleRule.Rearranged [front, overview] rearranged ∧
      Grouping.ofFiles ["car_1.jpg"] "^(\\w+)_" [front, overview] =
        Grouping.ofFiles ["car_1.jpg"] "^(\\w+)_" rearranged := by
  intro front overview rearranged
  have h : RoleRule.Rearranged [front, overview] rearranged :=
    .trans (.trans (.reorder (List.Perm.swap overview front [])) (.again (by simp)))
      (.reprioritize (.cons ⟨2, rfl⟩ (.cons ⟨0, rfl⟩ (.cons ⟨-4, rfl⟩ .nil))))
  exact ⟨h, (grouping_rearranged h).1 _ _⟩

end PhotoGrouping
