import PhotoGrouping.Proofs.SegmentLabel.Store

namespace PhotoGrouping

open Text

namespace LabelStep

/-- Whether a step bears on a value: it records or removes a decision on the value in whatever case, or it
clears all decisions. -/
def Touches (value : String) : LabelStep → Prop
  | .set l => lowercase l.value = lowercase value
  | .remove other => lowercase other = lowercase value
  | .clear => True

instance (value : String) : DecidablePred (Touches value) := fun x =>
  match x with
  | .set l => inferInstanceAs (Decidable (lowercase l.value = lowercase value))
  | .remove other => inferInstanceAs (Decidable (lowercase other = lowercase value))
  | .clear => isTrue trivial

/-- The decision that there is after a step on the values that it touches. -/
def label? : LabelStep → Option SegmentLabel
  | .set l => some l
  | .remove _ | .clear => none

/-- Whether a decision is live after steps: they record it for the value, and none of the later ones
touches the value. -/
def IsLive (steps : List LabelStep) (value : String) (l : SegmentLabel) : Prop :=
  ∃ before after, steps = before ++ .set l :: after ∧ lowercase l.value = lowercase value ∧
    ∀ x ∈ after, ¬ x.Touches value

variable {x : LabelStep} {steps : List LabelStep} {value : String} {l : SegmentLabel}

theorem not_isLive_nil : ¬ IsLive [] value l := by
  rintro ⟨before, after, hsteps, -⟩
  cases before <;> cases hsteps

theorem isLive_cons_iff : IsLive (x :: steps) value l ↔
    IsLive steps value l ∨
      x = .set l ∧ lowercase l.value = lowercase value ∧ ∀ y ∈ steps, ¬ y.Touches value := by
  constructor
  · rintro ⟨before, after, hsteps, hvalue, hafter⟩
    cases before with
    | nil =>
      obtain ⟨rfl, rfl⟩ := List.cons.inj hsteps
      exact Or.inr ⟨rfl, hvalue, hafter⟩
    | cons y before => exact Or.inl ⟨before, after, (List.cons.inj hsteps).2, hvalue, hafter⟩
  · rintro (⟨before, after, rfl, hvalue, hafter⟩ | ⟨rfl, hvalue, hafter⟩)
    · exact ⟨x :: before, after, rfl, hvalue, hafter⟩
    · exact ⟨[], steps, rfl, hvalue, hafter⟩

/-- A step that touches a value leaves a decision on it by recording this decision only. -/
theorem Touches.label?_eq_some_iff (h : x.Touches value) :
    x.label? = some l ↔ x = .set l ∧ lowercase l.value = lowercase value := by
  cases x with
  | set l' =>
    constructor
    · intro hl
      obtain rfl := Option.some.inj hl
      exact ⟨rfl, h⟩
    · rintro ⟨hx, -⟩
      obtain rfl := LabelStep.set.inj hx
      rfl
  | remove other => simp [label?]
  | clear => simp [label?]

end LabelStep

namespace LabelStore

open LabelStep

variable {s : LabelStore} {steps : List LabelStep} {value : String} {l : SegmentLabel}

theorem take_fst (s : LabelStore) (value : String) : (s.take value).1 = s.get? value :=
  takeEntry_fst _ _

theorem WellKept.get?_remove (h : s.WellKept) (value other : String) :
    (s.remove value).get? other =
      if lowercase other = lowercase value then none else s.get? other :=
  lookup_takeEntry h.nodup _ _

/-- What a step does not touch stays as it is. -/
theorem WellKept.get?_step (h : s.WellKept) (x : LabelStep) (value : String) :
    (s.step x).get? value = if x.Touches value then x.label? else s.get? value := by
  cases x with
  | set l =>
    rw [LabelStore.step, get?, lookup_set]
    exact if_congr eq_comm rfl rfl
  | remove other =>
    rw [LabelStore.step, h.get?_remove]
    exact if_congr eq_comm rfl rfl
  | clear => exact (if_pos trivial).symm

/-- What is found after steps is what they leave live, or what there was if they do not touch it. -/
theorem WellKept.get?_run_iff (h : s.WellKept) (steps : List LabelStep) :
    (s.run steps).get? value = some l ↔
      IsLive steps value l ∨ (∀ x ∈ steps, ¬ x.Touches value) ∧ s.get? value = some l := by
  induction steps generalizing s with
  | nil => simp [LabelStore.run, not_isLive_nil]
  | cons x steps ih =>
    rw [LabelStore.run, List.foldl_cons, ← LabelStore.run, ih (h.step x), h.get?_step, isLive_cons_iff,
      List.forall_mem_cons]
    by_cases hx : x.Touches value
    · rw [if_pos hx, hx.label?_eq_some_iff]
      tauto
    · have hset : x = .set l → lowercase l.value ≠ lowercase value := by
        rintro rfl
        exact hx
      rw [if_neg hx]
      tauto

/-- A store of a list of decisions is what comes of recording them one by one. -/
theorem ofList_eq_run (labels : List SegmentLabel) : ofList labels = run {} (labels.map .set) := by
  rw [ofList, LabelStore.run, List.foldl_map]
  rfl

theorem run_ofList (labels : List SegmentLabel) (steps : List LabelStep) :
    (ofList labels).run steps = run {} (labels.map .set ++ steps) := by
  rw [ofList_eq_run, LabelStore.run, LabelStore.run, LabelStore.run, List.foldl_append]

theorem wellKept_run_ofList (labels : List SegmentLabel) (steps : List LabelStep) :
    ((ofList labels).run steps).WellKept := by
  rw [run_ofList]
  exact wellKept_empty.run _

/-- In whatever way a store has come about, it is a map from values without regard to case to the decisions
that are live. A decision that is taken out is the one on the value and the only one that is lost. Each live
decision is listed once, in ascending order of the lowercase values, which is the order in which any
listing of them is sorted; so stores with the same decisions list them alike. -/
theorem run_maps_caseless (labels : List SegmentLabel) (steps : List LabelStep) :
    let s := (ofList labels).run steps
    (∀ value l, s.get? value = some l ↔ IsLive (labels.map .set ++ steps) value l) ∧
    (∀ value, (s.take value).1 = s.get? value ∧ ∀ other, (s.take value).2.get? other =
      if lowercase other = lowercase value then none else s.get? other) ∧
    (s.labels.map (lowercase ·.value)).Pairwise (· < ·) ∧
    (∀ l, l ∈ s.labels ↔ s.get? l.value = some l) ∧
    (∀ listing : List SegmentLabel, listing.Nodup → (∀ l, l ∈ listing ↔ s.get? l.value = some l) →
      listing.mergeSort (fun a b => lowercase a.value ≤ lowercase b.value) = s.labels) ∧
    ∀ labels' steps', (∀ value, ((ofList labels').run steps').get? value = s.get? value) →
      ((ofList labels').run steps').labels = s.labels := by
  intro s
  have hs : s.WellKept := wellKept_run_ofList labels steps
  refine ⟨?_, fun value => ⟨s.take_fst value, hs.get?_remove value⟩, hs.labels_pairwise,
    fun l => hs.mem_labels_iff, fun _ => hs.mergeSort_eq_labels, ?_⟩
  · intro value l
    have hrun : s = run {} (labels.map .set ++ steps) := run_ofList labels steps
    rw [hrun, wellKept_empty.get?_run_iff]
    simp [get?]
  · intro labels' steps' hsame
    exact hs.labels_eq (wellKept_run_ofList labels' steps') hsame

/-- Of two decisions on one word in different cases the later one counts, also where the word ends in a
sigma, and however the decisions are listed they are sorted alike. -/
theorem run_maps_caseless_sigma :
    let street : SegmentLabel := { value := "οδος", action := .customToken, customLabel := some "street" }
    let blue : SegmentLabel := { value := "BLUE", action := .ignore }
    let labels : List SegmentLabel :=
      [{ value := "ΟΔΟΣ", action := .ignore }, { value := "Cam", action := .freeText }]
    let steps : List LabelStep := [.set blue, .remove "cAM", .set street, .remove "red"]
    let s := (ofList labels).run steps
    IsLive (labels.map .set ++ steps) "Οδος" street ∧ (s.take "blue").1 = some blue ∧
      (s.take "blue").2.get? "Οδος" = some street ∧
      [street, blue].mergeSort (fun a b => lowercase a.value ≤ lowercase b.value) = [blue, street] := by
  intro street blue labels steps s
  have hstreet : s.get? "Οδος" = some street := by decide +kernel
  have hblue : s.get? "blue" = some blue := by decide +kernel
  have hlabels : s.labels = [blue, street] := by decide +kernel
  obtain ⟨hget, htake, -, hmem, hsort, -⟩ := run_maps_caseless labels steps
  refine ⟨(hget "Οδος" street).mp hstreet, (htake "blue").1.trans hblue, ?_, ?_⟩
  · have hother : lowercase "Οδος" ≠ lowercase "blue" := by decide +kernel
    rw [(htake "blue").2 "Οδος", if_neg hother]
    exact hstreet
  · rw [← hlabels]
    apply hsort
    · decide
    · intro l
      rw [← hmem l, hlabels]
      exact (List.Perm.swap blue street []).mem_iff

end LabelStore

end PhotoGrouping
