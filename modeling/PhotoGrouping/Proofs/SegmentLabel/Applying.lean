import PhotoGrouping.Proofs.Filename.Tokens
import PhotoGrouping.Proofs.Token.Typing
import PhotoGrouping.SegmentLabel

namespace PhotoGrouping

open Text

section Forall₂

variable {α β : Type} {R : α → β → Prop} {xs : List α} {ys : List β}

/-- What holds of two lists item by item holds after a change of the second one that keeps it. -/
theorem forall₂_mapIdx {f : Nat → β → β} (hf : ∀ i x y, R x y → R x (f i y))
    (h : List.Forall₂ R xs ys) : List.Forall₂ R xs (ys.mapIdx f) := by
  induction h generalizing f with
  | nil => exact List.Forall₂.nil
  | cons hxy _ ih =>
    rw [List.mapIdx_cons]
    exact List.Forall₂.cons (hf 0 _ _ hxy) (ih fun i => hf (i + 1))

end Forall₂

/-- Tokens that are numbered already are not changed by numbering them. -/
theorem AreNumbered.mapIdx_moveTo {ts : List Token} (h : AreNumbered ts) :
    (ts.mapIdx fun i t => t.moveTo i) = ts := by
  apply List.ext_getElem?
  intro i
  rw [List.getElem?_mapIdx]
  cases hi : ts[i]? with
  | none => rfl
  | some t =>
    rw [Option.map_some, ← h.position_of_getElem? hi]
    rfl

namespace LabelStore

/-- What is decided on a value in lower case. -/
def actionOn? (s : LabelStore) (key : String) : Option SegmentAction :=
  (s.entries.lookup key).map (·.action)

/-- What the decisions of a store make of a token that is not left out: its value stays, and its type and
the confidence in it change by a decision only. -/
structure Keeps (s : LabelStore) (t u : Token) : Prop where
  value : u.value = t.value
  undecided : s.actionOn? (lowercase t.value) = none → u.type = t.type ∧ u.confidence = t.confidence
  customToken : s.actionOn? (lowercase t.value) = some .customToken →
    u.type = .trailing ∧ u.confidence.value = 0.8
  freeText : s.actionOn? (lowercase t.value) = some .freeText →
    u.type = .unknown ∧ u.confidence.value = 0.9

variable {s : LabelStore} {t u : Token} {tokens : List Token}

/-- A decision on a token is one on its value in lower case. -/
theorem decided?_eq (s : LabelStore) (t : Token) :
    s.decided? t = match s.actionOn? (lowercase t.value) with
      | none => some t
      | some .ignore => none
      | some .customToken => some { t with type := .trailing, confidence := 0.8 }
      | some .freeText => some { t with type := .unknown, confidence := 0.9 } := by
  have haction : s.actionOn? (lowercase t.value) = (s.get? t.value).map (·.action) := rfl
  rw [haction, decided?]
  cases s.get? t.value with
  | none => rfl
  | some l =>
    cases hl : l.action with
    | ignore => simp [hl, SegmentAction.retyped?]
    | customToken => simp [hl, SegmentAction.retyped?, Token.suggest, OfScientific.ofScientific]
    | freeText => simp [hl, SegmentAction.retyped?, Token.suggest, OfScientific.ofScientific]

theorem decided?_eq_none_iff : s.decided? t = none ↔ s.actionOn? (lowercase t.value) = some .ignore := by
  rw [decided?_eq]
  split <;> simp_all

theorem keeps_of_decided? (h : s.decided? t = some u) : s.Keeps t u := by
  rw [decided?_eq] at h
  split at h
  · rename_i hopen
    obtain rfl := Option.some.inj h
    exact ⟨rfl, fun _ => ⟨rfl, rfl⟩, by simp [hopen], by simp [hopen]⟩
  · cases h
  · rename_i hcustom
    obtain rfl := Option.some.inj h
    exact ⟨rfl, by simp [hcustom], fun _ => ⟨rfl, value_confidence 0.8 (by simp)⟩, by simp [hcustom]⟩
  · rename_i hfree
    obtain rfl := Option.some.inj h
    exact ⟨rfl, by simp [hfree], by simp [hfree], fun _ => ⟨rfl, value_confidence 0.9 (by simp)⟩⟩

theorem Keeps.moveTo (h : s.Keeps t u) (position : Nat) : s.Keeps t (u.moveTo position) :=
  ⟨h.value, h.undecided, h.customToken, h.freeText⟩

/-- A decision does nothing more to a token that it has been applied to. -/
theorem decided?_moveTo (h : s.decided? t = some u) (position : Nat) :
    s.decided? (u.moveTo position) = some (u.moveTo position) := by
  have hvalue : (u.moveTo position).value = t.value := (keeps_of_decided? h).value
  rw [decided?_eq] at h ⊢
  rw [hvalue]
  split at h
  · rfl
  · cases h
  · obtain rfl := Option.some.inj h
    rfl
  · obtain rfl := Option.some.inj h
    rfl

/-- The tokens that are not left out, one after the other. -/
theorem forall₂_keeps (s : LabelStore) (tokens : List Token) :
    List.Forall₂ s.Keeps (tokens.filter fun t => s.actionOn? (lowercase t.value) ≠ some .ignore)
      (tokens.filterMap s.decided?) := by
  induction tokens with
  | nil => exact List.Forall₂.nil
  | cons t tokens ih =>
    cases hu : s.decided? t with
    | none =>
      have hignored := decided?_eq_none_iff.mp hu
      rw [List.filterMap_cons_none hu, List.filter_cons_of_neg (by simp [hignored])]
      exact ih
    | some u =>
      have hkept : s.actionOn? (lowercase t.value) ≠ some .ignore := by
        rw [ne_eq, ← decided?_eq_none_iff, hu]
        exact Option.some_ne_none u
      rw [List.filterMap_cons_some hu, List.filter_cons_of_pos (by simpa using hkept)]
      exact List.Forall₂.cons (keeps_of_decided? hu) ih

theorem areNumbered_apply (s : LabelStore) (tokens : List Token) : AreNumbered (s.apply tokens) := by
  apply List.ext_getElem?
  intro i
  rw [apply, List.getElem?_map, List.getElem?_mapIdx, List.length_mapIdx]
  cases hi : (tokens.filterMap s.decided?)[i]? with
  | none => simpa using hi
  | some t =>
    rw [List.getElem?_range (List.getElem?_eq_some_iff.mp hi).1]
    rfl

/-- A token that is left is what its decision makes of one of the tokens, at another position. -/
theorem exists_decided?_of_mem_apply (h : u ∈ s.apply tokens) :
    ∃ t ∈ tokens, ∃ v, s.decided? t = some v ∧ u = v.moveTo u.position := by
  obtain ⟨i, hi, rfl⟩ := List.mem_mapIdx.mp h
  obtain ⟨t, ht, hv⟩ := List.mem_filterMap.mp (List.getElem_mem hi)
  exact ⟨t, ht, _, hv, rfl⟩

/-- Tokens that no decision changes and that are numbered stay as they are. -/
theorem apply_eq_self (hdecided : ∀ t ∈ tokens, s.decided? t = some t) (hnumbered : AreNumbered tokens) :
    s.apply tokens = tokens := by
  rw [apply, List.filterMap_congr hdecided, List.filterMap_some, hnumbered.mapIdx_moveTo]

/-- The decisions leave the tokens whose values are not to be ignored, in their order, each as its
decision says and at its place in the list. Applied again they change nothing. -/
theorem apply_filters_and_retypes (s : LabelStore) (tokens : List Token) :
    List.Forall₂ s.Keeps (tokens.filter fun t => s.actionOn? (lowercase t.value) ≠ some .ignore)
        (s.apply tokens) ∧
      (s.apply tokens).map (·.position) = List.range (s.apply tokens).length ∧
      s.apply (s.apply tokens) = s.apply tokens := by
  refine ⟨?_, s.areNumbered_apply tokens, ?_⟩
  · exact forall₂_mapIdx (fun i _ _ h => h.moveTo i) (s.forall₂_keeps tokens)
  · refine apply_eq_self ?_ (s.areNumbered_apply tokens)
    intro u hu
    obtain ⟨t, -, v, hv, hmoved⟩ := exists_decided?_of_mem_apply hu
    rw [hmoved]
    exact decided?_moveTo hv u.position

end LabelStore

end PhotoGrouping
