import PhotoGrouping.Proofs.SegmentLabel.Store
import PhotoGrouping.Proofs.SegmentLabel.Undecided
import PhotoGrouping.Proofs.Text.Lowering

namespace PhotoGrouping

open Text

/-- Whether a token is of unknown type and has this value in lower case. -/
def Token.isUnknown (key : String) (t : Token) : Bool :=
  t.type = .unknown && lowercase t.value = key

variable {s : LabelStore} {t : Token} {tokens : List Token} {a : TokenAnalysis} {v : String}

namespace LabelStore

/-- Whether values are the open ones of tokens: each once in whatever case, as it is spelled where it
occurs first, and in the order in which they do so. -/
structure ListsOpen (s : LabelStore) (tokens : List Token) (values : List String) : Prop where
  mem_iff : ∀ v, v ∈ values.map lowercase ↔ ∃ t ∈ tokens, s.LeavesOpen t ∧ lowercase t.value = v
  nodup : (values.map lowercase).Nodup
  first : ∀ v ∈ values, (tokens.find? (·.isUnknown (lowercase v))).map (·.value) = some v
  in_order : values.Pairwise fun v w =>
    tokens.findIdx (·.isUnknown (lowercase v)) < tokens.findIdx (·.isUnknown (lowercase w))

theorem undecided_cons_of_open (h : s.LeavesOpen t) (tokens : List Token) :
    s.undecided (t :: tokens) =
      t.value :: (s.undecided tokens).filter fun v => lowercase v ≠ lowercase t.value := by
  rw [undecided_eq, List.filter_cons_of_pos (by simpa using h), undecided_eq]
  rfl

theorem undecided_cons_of_not_open (h : ¬ s.LeavesOpen t) (tokens : List Token) :
    s.undecided (t :: tokens) = s.undecided tokens := by
  rw [undecided_eq, List.filter_cons_of_neg (by simpa using h), undecided_eq]

theorem get?_eq_none_of_mem_undecided (h : v ∈ s.undecided tokens) : s.get? v = none := by
  obtain ⟨t, -, ⟨-, hnone⟩, hkey⟩ := mem_map_undecided.mp (List.mem_map_of_mem (f := lowercase) h)
  rwa [get?, hkey] at hnone

/-- A token that is not open is none of the open ones, whatever its value. -/
theorem isUnknown_of_not_open (ht : ¬ s.LeavesOpen t) (hv : v ∈ s.undecided tokens) :
    t.isUnknown (lowercase v) = false := by
  rw [Bool.eq_false_iff]
  intro h
  rw [Token.isUnknown, Bool.and_eq_true, decide_eq_true_eq, decide_eq_true_eq] at h
  refine ht ⟨h.1, ?_⟩
  rw [get?, h.2]
  exact get?_eq_none_of_mem_undecided hv

theorem isUnknown_of_ne (h : lowercase v ≠ lowercase t.value) : t.isUnknown (lowercase v) = false := by
  rw [Token.isUnknown, decide_eq_false (Ne.symm h), Bool.and_false]

theorem isUnknown_of_open (h : s.LeavesOpen t) : t.isUnknown (lowercase t.value) = true := by
  rw [Token.isUnknown, decide_eq_true h.1, decide_eq_true rfl]
  rfl

theorem first_undecided (s : LabelStore) (tokens : List Token) :
    ∀ v ∈ s.undecided tokens, (tokens.find? (·.isUnknown (lowercase v))).map (·.value) = some v := by
  induction tokens with
  | nil =>
    intro v hv
    cases hv
  | cons t tokens ih =>
    intro v hv
    by_cases ht : s.LeavesOpen t
    · rw [undecided_cons_of_open ht] at hv
      obtain rfl | hv := List.mem_cons.mp hv
      · rw [List.find?_cons_of_pos (isUnknown_of_open ht), Option.map_some]
      · obtain ⟨hv, hne⟩ := List.mem_filter.mp hv
        rw [List.find?_cons_of_neg (by simp [isUnknown_of_ne (of_decide_eq_true hne)])]
        exact ih v hv
    · rw [undecided_cons_of_not_open ht] at hv
      rw [List.find?_cons_of_neg (by simp [isUnknown_of_not_open ht hv])]
      exact ih v hv

/-- The open values stand in the order of the tokens that have them first. -/
theorem in_order_undecided (s : LabelStore) (tokens : List Token) :
    (s.undecided tokens).Pairwise fun v w =>
      tokens.findIdx (·.isUnknown (lowercase v)) < tokens.findIdx (·.isUnknown (lowercase w)) := by
  induction tokens with
  | nil => exact List.Pairwise.nil
  | cons t tokens ih =>
    have hnext {v : String} (h : t.isUnknown (lowercase v) = false) :
        (t :: tokens).findIdx (·.isUnknown (lowercase v)) =
          tokens.findIdx (·.isUnknown (lowercase v)) + 1 := by
      rw [List.findIdx_cons, h]
      rfl
    by_cases ht : s.LeavesOpen t
    · rw [undecided_cons_of_open ht, List.pairwise_cons]
      constructor
      · intro v hv
        have hne := isUnknown_of_ne (of_decide_eq_true (List.mem_filter.mp hv).2)
        rw [hnext hne, List.findIdx_cons, isUnknown_of_open ht]
        exact Nat.succ_pos _
      · refine (ih.filter _).imp_of_mem ?_
        intro v w hv hw hlt
        have hv := isUnknown_of_ne (of_decide_eq_true (List.mem_filter.mp hv).2)
        have hw := isUnknown_of_ne (of_decide_eq_true (List.mem_filter.mp hw).2)
        rw [hnext hv, hnext hw]
        omega
    · rw [undecided_cons_of_not_open ht]
      refine ih.imp_of_mem ?_
      intro v w hv hw hlt
      rw [hnext (isUnknown_of_not_open ht hv), hnext (isUnknown_of_not_open ht hw)]
      omega

theorem listsOpen_undecided (s : LabelStore) (tokens : List Token) :
    s.ListsOpen tokens (s.undecided tokens) where
  mem_iff _ := mem_map_undecided
  nodup := nodup_map_distinctOn lowercase _
  first := s.first_undecided tokens
  in_order := s.in_order_undecided tokens

end LabelStore

namespace SegmentSummary

variable {labels : List SegmentLabel}

theorem labeled_eq (s : LabelStore) (a : TokenAnalysis) :
    (of s a).labeled = (unknownValues a.tokens).filter fun v => (s.entries.lookup v).isSome := rfl

theorem unlabeled_eq (s : LabelStore) (a : TokenAnalysis) :
    (of s a).unlabeled = (unknownValues a.tokens).filter fun v => !(s.entries.lookup v).isSome := rfl

/-- A value is shown in lower case already. -/
theorem lowercase_of_mem_unknownValues (h : v ∈ unknownValues tokens) : lowercase v = v := by
  obtain ⟨t, -, -, rfl⟩ := mem_unknownValues.mp h
  exact lowercase_lowercase t.value

theorem disjoint (s : LabelStore) (a : TokenAnalysis) :
    (of s a).labeled.Disjoint (of s a).unlabeled := by
  intro v hlabeled hunlabeled
  rw [labeled_eq, List.mem_filter] at hlabeled
  rw [unlabeled_eq, List.mem_filter, hlabeled.2] at hunlabeled
  cases hunlabeled.2

/-- Each value is either labeled or not. -/
theorem ascending_append (s : LabelStore) (a : TokenAnalysis) :
    ascending ((of s a).labeled ++ (of s a).unlabeled) = unknownValues a.tokens := by
  refine ascending_eq_of_pairwise (ascending_pairwise _) ?_
  intro v
  rw [List.mem_append, labeled_eq, unlabeled_eq, List.mem_filter, List.mem_filter]
  cases (s.entries.lookup v).isSome <;> simp [unknownValues]

/-- The values without a decision are those that the files list as open. -/
theorem unlabeled_eq_ascending (s : LabelStore) (a : TokenAnalysis) :
    (of s a).unlabeled = ascending ((a.flatMap fun e => s.undecided e.2).map lowercase) := by
  refine (ascending_eq_of_pairwise (unlabeled_pairwise s a) ?_).symm
  intro v
  rw [List.map_flatMap, List.mem_flatMap, mem_unlabeled]
  simp only [LabelStore.mem_map_undecided, TokenAnalysis.tokens, List.mem_flatMap]
  constructor
  · intro h
    obtain ⟨e, he, t, ht, hopen⟩ := h
    exact ⟨t, ⟨e, he, ht⟩, hopen⟩
  · intro h
    obtain ⟨t, ⟨e, he, ht⟩, hopen⟩ := h
    exact ⟨e, he, t, ht, hopen⟩

theorem undecided_eq_nil {e : String × List Token} (h : (of s a).unlabeled = []) (he : e ∈ a) :
    s.undecided e.2 = [] := by
  rw [List.eq_nil_iff_forall_not_mem]
  intro v hv
  have hunlabeled : lowercase v ∈ (of s a).unlabeled := by
    rw [unlabeled_eq_ascending, mem_ascending]
    exact List.mem_map_of_mem (List.mem_flatMap.mpr ⟨e, he, hv⟩)
  rw [h] at hunlabeled
  cases hunlabeled

/-- After a decision on every value that is shown without one there is a decision on all values. -/
theorem isSome_lookup_of_recorded (hlabels : ∀ v ∈ (of s a).unlabeled, ∃ l ∈ labels, l.value = v) :
    ∀ v ∈ unknownValues a.tokens,
      ((labels.foldl LabelStore.set s).entries.lookup v).isSome = true := by
  intro v hv
  rw [LabelStore.isSome_lookup_foldl_set]
  cases hlookup : s.entries.lookup v with
  | some l => exact Or.inl rfl
  | none =>
    have hopen : v ∈ (of s a).unlabeled := by
      rw [unlabeled_eq, List.mem_filter, hlookup]
      exact ⟨hv, rfl⟩
    obtain ⟨l, hl, rfl⟩ := hlabels v hopen
    exact Or.inr ⟨l, hl, lowercase_of_mem_unknownValues hv⟩

/-- The summary divides the values of unknown type, in lower case, into those with a decision and those
that the files list as open. Once decisions on all values of the second kind have been recorded, all
values are of the first kind and no file lists one. -/
theorem of_divides_and_completes (s : LabelStore) (a : TokenAnalysis) (labels : List SegmentLabel)
    (hlabels : ∀ v ∈ (of s a).unlabeled, ∃ l ∈ labels, l.value = v) :
    (of s a).labeled.Disjoint (of s a).unlabeled ∧
      (∀ v, v ∈ (of s a).labeled ∨ v ∈ (of s a).unlabeled ↔
        ∃ t ∈ a.tokens, t.type = .unknown ∧ lowercase t.value = v) ∧
      (of s a).unlabeled = ascending ((a.flatMap fun e => s.undecided e.2).map lowercase) ∧
      (∀ e ∈ a, s.ListsOpen e.2 (s.undecided e.2)) ∧
      (of (labels.foldl LabelStore.set s) a).isComplete = true ∧
      (of (labels.foldl LabelStore.set s) a).labeled =
        ascending ((of s a).labeled ++ (of s a).unlabeled) ∧
      ∀ e ∈ a, (labels.foldl LabelStore.set s).undecided e.2 = [] := by
  have hdecided := isSome_lookup_of_recorded hlabels
  have hnone : (of (labels.foldl LabelStore.set s) a).unlabeled = [] := by
    rw [unlabeled_eq, List.filter_eq_nil_iff]
    intro v hv
    rw [hdecided v hv]
    exact Bool.false_ne_true
  have hall : (of (labels.foldl LabelStore.set s) a).labeled = unknownValues a.tokens := by
    rw [labeled_eq, List.filter_eq_self]
    exact hdecided
  refine ⟨disjoint s a, ?_, unlabeled_eq_ascending s a, fun e _ => s.listsOpen_undecided e.2, ?_, ?_,
    fun e he => undecided_eq_nil hnone he⟩
  · intro v
    rw [← mem_unknownValues, ← ascending_append s a, mem_ascending, List.mem_append]
  · rw [isComplete, hnone]
    rfl
  · rw [hall, ascending_append]

/-- A capital sigma is shown as a final one at the end of a word, and a decision on what is shown counts
for the word. -/
theorem of_divides_and_completes_sigma :
    let s := LabelStore.ofList [{ value := "CAM", action := .freeText }]
    let a : TokenAnalysis :=
      [("a", [⟨"ΟΔΟΣ", 0, .unknown, 0.3⟩, ⟨"cam", 1, .unknown, 0.3⟩, ⟨"X7", 2, .groupId, 0.7⟩]),
        ("b", [⟨"y", 0, .unknown, 0.3⟩, ⟨"οδος", 1, .unknown, 0.3⟩, ⟨"Y", 2, .unknown, 0.3⟩])]
    let labels : List SegmentLabel :=
      [{ value := "οδος", action := .ignore }, { value := "y", action := .customToken }]
    (of s a).unlabeled = ["y", "οδος"] ∧ (∀ v ∈ (of s a).unlabeled, ∃ l ∈ labels, l.value = v) ∧
      (of (labels.foldl LabelStore.set s) a).isComplete = true ∧
      (of (labels.foldl LabelStore.set s) a).labeled = ["cam", "y", "οδος"] ∧
      ∀ e ∈ a, (labels.foldl LabelStore.set s).undecided e.2 = [] := by
  intro s a labels
  have hunlabeled : (of s a).unlabeled = ["y", "οδος"] := by decide +kernel
  have hlabels : ∀ v ∈ (of s a).unlabeled, ∃ l ∈ labels, l.value = v := by
    rw [hunlabeled]
    decide
  have hvalues : ascending ((of s a).labeled ++ (of s a).unlabeled) = ["cam", "y", "οδος"] := by
    decide +kernel
  obtain ⟨-, -, -, -, hcomplete, hlabeled, hundecided⟩ := of_divides_and_completes s a labels hlabels
  exact ⟨hunlabeled, hlabels, hcomplete, hlabeled.trans hvalues, hundecided⟩

end SegmentSummary

end PhotoGrouping
