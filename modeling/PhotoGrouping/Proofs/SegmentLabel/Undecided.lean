import PhotoGrouping.Proofs.Listing.AscendingMap
import PhotoGrouping.Proofs.Listing.DistinctOn
import PhotoGrouping.SegmentLabel

namespace PhotoGrouping

open Text

/-- Whether a token is of unknown type and has no decision on its value. -/
def LabelStore.LeavesOpen (s : LabelStore) (t : Token) : Prop :=
  t.type = .unknown ∧ s.get? t.value = none

variable {s : LabelStore} {tokens : List Token} {a : TokenAnalysis} {v : String}

namespace LabelStore

instance (s : LabelStore) : DecidablePred s.LeavesOpen :=
  fun t => inferInstanceAs (Decidable (t.type = .unknown ∧ s.get? t.value = none))

theorem undecided_eq (s : LabelStore) (tokens : List Token) :
    s.undecided tokens = distinctOn lowercase ((tokens.filter (s.LeavesOpen ·)).map (·.value)) := by
  have hleft : ∀ t : Token, (t.type = .unknown && (s.get? t.value).isNone) = decide (s.LeavesOpen t) := by
    intro t
    rw [Bool.eq_iff_iff, Bool.and_eq_true, decide_eq_true_eq, decide_eq_true_eq,
      Option.isNone_iff_eq_none]
    exact Iff.rfl
  rw [undecided]
  simp only [hleft]

theorem mem_map_undecided :
    v ∈ (s.undecided tokens).map lowercase ↔
      ∃ t ∈ tokens, s.LeavesOpen t ∧ lowercase t.value = v := by
  rw [undecided_eq, map_distinctOn, mem_distinct]
  simp only [List.map_map, List.mem_map, List.mem_filter, decide_eq_true_eq, Function.comp_apply,
    and_assoc]

end LabelStore

namespace SegmentSummary

theorem mem_unknownValues :
    v ∈ unknownValues tokens ↔ ∃ t ∈ tokens, t.type = .unknown ∧ lowercase t.value = v := by
  rw [unknownValues, mem_ascending]
  simp only [List.mem_map, List.mem_filter, decide_eq_true_eq, and_assoc]

/-- The values without a decision are those of the tokens that are left open. -/
theorem mem_unlabeled :
    v ∈ (of s a).unlabeled ↔ ∃ t ∈ a.tokens, s.LeavesOpen t ∧ lowercase t.value = v := by
  have hlookup : ∀ v : String, (!(s.entries.lookup v).isSome) = true ↔ s.entries.lookup v = none := by
    intro v
    cases s.entries.lookup v <;> simp
  have hmem : v ∈ (of s a).unlabeled ↔ v ∈ unknownValues a.tokens ∧ s.entries.lookup v = none := by
    rw [← hlookup v]
    exact List.mem_filter
  rw [hmem, mem_unknownValues]
  constructor
  · intro h
    obtain ⟨⟨t, ht, htype, rfl⟩, hnone⟩ := h
    exact ⟨t, ht, ⟨htype, hnone⟩, rfl⟩
  · intro h
    obtain ⟨t, ht, ⟨htype, hnone⟩, rfl⟩ := h
    exact ⟨⟨t, ht, htype, rfl⟩, hnone⟩

theorem unlabeled_pairwise (s : LabelStore) (a : TokenAnalysis) :
    (of s a).unlabeled.Pairwise (· < ·) :=
  (ascending_pairwise _).filter _

theorem unlabeled_nodup (s : LabelStore) (a : TokenAnalysis) : (of s a).unlabeled.Nodup :=
  (unlabeled_pairwise s a).imp ne_of_lt

end SegmentSummary

theorem TokenAnalysis.mem_tokens_ofFiles {custom : List CustomToken} {files : List String} {t : Token} :
    t ∈ (ofFiles custom files).tokens ↔ ∃ f ∈ files, t ∈ tokensOf custom f := by
  simp only [tokens, ofFiles, List.mem_flatMap, List.mem_map, mem_ascending]
  constructor
  · intro h
    obtain ⟨_, ⟨f, hf, rfl⟩, ht⟩ := h
    exact ⟨f, hf, ht⟩
  · intro h
    obtain ⟨f, hf, ht⟩ := h
    exact ⟨_, ⟨f, hf, rfl⟩, ht⟩

end PhotoGrouping
