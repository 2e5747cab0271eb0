import PhotoGrouping.Proofs.Regex.Numbering
import PhotoGrouping.Proofs.Regex.Search
import PhotoGrouping.Proofs.Regex.Shape

namespace PhotoGrouping.Regex

/-- The indices of the groups in no part that is repeated zero times: a compiled expression has no
other groups. -/
def Expr.keptIndices : Expr → List Nat
  | .empty | .oneOf _ | .look _ => []
  | .cat r s | .alt r s => r.keptIndices ++ s.keptIndices
  | .capture i r => i :: r.keptIndices
  | .rep least most _ r => if least = 0 ∧ most = some 0 then [] else r.keptIndices

/-- How many groups are in parts that are repeated zero times. -/
def Expr.droppedCount : Expr → Nat
  | .empty | .oneOf _ | .look _ => 0
  | .cat r s | .alt r s => r.droppedCount + s.droppedCount
  | .capture _ r => r.droppedCount
  | .rep least most _ r => if least = 0 ∧ most = some 0 then r.captureCount else r.droppedCount

variable {r : Expr} {regex : Regex} {text : List Char} {i j k n : Nat} {sl sl' : Slots}

namespace Expr

theorem keptIndices_sublist (r : Expr) : r.keptIndices.Sublist r.indices := by
  induction r with
  | empty | oneOf s | look a => exact List.Sublist.refl []
  | cat r s ihr ihs | alt r s ihr ihs => exact ihr.append ihs
  | capture i r ih => exact ih.cons_cons i
  | rep least most greedy r ih =>
    rw [keptIndices]
    split
    · exact List.nil_sublist _
    · exact ih

theorem length_keptIndices (r : Expr) : r.keptIndices.length + r.droppedCount = r.captureCount := by
  induction r with
  | empty | oneOf s | look a => rfl
  | cat r s ihr ihs | alt r s ihr ihs =>
    rw [keptIndices, droppedCount, captureCount, List.length_append]
    omega
  | capture i r ih =>
    rw [keptIndices, droppedCount, captureCount, List.length_cons]
    omega
  | rep least most greedy r ih =>
    rw [keptIndices, droppedCount, captureCount]
    split
    · exact Nat.zero_add _
    · exact ih

theorem keptIndices_eq (h : r.droppedCount = 0) : r.keptIndices = r.indices := by
  have hlength := r.length_keptIndices
  rw [h, Nat.add_zero, ← length_indices] at hlength
  exact r.keptIndices_sublist.eq_of_length hlength

/-- The groups of an expression do not depend on its sets. -/
theorem indices_shape (r : Expr) : r.shape.indices = r.indices := by
  induction r with
  | empty | oneOf s | look a => rfl
  | cat r s ihr ihs => rw [shape, indices, ihr, ihs, indices]
  | alt r s ihr ihs => rw [shape, indices, ihr, ihs, indices]
  | capture i r ih => rw [shape, indices, ih, indices]
  | rep least most greedy r ih => rw [shape, indices, ih, indices]

end Expr

/-- With or without regard to case, a pattern has the same groups. -/
theorem indices_eq_of_read {pattern : String} {caseless caseless' : Bool} {regex' : Regex}
    (h : Regex.read pattern caseless = .ok regex) (h' : Regex.read pattern caseless' = .ok regex') :
    regex.expr.indices = regex'.expr.indices := by
  have hshape := read_shape pattern caseless caseless'
  rw [h, h'] at hshape
  have hshape : regex.expr.shape = regex'.expr.shape := Except.ok.inj hshape
  rw [← Expr.indices_shape, hshape, Expr.indices_shape]

theorem Slots.span?_enter (h : n ≠ k) (sl : Slots) (i : Nat) : (sl.enter k i).span? n = sl.span? n := by
  simp [span?, enter, List.getElem?_set_ne h.symm]

theorem Slots.span?_leave (h : n ≠ k) (sl : Slots) (i : Nat) : (sl.leave k i).span? n = sl.span? n := by
  simp [span?, leave, List.getElem?_set_ne h.symm]

theorem Slots.span?_none (n k : Nat) : (Slots.none k).span? n = Option.none := by
  unfold span?
  split
  · rename_i hstart _
    have hmem := List.mem_of_getElem? hstart
    cases List.eq_of_mem_replicate hmem
  · rfl

theorem Copies.span?_eq {step : Nat → Slots → Nat → Slots → Prop}
    (hstep : ∀ i sl j sl', step i sl j sl' → sl'.span? n = sl.span? n) (h : Copies step k i sl j sl') :
    sl'.span? n = sl.span? n := by
  induction k generalizing i sl with
  | zero => rw [h.2]
  | succ k ih =>
    obtain ⟨i', sl1, h1, h2⟩ := h
    exact (ih h2).trans (hstep _ _ _ _ h1)

/-- A match sets no group that is not kept. -/
theorem Expr.Spans.span?_eq (h : r.Spans text i sl j sl') (hn : n ∉ r.keptIndices) :
    sl'.span? n = sl.span? n := by
  induction r generalizing i sl j sl' with
  | empty => rw [h.2]
  | oneOf s => rw [h.2.2]
  | look a => rw [h.2.2]
  | cat r s ihr ihs =>
    rw [keptIndices, List.mem_append, not_or] at hn
    obtain ⟨k, sl1, h1, h2⟩ := h
    exact (ihs h2 hn.2).trans (ihr h1 hn.1)
  | alt r s ihr ihs =>
    rw [keptIndices, List.mem_append, not_or] at hn
    obtain h | h := h
    · exact ihr h hn.1
    · exact ihs h hn.2
  | capture k r ih =>
    rw [keptIndices, List.mem_cons, not_or] at hn
    obtain ⟨sl1, h1, rfl⟩ := h
    rw [Slots.span?_leave hn.1, ih h1 hn.2, Slots.span?_enter hn.1]
  | rep least most greedy r ih =>
    obtain ⟨k, ⟨-, hmost⟩, h⟩ := h
    rw [keptIndices] at hn
    split at hn
    · rename_i hnever
      obtain ⟨rfl, rfl⟩ := hnever
      obtain rfl := Nat.le_zero.mp (hmost 0 rfl)
      rw [h.2]
    · exact h.span?_eq fun _ _ _ _ hcopy => ih hcopy hn

/-- A search finds no group but the kept ones and the whole match. -/
theorem span?_search (h : regex.search text = some sl) (hzero : n ≠ 0)
    (hn : n ∉ regex.expr.keptIndices) : sl.span? n = none := by
  obtain ⟨i, j, sl1, -, hspan, rfl⟩ := search_sound h
  rw [Slots.span?_leave hzero, hspan.span?_eq hn, Slots.span?_enter hzero, Slots.span?_none]

end PhotoGrouping.Regex
