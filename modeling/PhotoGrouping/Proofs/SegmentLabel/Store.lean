import PhotoGrouping.Proofs.Listing.AscendingMap
import PhotoGrouping.SegmentLabel

namespace PhotoGrouping.LabelStore

open Text

/-- An entry that is put in is found, and the entries of other keys are found as before. -/
theorem lookup_insertEntry (key : String) (l : SegmentLabel) (entries : List (String × SegmentLabel))
    (k : String) :
    (insertEntry key l entries).lookup k = if k = key then some l else entries.lookup k := by
  induction entries with
  | nil => exact lookup_cons_eq [] k key l
  | cons e rest ih =>
    obtain ⟨k', l'⟩ := e
    rw [insertEntry]
    split
    · exact lookup_cons_eq _ k key l
    · split
      · rename_i hkey
        subst hkey
        rw [lookup_cons_eq, lookup_cons_eq]
        split <;> rfl
      · rename_i hkey
        rw [lookup_cons_eq, ih, lookup_cons_eq]
        by_cases hk : k = key
        · rw [if_neg (by rw [hk]; exact hkey), if_pos hk, if_pos hk]
        · rw [if_neg hk, if_neg hk]

theorem lookup_set (s : LabelStore) (l : SegmentLabel) (k : String) :
    (s.set l).entries.lookup k = if k = lowercase l.value then some l else s.entries.lookup k :=
  lookup_insertEntry _ _ _ _

/-- After decisions have been recorded there is one on their values and on those decided before. -/
theorem isSome_lookup_foldl_set (s : LabelStore) (labels : List SegmentLabel) (k : String) :
    ((labels.foldl set s).entries.lookup k).isSome = true ↔
      (s.entries.lookup k).isSome = true ∨ ∃ l ∈ labels, lowercase l.value = k := by
  induction labels generalizing s with
  | nil => simp
  | cons l labels ih =>
    rw [List.foldl_cons, ih, lookup_set, List.exists_mem_cons_iff, ← or_assoc]
    refine or_congr ?_ Iff.rfl
    split
    · rename_i hk
      exact iff_of_true rfl (Or.inr hk.symm)
    · rename_i hk
      exact (or_iff_left (Ne.symm hk)).symm

/-- The decision that is taken out is the one that is found under the key. -/
theorem takeEntry_fst (key : String) (entries : List (String × SegmentLabel)) :
    (takeEntry key entries).1 = entries.lookup key := by
  induction entries with
  | nil => rfl
  | cons e rest ih =>
    obtain ⟨k, l⟩ := e
    rw [takeEntry, lookup_cons_eq]
    by_cases hk : k = key
    · rw [if_pos hk, if_pos hk.symm]
    · rw [if_neg hk, if_neg (Ne.symm hk)]
      exact ih

theorem takeEntry_snd_sublist (key : String) (entries : List (String × SegmentLabel)) :
    (takeEntry key entries).2.Sublist entries := by
  induction entries with
  | nil => exact List.Sublist.refl []
  | cons e rest ih =>
    obtain ⟨k, l⟩ := e
    rw [takeEntry]
    split
    · exact List.sublist_cons_self _ rest
    · exact ih.cons_cons (k, l)

/-- Where each key stands once, nothing is found under a key after its entry has been taken out. -/
theorem lookup_takeEntry {entries : List (String × SegmentLabel)} (h : (entries.map (·.1)).Nodup)
    (key k : String) :
    (takeEntry key entries).2.lookup k = if k = key then none else entries.lookup k := by
  induction entries with
  | nil => simp [takeEntry]
  | cons e rest ih =>
    obtain ⟨k', l⟩ := e
    obtain ⟨hnot, hrest⟩ := List.nodup_cons.mp h
    rw [takeEntry, lookup_cons_eq]
    by_cases hk' : k' = key
    · subst hk'
      rw [if_pos rfl]
      by_cases hk : k = k'
      · subst hk
        rw [if_pos rfl, List.lookup_eq_none_iff]
        intro e he
        rw [bne_iff_ne]
        rintro rfl
        exact hnot (List.mem_map_of_mem (f := (·.1)) he)
      · rw [if_neg hk, if_neg hk]
    · rw [if_neg hk']
      dsimp only
      rw [lookup_cons_eq, ih hrest]
      by_cases hk : k = k'
      · rw [if_pos hk, if_neg (by rw [hk]; exact hk'), if_pos hk]
      · rw [if_neg hk, if_neg hk]

theorem keys_insertEntry (key : String) (l : SegmentLabel) (entries : List (String × SegmentLabel)) :
    (insertEntry key l entries).map (·.1) = insertText key (entries.map (·.1)) := by
  induction entries with
  | nil => rfl
  | cons e rest ih =>
    obtain ⟨k, l'⟩ := e
    rw [insertEntry, List.map_cons, insertText]
    split
    · rfl
    · split
      · rename_i hkey
        rw [List.map_cons, hkey]
      · rw [List.map_cons, ih]

theorem mem_insertEntry {key : String} {l : SegmentLabel} {entries : List (String × SegmentLabel)}
    {e : String × SegmentLabel} (h : e ∈ insertEntry key l entries) : e = (key, l) ∨ e ∈ entries := by
  induction entries with
  | nil => exact Or.inl (List.mem_singleton.mp h)
  | cons e' rest ih =>
    obtain ⟨k, l'⟩ := e'
    rw [insertEntry] at h
    split at h
    · exact List.mem_cons.mp h
    · split at h
      · exact (List.mem_cons.mp h).imp_right (List.mem_cons_of_mem _)
      · obtain rfl | h := List.mem_cons.mp h
        · exact Or.inr List.mem_cons_self
        · exact (ih h).imp_right (List.mem_cons_of_mem _)

/-- Whether each decision is kept under its value in lower case, in ascending order of these. -/
structure WellKept (s : LabelStore) : Prop where
  keys : ∀ e ∈ s.entries, e.1 = lowercase e.2.value
  ascending : (s.entries.map (·.1)).Pairwise (· < ·)

variable {s : LabelStore} {l : SegmentLabel} {value : String}

theorem wellKept_empty : WellKept {} where
  keys := by simp
  ascending := List.Pairwise.nil

theorem WellKept.set (h : s.WellKept) (l : SegmentLabel) : (s.set l).WellKept where
  keys := by
    intro e he
    obtain rfl | he := mem_insertEntry he
    · rfl
    · exact h.keys e he
  ascending := by
    rw [LabelStore.set, keys_insertEntry]
    exact insertText_pairwise _ _ h.ascending

theorem WellKept.remove (h : s.WellKept) (value : String) : (s.remove value).WellKept where
  keys := fun e he => h.keys e ((takeEntry_snd_sublist _ _).subset he)
  ascending := h.ascending.sublist ((takeEntry_snd_sublist _ _).map _)

theorem WellKept.step (h : s.WellKept) (x : LabelStep) : (s.step x).WellKept := by
  cases x with
  | set l => exact h.set l
  | remove value => exact h.remove value
  | clear => exact wellKept_empty

theorem WellKept.run (h : s.WellKept) (steps : List LabelStep) : (s.run steps).WellKept := by
  induction steps generalizing s with
  | nil => exact h
  | cons x steps ih => exact ih (h.step x)

theorem WellKept.nodup (h : s.WellKept) : (s.entries.map (·.1)).Nodup :=
  h.ascending.imp ne_of_lt

/-- The decisions are listed in the order of the keys. -/
theorem WellKept.map_labels (h : s.WellKept) :
    s.labels.map (lowercase ·.value) = s.entries.map (·.1) := by
  rw [labels, List.map_map]
  exact List.map_congr_left fun e he => (h.keys e he).symm

theorem WellKept.labels_pairwise (h : s.WellKept) :
    (s.labels.map (lowercase ·.value)).Pairwise (· < ·) := by
  rw [h.map_labels]
  exact h.ascending

theorem WellKept.labels_nodup (h : s.WellKept) : s.labels.Nodup :=
  List.Nodup.of_map _ (h.labels_pairwise.imp ne_of_lt)

/-- A decision is listed exactly if it is found under its own value. -/
theorem WellKept.mem_labels_iff (h : s.WellKept) : l ∈ s.labels ↔ s.get? l.value = some l := by
  rw [get?, lookup_eq_some_iff_of_nodup s.entries h.nodup, labels, List.mem_map]
  constructor
  · rintro ⟨e, he, rfl⟩
    rw [← h.keys e he]
    exact he
  · intro he
    exact ⟨_, he, rfl⟩

/-- Decisions that are listed in any order come into the order of the store when they are sorted. -/
theorem WellKept.mergeSort_eq_labels (h : s.WellKept) {listing : List SegmentLabel}
    (hnodup : listing.Nodup) (hmem : ∀ l, l ∈ listing ↔ s.get? l.value = some l) :
    listing.mergeSort (fun a b => lowercase a.value ≤ lowercase b.value) = s.labels := by
  have hkeys : s.labels.Pairwise fun a b => lowercase a.value < lowercase b.value :=
    List.pairwise_map.mp h.labels_pairwise
  have hperm : listing.Perm s.labels := by
    rw [List.perm_ext_iff_of_nodup hnodup h.labels_nodup]
    intro l
    rw [hmem, h.mem_labels_iff]
  refine List.Perm.eq_of_pairwise ?_ (List.pairwise_mergeSort ?_ ?_ listing) (hkeys.imp ?_)
    ((List.mergeSort_perm listing _).trans hperm)
  · intro a b ha hb hab hba
    have ha : a ∈ s.labels := hperm.subset ((List.mergeSort_perm listing _).subset ha)
    refine List.inj_on_of_nodup_map (h.labels_pairwise.imp ne_of_lt) ha hb ?_
    exact le_antisymm (of_decide_eq_true hab) (of_decide_eq_true hba)
  · intro a b c hab hbc
    exact decide_eq_true (le_trans (of_decide_eq_true hab) (of_decide_eq_true hbc))
  · intro a b
    simpa using le_total (lowercase a.value) (lowercase b.value)
  · intro a b hab
    exact decide_eq_true (le_of_lt hab)

/-- Stores with the same decisions list them alike. -/
theorem WellKept.labels_eq {t : LabelStore} (hs : s.WellKept) (ht : t.WellKept)
    (h : ∀ value, t.get? value = s.get? value) : t.labels = s.labels := by
  have hmem : ∀ l, l ∈ t.labels ↔ s.get? l.value = some l := by
    intro l
    rw [ht.mem_labels_iff, h]
  rw [← ht.mergeSort_eq_labels ht.labels_nodup fun _ => ht.mem_labels_iff,
    hs.mergeSort_eq_labels ht.labels_nodup hmem]

end PhotoGrouping.LabelStore
