import Mathlib.Data.Finset.Card
import PhotoGrouping.Proofs.CommandLine.Pending
import PhotoGrouping.Proofs.SegmentLabel.Summary

namespace PhotoGrouping.CommandLine.SegmentListing

open Text

/-- The files with a token of unknown type that has a value in lower case. -/
def filesWith (custom : List CustomToken) (names : List String) (value : String) : Finset String :=
  names.toFinset.filter fun f =>
    ∃ t ∈ tokensOf custom f, t.type = .unknown ∧ lowercase t.value = value

variable {c : Config} {names : List String} {r : SegmentRow} {v : String}

theorem rows_unlabeled (c : Config) (names : List String) :
    (ofNames c names).rows.filter (!·.labeled) = (ofNames c names).summary.unlabeled.map
      (rowOf c.labelStore (TokenAnalysis.ofFiles c.customTokens names) false) := by
  simp [ofNames, rowOf, List.filter_append, List.filter_map, Function.comp_def]

theorem rows_labeled (c : Config) (names : List String) :
    (ofNames c names).rows.filter (·.labeled) = (ofNames c names).summary.labeled.map
      (rowOf c.labelStore (TokenAnalysis.ofFiles c.customTokens names) true) := by
  simp [ofNames, rowOf, List.filter_append, List.filter_map, Function.comp_def]

theorem rows_eq_append (c : Config) (names : List String) :
    (ofNames c names).rows =
      (ofNames c names).rows.filter (!·.labeled) ++ (ofNames c names).rows.filter (·.labeled) := by
  rw [rows_unlabeled, rows_labeled]
  rfl

theorem values_labeled (c : Config) (names : List String) :
    ((ofNames c names).rows.filter (·.labeled)).map (·.value) =
      (ofNames c names).summary.labeled := by
  rw [rows_labeled, List.map_map]
  exact List.map_id _

theorem values_rows (c : Config) (names : List String) :
    (ofNames c names).rows.map (·.value) =
      (ofNames c names).summary.unlabeled ++ (ofNames c names).summary.labeled := by
  rw [rows_eq_append, List.map_append, values_unlabeled, values_labeled]

theorem nodup_values (c : Config) (names : List String) :
    ((ofNames c names).rows.map (·.value)).Nodup := by
  rw [values_rows]
  refine List.Nodup.append (SegmentSummary.unlabeled_nodup _ _) ?_ ?_
  · exact (ascending_nodup _).filter _
  · exact (SegmentSummary.disjoint _ _).symm

/-- The rows show the values of the unknown tokens of the files. -/
theorem mem_values_iff : v ∈ (ofNames c names).rows.map (·.value) ↔
    ∃ f ∈ names, ∃ t ∈ tokensOf c.customTokens f, t.type = .unknown ∧ lowercase t.value = v := by
  have hsummary : v ∈ (ofNames c names).rows.map (·.value) ↔
      v ∈ SegmentSummary.unknownValues (TokenAnalysis.ofFiles c.customTokens names).tokens := by
    rw [← SegmentSummary.ascending_append c.labelStore, mem_ascending, values_rows, List.mem_append,
      List.mem_append, or_comm]
    rfl
  rw [hsummary, SegmentSummary.mem_unknownValues]
  simp only [TokenAnalysis.mem_tokens_ofFiles]
  constructor
  · rintro ⟨t, ⟨f, hf, ht⟩, hvalue⟩
    exact ⟨f, hf, t, ht, hvalue⟩
  · rintro ⟨f, hf, t, ht, hvalue⟩
    exact ⟨t, ⟨f, hf, ht⟩, hvalue⟩

/-- A file is counted once, however often it is named and whatever else it has. -/
theorem fileCount_ofFiles (custom : List CustomToken) (names : List String) (value : String) :
    fileCount (TokenAnalysis.ofFiles custom names) value = (filesWith custom names value).card := by
  have hlist : fileCount (TokenAnalysis.ofFiles custom names) value = ((ascending names).filter fun f =>
      (SegmentSummary.unknownValues (tokensOf custom f)).contains value).length := by
    rw [fileCount, TokenAnalysis.ofFiles, List.filter_map, List.length_map]
    rfl
  rw [hlist, ← List.toFinset_card_of_nodup ((ascending_nodup names).filter _)]
  congr 1
  ext f
  rw [List.mem_toFinset, List.mem_filter, mem_ascending, List.contains_iff_mem,
    SegmentSummary.mem_unknownValues, filesWith, Finset.mem_filter, List.mem_toFinset]

/-- A row shows a value as its label says, which it has if there is a decision on the value. -/
theorem eq_rowOf (hr : r ∈ (ofNames c names).rows) :
    r = rowOf c.labelStore (TokenAnalysis.ofFiles c.customTokens names) r.labeled r.value ∧
      r.labeled = (c.labelStore.entries.lookup r.value).isSome := by
  rw [rows_eq_append, rows_unlabeled, rows_labeled, List.mem_append, List.mem_map, List.mem_map] at hr
  rcases hr with ⟨v, hv, rfl⟩ | ⟨v, hv, rfl⟩
  · refine ⟨rfl, ?_⟩
    have hnone := (List.mem_filter.mp hv).2
    exact ((Bool.not_eq_true' _).mp hnone).symm
  · exact ⟨rfl, (List.mem_filter.mp hv).2.symm⟩

theorem lowercase_value (hr : r ∈ (ofNames c names).rows) : lowercase r.value = r.value := by
  obtain ⟨f, -, t, -, -, hvalue⟩ := mem_values_iff.mp (List.mem_map_of_mem (f := (·.value)) hr)
  rw [← hvalue]
  exact lowercase_lowercase t.value

theorem files_eq_card (hr : r ∈ (ofNames c names).rows) :
    r.files = (filesWith c.customTokens names r.value).card := by
  rw [← fileCount_ofFiles]
  exact congrArg SegmentRow.files (eq_rowOf hr).1

theorem files_pos (hr : r ∈ (ofNames c names).rows) : 1 ≤ r.files := by
  obtain ⟨f, hf, ht⟩ := mem_values_iff.mp (List.mem_map_of_mem (f := (·.value)) hr)
  rw [files_eq_card hr]
  exact Finset.card_pos.mpr ⟨f, Finset.mem_filter.mpr ⟨List.mem_toFinset.mpr hf, ht⟩⟩

theorem labeled_iff (hr : r ∈ (ofNames c names).rows) :
    r.labeled = true ↔ ∃ l ∈ c.segmentLabels, lowercase l.value = r.value := by
  rw [(eq_rowOf hr).2, Config.labelStore, LabelStore.ofList, LabelStore.isSome_lookup_foldl_set]
  simp

/-- The action of a row is that of the decision on its value. -/
theorem action_eq (hr : r ∈ (ofNames c names).rows) :
    r.action = (c.labelStore.get? r.value).map (·.action) := by
  obtain ⟨hrow, hlabeled⟩ := eq_rowOf hr
  have haction : r.action = if r.labeled then (c.labelStore.get? r.value).map (·.action) else none :=
    congrArg SegmentRow.action hrow
  rw [haction, hlabeled, LabelStore.get?, lowercase_value hr]
  cases c.labelStore.entries.lookup r.value with
  | none => rfl
  | some l => rfl

theorem isSome_action (hr : r ∈ (ofNames c names).rows) : r.action.isSome = r.labeled := by
  rw [action_eq hr, (eq_rowOf hr).2, LabelStore.get?, lowercase_value hr, Option.isSome_map]

/-- A listing shows each value of unknown type once, in lower case: first those without a decision, then
those with one, both in ascending order. A row counts the files that have its value, and has the action of
the decision on it. The values without a decision are pending. -/
theorem rows_consistent (c : Config) (files : List String) :
    let names := ConfigFile.sampledNames c files
    let l := ofNames c names
    let unlabeled := l.rows.filter (!·.labeled)
    let labeled := l.rows.filter (·.labeled)
    l.rows = unlabeled ++ labeled ∧
    (unlabeled.map (·.value)).Pairwise (· < ·) ∧ (labeled.map (·.value)).Pairwise (· < ·) ∧
    (l.rows.map (·.value)).Nodup ∧
    (∀ v, v ∈ l.rows.map (·.value) ↔
      ∃ f ∈ names, ∃ t ∈ tokensOf c.customTokens f, t.type = .unknown ∧ lowercase t.value = v) ∧
    (∀ r ∈ l.rows,
      r.files = (filesWith c.customTokens names r.value).card ∧ 1 ≤ r.files ∧
      (r.labeled = true ↔ ∃ label ∈ c.segmentLabels, lowercase label.value = r.value) ∧
      (r.action.isSome = true ↔ r.labeled = true) ∧
      r.action = (c.labelStore.get? r.value).map (·.action)) ∧
    l.summary.pending = unlabeled.length ∧ (l.summary.isComplete = true ↔ l.summary.pending = 0) := by
  intro names l unlabeled labeled
  have hunlabeled : unlabeled.map (·.value) = l.summary.unlabeled := values_unlabeled c names
  have hlabeled : labeled.map (·.value) = l.summary.labeled := values_labeled c names
  refine ⟨rows_eq_append c names, ?_, ?_, nodup_values c names, fun _ => mem_values_iff, ?_, ?_, ?_⟩
  · rw [hunlabeled]
    exact SegmentSummary.unlabeled_pairwise _ _
  · rw [hlabeled]
    exact (ascending_pairwise _).filter _
  · intro r hr
    exact ⟨files_eq_card hr, files_pos hr, labeled_iff hr, by rw [isSome_action hr], action_eq hr⟩
  · rw [SegmentSummary.pending, ← hunlabeled, List.length_map]
  · rw [SegmentSummary.isComplete, SegmentSummary.pending, List.isEmpty_iff, List.length_eq_zero_iff]

/-- A file that is named twice counts once, and a letter beyond ASCII is shown in lower case. -/
theorem rows_consistent_accents :
    let c : Config :=
      { segmentLabels := [{ value := "É", action := .ignore }]
        customTokens := [{ name := "angle", type := .unknown, examples := ["X"] }] }
    let names := ConfigFile.sampledNames c ["x_É.jpg", "x_é.jpg", "x_É.jpg"]
    let l := ofNames c names
    l.rows = [⟨"x", 2, false, none⟩, ⟨"é", 2, true, some .ignore⟩] ∧
      (filesWith c.customTokens names "é").card = 2 ∧
      (c.labelStore.get? "é").map (·.action) = some .ignore := by
  intro c names l
  have hnames : names = ["x_É.jpg", "x_é.jpg", "x_É.jpg"] := by
    have hname : ∀ path ∈ ["x_É.jpg", "x_é.jpg"], ConfigFile.filename path = path := by
      intro path hpath
      rw [ConfigFile.filename, splitOn_accents path hpath]
      revert hpath path
      decide
    have hsame : ∀ path ∈ ["x_É.jpg", "x_é.jpg", "x_É.jpg"], path ∈ ["x_É.jpg", "x_é.jpg"] := by decide
    have hall : ∀ path ∈ ["x_É.jpg", "x_é.jpg", "x_É.jpg"], ConfigFile.filename path = path :=
      fun path hpath => hname path (hsame path hpath)
    exact (List.map_congr_left hall).trans (List.map_id _)
  have hrows : l.rows = [⟨"x", 2, false, none⟩, ⟨"é", 2, true, some .ignore⟩] := by
    have hl : l = ofNames c ["x_É.jpg", "x_é.jpg", "x_É.jpg"] := by rw [← hnames]
    rw [hl]
    decide +kernel
  obtain ⟨-, -, -, -, -, hrow, -⟩ := rows_consistent c ["x_É.jpg", "x_é.jpg", "x_É.jpg"]
  obtain ⟨hfiles, -, -, -, haction⟩ := hrow ⟨"é", 2, true, some .ignore⟩ (by
    change _ ∈ l.rows
    rw [hrows]
    simp)
  exact ⟨hrows, hfiles.symm, haction.symm⟩

end PhotoGrouping.CommandLine.SegmentListing
