import PhotoGrouping.CommandLine.Segments
import PhotoGrouping.Proofs.CommandLine.Inferring
import PhotoGrouping.Proofs.SegmentLabel.Undecided
import PhotoGrouping.Proofs.Text.AsciiCase

namespace PhotoGrouping.CommandLine

open Text

variable {c : Config} {files : List String} {value : String} {i : Inference}

theorem Inference.pending_of_ofNames {names : List String}
    (h : Inference.ofNames c names value = .ok i) : i.pending = Inference.pendingValues c names := by
  rw [Inference.ofNames_eq] at h
  split at h
  · cases h
  · obtain rfl := Except.ok.inj h
    rfl

/-- The pending values of an inference are those of the undecided rows of a listing, in lower case. -/
theorem Inference.mem_map_pendingValues {names : List String} {v : String} :
    v ∈ (Inference.pendingValues c names).map lowercase ↔
      v ∈ (SegmentListing.ofNames c names).summary.unlabeled := by
  have hundecided : v ∈ (names.flatMap fun name =>
      c.labelStore.undecided (tokensOf c.customTokens name)).map lowercase ↔
      ∃ name ∈ names, v ∈ (c.labelStore.undecided (tokensOf c.customTokens name)).map lowercase := by
    rw [List.map_flatMap, List.mem_flatMap]
  have hlisted := SegmentSummary.mem_unlabeled (s := c.labelStore)
    (a := TokenAnalysis.ofFiles c.customTokens names) (v := v)
  rw [Inference.pendingValues,
    mem_map_distinctOn fun x y => lowercase_eq_of_asciiLowercase_eq, hundecided]
  refine Iff.trans ?_ hlisted.symm
  simp only [LabelStore.mem_map_undecided, TokenAnalysis.mem_tokens_ofFiles]
  constructor
  · intro h
    obtain ⟨name, hname, t, ht, hopen⟩ := h
    exact ⟨t, ⟨name, hname, ht⟩, hopen⟩
  · intro h
    obtain ⟨t, ⟨name, hname, ht⟩, hopen⟩ := h
    exact ⟨name, hname, t, ht, hopen⟩

/-- The rows that are not labeled show the undecided values. -/
theorem SegmentListing.values_unlabeled (c : Config) (names : List String) :
    ((SegmentListing.ofNames c names).rows.filter (!·.labeled)).map (·.value) =
      (SegmentListing.ofNames c names).summary.unlabeled := by
  simp [SegmentListing.ofNames, SegmentListing.rowOf, List.filter_append, List.filter_map,
    Function.comp_def]

/-- An inference and a listing of the same files show the same undecided values. The listing shows each
of them once. The inference shows one more than once, in several cases, exactly if files have it in
cases that differ in a letter beyond ASCII; then it counts more. -/
theorem pending_matches_listing (c : Config) (files : List String) (value : String) (i : Inference)
    (h : Inference.ofNames c (ConfigFile.sampledNames c files) value = .ok i) :
    let names := ConfigFile.sampledNames c files
    let l := SegmentListing.ofNames c names
    let undecided (name : String) := c.labelStore.undecided (tokensOf c.customTokens name)
    let shown := (l.rows.filter (!·.labeled)).map (·.value)
    (∀ v, v ∈ i.pending.map lowercase ↔ v ∈ shown) ∧
    shown.Nodup ∧ l.summary.pending = shown.length ∧
    l.summary.pending ≤ i.pending.length ∧
    (i.pending.length = l.summary.pending ↔ (i.pending.map lowercase).Nodup) ∧
    (i.pending.length = l.summary.pending ↔
      ∀ f ∈ names, ∀ g ∈ names, ∀ x ∈ undecided f, ∀ y ∈ undecided g,
        lowercase x = lowercase y → asciiLowercase x = asciiLowercase y) := by
  intro names l undecided shown
  have hshown : shown = l.summary.unlabeled := SegmentListing.values_unlabeled c names
  have hpending : i.pending = Inference.pendingValues c names := Inference.pending_of_ofNames h
  have hnodup : l.summary.unlabeled.Nodup := SegmentSummary.unlabeled_nodup _ _
  have hmem : ∀ v, v ∈ i.pending.map lowercase ↔ v ∈ l.summary.unlabeled := by
    intro v
    rw [hpending]
    exact Inference.mem_map_pendingValues
  obtain ⟨hle, heq⟩ := length_le_of_nodup hnodup hmem
  rw [List.length_map] at hle heq
  have hcases : (i.pending.map lowercase).Nodup ↔
      ∀ f ∈ names, ∀ g ∈ names, ∀ x ∈ undecided f, ∀ y ∈ undecided g,
        lowercase x = lowercase y → asciiLowercase x = asciiLowercase y := by
    rw [hpending, Inference.pendingValues,
      nodup_map_distinctOn_iff fun x y => lowercase_eq_of_asciiLowercase_eq]
    constructor
    · intro hall f hf g hg x hx y hy
      exact hall x (List.mem_flatMap.mpr ⟨f, hf, hx⟩) y (List.mem_flatMap.mpr ⟨g, hg, hy⟩)
    · intro hall x hx y hy
      obtain ⟨f, hf, hx⟩ := List.mem_flatMap.mp hx
      obtain ⟨g, hg, hy⟩ := List.mem_flatMap.mp hy
      exact hall f hf g hg x hx y hy
  rw [hshown]
  exact ⟨hmem, hnodup, rfl, hle, heq, heq.trans hcases⟩

theorem splitOn_accents : ∀ path ∈ ["x_É.jpg", "x_é.jpg"], path.splitOn "/" = [path] := by
  intro path hpath
  have hpath : path = "x_É.jpg" ∨ path = "x_é.jpg" := by simpa using hpath
  obtain rfl | rfl := hpath
  all_goals
    rw [String.splitOn, if_neg (by decide)]
    repeat rw [String.splitOnAux, if_neg (by decide +kernel), if_neg (by decide +kernel)]
    rw [String.splitOnAux, if_pos (by decide +kernel)]
    decide +kernel

/-- Two files that differ in the case of an accented letter: one segment, counted twice. -/
theorem pending_matches_listing_accents :
    let files := ["x_É.jpg", "x_é.jpg"]
    let names := ConfigFile.sampledNames {} files
    let l := SegmentListing.ofNames {} names
    ∃ i, Inference.ofNames {} names "x" = .ok i ∧ i.pending = ["É", "é"] ∧
      l.summary.unlabeled = ["é"] ∧ i.pending.length ≠ l.summary.pending := by
  intro files names l
  have hnames : names = files := by
    have hname : ∀ path ∈ files, ConfigFile.filename path = path := by
      intro path hpath
      rw [ConfigFile.filename, splitOn_accents path hpath]
      revert hpath path
      decide
    exact (List.map_congr_left hname).trans (List.map_id files)
  have hfound : ∃ t ∈ Inference.pooledTokens {} names, asciiLowercase t.value = asciiLowercase "x" := by
    rw [hnames]
    decide +kernel
  obtain ⟨i, hi⟩ := Inference.exists_ofNames hfound
  have hpending : i.pending = ["É", "é"] := by
    rw [Inference.pending_of_ofNames hi, hnames]
    decide +kernel
  have hunlabeled : l.summary.unlabeled = ["é"] := by
    have hl : l = SegmentListing.ofNames {} files := by rw [← hnames]
    rw [hl]
    decide +kernel
  refine ⟨i, hi, hpending, hunlabeled, ?_⟩
  obtain ⟨-, -, -, -, hcount, -⟩ := pending_matches_listing {} files "x" i hi
  rw [ne_eq, hcount, hpending]
  decide +kernel

end PhotoGrouping.CommandLine
