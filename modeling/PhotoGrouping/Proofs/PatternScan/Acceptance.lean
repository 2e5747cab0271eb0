import PhotoGrouping.Proofs.PatternScan.Stages
import PhotoGrouping.Proofs.Regex.KeptGroups
import PhotoGrouping.Proofs.Validation.Check

namespace PhotoGrouping

open Regex Text

variable {pattern : String}

namespace Validation

/-- A group pattern is accepted if it is not blank, can be searched for, and a scan counts one group
in it. -/
theorem errors_groupPattern :
    (groupPattern pattern).errors = [] ↔ isBlankText pattern = false ∧
      (Regex.parse pattern false).isOk = true ∧ PatternScan.captureCount pattern = 1 := by
  have hsyntax : syntaxError? "group pattern" pattern = none ↔
      (Regex.parse pattern false).isOk = true := syntaxError?_eq_none_iff
  rw [← errors_captureCheck, ← hsyntax]
  unfold groupPattern
  split
  · rename_i hblank
    simp [hblank]
  · rename_i hblank
    split
    · rename_i hnone
      simp [hblank, hnone]
    · rename_i e he
      simp [hblank, he]

end Validation

namespace PatternScan

/-- An accepted group pattern that a scan reads as it is meant is read with or without regard to
case, and can be searched for if it is not too large. It has one group and those with a name, less
those that the scan takes for groups in bracketed classes; a search can set those of them that are in
no part repeated zero times. If none is in such a part, it is the first group, and no other, if the
groups with a name are as many as those in classes. -/
theorem read_accepted (haccepted : (Validation.groupPattern pattern).errors = [])
    (hplain : ∀ s ∈ stages pattern, s.isPlain = true) (caseless : Bool) :
    ∃ regex, Regex.read pattern caseless = .ok regex ∧
      Regex.parse pattern caseless = (if regex.fits then .ok regex else .error .tooLarge) ∧
      regex.captureCount + strayedCount pattern = 1 + namedCount pattern ∧
      regex.expr.indices = List.range' 1 regex.captureCount ∧
      regex.expr.keptIndices.Sublist regex.expr.indices ∧
      regex.expr.keptIndices.length + regex.expr.droppedCount = regex.captureCount ∧
      (∀ text sl, regex.search text = some sl →
        ∀ n ≠ 0, n ∉ regex.expr.keptIndices → sl.span? n = none) ∧
      (regex.expr.droppedCount = 0 →
        (regex.expr.keptIndices = [1] ↔ strayedCount pattern = namedCount pattern)) := by
  obtain ⟨-, hok, hcount⟩ := Validation.errors_groupPattern.mp haccepted
  obtain ⟨base, hbase⟩ := exists_of_isOk hok
  have hbase := read_of_parse hbase
  obtain ⟨regex, hregex, -⟩ := exists_read_of_read hbase caseless
  obtain ⟨hbalanced, hindices⟩ := captureCount_of_read hplain hbase
  have hsame : regex.expr.indices = base.expr.indices := indices_eq_of_read hregex hbase
  have hcaptures : regex.captureCount = base.captureCount := by
    rw [Regex.captureCount, Regex.captureCount, ← Expr.length_indices, ← Expr.length_indices, hsame]
  rw [← hcaptures, hcount] at hbalanced
  rw [← hsame, ← hcaptures] at hindices
  have hparse : Regex.parse pattern caseless =
      (if regex.fits then .ok regex else .error .tooLarge) := by
    rw [Regex.parse, hregex]
  have hkept := regex.expr.length_keptIndices
  refine ⟨regex, hregex, hparse, hbalanced, hindices, regex.expr.keptIndices_sublist, hkept, ?_, ?_⟩
  · intro text sl hsearch n hzero hn
    exact span?_search hsearch hzero hn
  · intro hdropped
    rw [Expr.keptIndices_eq hdropped, hindices]
    constructor
    · intro hone
      have hlength := congrArg List.length hone
      rw [List.length_range', List.length_singleton] at hlength
      omega
    · intro heven
      have hlength : regex.captureCount = 1 := by omega
      rw [hlength, List.range'_one]

/-- Verbose, with escaped signs of comments, a comment, a class, and a group that is not numbered. -/
theorem read_accepted_verbose :
    ∃ regex, Regex.parse "(?x) ^ ([\\w\\#-]+) \\# (?:front|rear) # either end" true = .ok regex ∧
      regex.captureCount = 1 ∧ regex.expr.keptIndices = [1] := by
  have haccepted : (Validation.groupPattern
      "(?x) ^ ([\\w\\#-]+) \\# (?:front|rear) # either end").errors = [] := by
    decide +kernel
  have hplain : ∀ s ∈ stages "(?x) ^ ([\\w\\#-]+) \\# (?:front|rear) # either end",
      s.isPlain = true := by
    decide +kernel
  obtain ⟨regex, hread, hparse, hcount, -, -, -, -, hone⟩ := read_accepted haccepted hplain true
  have hstrayed : strayedCount "(?x) ^ ([\\w\\#-]+) \\# (?:front|rear) # either end" = 0 := by
    decide +kernel
  have hnamed : namedCount "(?x) ^ ([\\w\\#-]+) \\# (?:front|rear) # either end" = 0 := by
    decide +kernel
  have hview : (Regex.read "(?x) ^ ([\\w\\#-]+) \\# (?:front|rear) # either end" true).toOption.map
      (fun regex => (regex.fits, regex.expr.droppedCount)) = some (true, 0) := by
    decide +kernel
  rw [hread] at hview
  obtain ⟨hfits, hdropped⟩ := Prod.mk.inj (Option.some.inj hview)
  rw [hfits, if_pos rfl] at hparse
  rw [hstrayed, hnamed] at hcount hone
  exact ⟨regex, hparse, hcount, (hone hdropped).mpr rfl⟩

/-- Patterns in which a scan is led astray by the bracket that a class begins with, by the names of
groups, by a comment, and by a blank at the front of a group, and one with a group that is repeated
zero times. -/
def misread : List String :=
  ["[](]", "(?P<id>a)(b)", "(?P<a[>x)(y)](z)", "(?x)a#(", "(?x)( ?:a)", "(a){0}"]

theorem keptIndices_misread : ∀ p ∈ misread, (Validation.groupPattern p).errors = [] ∧
    ∃ regex, Regex.parse p true = .ok regex ∧ regex.expr.keptIndices.length ≠ 1 := by
  have hscan : ∀ p ∈ misread, (Validation.groupPattern p).errors = [] ∧
      (Regex.parse p true).isOk = true ∧
      (Regex.parse p true).toOption.map (·.expr.keptIndices.length) ≠ some 1 := by
    decide +kernel
  intro p hp
  obtain ⟨haccepted, hok, hne⟩ := hscan p hp
  obtain ⟨regex, hregex⟩ := exists_of_isOk hok
  rw [hregex] at hne
  exact ⟨haccepted, regex, hregex, fun hone => hne (congrArg some hone)⟩

/-- A scan accepts patterns without exactly one group. -/
theorem not_accepted_captures_one :
    ¬ ∀ pattern, (Validation.groupPattern pattern).errors = [] →
      ∃ regex, Regex.parse pattern true = .ok regex ∧ regex.expr.keptIndices.length = 1 := by
  intro hall
  obtain ⟨haccepted, regex, hregex, hne⟩ := keptIndices_misread "[](]" List.mem_cons_self
  obtain ⟨regex', hregex', hone⟩ := hall "[](]" haccepted
  rw [hregex] at hregex'
  obtain rfl := Except.ok.inj hregex'
  exact hne hone

end PatternScan

end PhotoGrouping
