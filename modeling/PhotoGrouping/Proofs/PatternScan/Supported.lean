import PhotoGrouping.Proofs.PatternScan.Acceptance
import PhotoGrouping.Proofs.PatternScan.FlatClass

namespace PhotoGrouping.PatternScan

open Regex Text

namespace Stage

/-- The text of the bracketed class that a stage is in front of, with its closing bracket. -/
def classText (s : Stage) : List Char :=
  match s.shown with
  | '[' :: cs =>
    match readClass s.state.flags cs with
    | .ok (_, rest) => cs.take (cs.length - rest.length)
    | .error _ => []
  | _ => []

/-- Whether a scan is meant for what a stage is in front of: nothing is hidden, and a bracketed class
neither holds a bare `[` nor begins with `]`. -/
def isSupported (s : Stage) : Bool :=
  !s.state.flags.verbose && isFlatText s.classText

variable {s : Stage} {cs rest : List Char}

theorem shows (h : s.isSupported = true) : s.state.flags.verbose = false := by
  have hverbose := (Bool.and_eq_true_iff.mp h).1
  rwa [Bool.not_eq_true'] at hverbose

theorem flat (h : s.isSupported = true) : isFlatText s.classText = true :=
  (Bool.and_eq_true_iff.mp h).2

theorem classText_eq {m : ClassMember} (hshown : s.shown = '[' :: cs)
    (hread : readClass s.state.flags cs = .ok (m, rest)) :
    s.classText = cs.take (cs.length - rest.length) := by
  simp [classText, hshown, hread]

theorem strayed_eq_zero (h : s.isSupported = true) : s.strayed = 0 := by
  unfold Stage.strayed
  split
  · rename_i cs hshown
    split
    · rename_i m rest hread
      have hflat := flat h
      rw [classText_eq hshown hread] at hflat
      exact countFrom_of_isFlatText (shows h) hflat hread
    · rfl
  · rfl

/-- Where nothing is hidden and no group has a name, a scan reads on as it is meant. -/
theorem isPlain_of_isSupported (h : s.isSupported = true) (hnames : s.state.names = []) :
    s.isPlain = true := by
  have hskip (cs : List Char) : s.state.flags.skip cs = cs := Flags.skip_eq_self (shows h) cs
  unfold isPlain
  rw [shows h, hnames, Bool.not_false, Bool.true_or, Bool.true_and, List.all_nil, Bool.and_true]
  split
  · rename_i rest _
    rw [hskip]
    cases hquestion : rest.head? == some '?' with
    | true => rw [Bool.or_true]
    | false => rw [Bool.or_false, bne, hquestion, Bool.not_false]
  · rfl

end Stage

variable {pattern : String} {caseless : Bool} {regex : Regex}

theorem strayedCount_eq_zero (h : ∀ s ∈ stages pattern, s.isSupported = true) :
    strayedCount pattern = 0 := by
  apply List.sum_eq_zero_iff_forall_eq_nat.mpr
  intro n hn
  obtain ⟨s, hs, rfl⟩ := List.mem_map.mp hn
  exact Stage.strayed_eq_zero (h s hs)

theorem namedCount_eq_zero (hnames : ∀ s ∈ stages pattern, s.state.names = []) :
    namedCount pattern = 0 := by
  unfold namedCount
  cases hlast : (stages pattern).getLast? with
  | none => rfl
  | some s => simp [hnames s (List.mem_of_getLast? hlast)]

/-- A scan counts the groups of each pattern that it is meant for: one that is read, whose stages are
supported, and in which no group has a name. -/
theorem captureCount_of_isSupported (hsupported : ∀ s ∈ stages pattern, s.isSupported = true)
    (hnames : ∀ s ∈ stages pattern, s.state.names = [])
    (h : Regex.read pattern caseless = .ok regex) :
    captureCount pattern = regex.captureCount := by
  have hplain : ∀ s ∈ stages pattern, s.isPlain = true :=
    fun s hs => Stage.isPlain_of_isSupported (hsupported s hs) (hnames s hs)
  obtain ⟨base, hbase, -⟩ := exists_read_of_read h false
  have hsame : base.expr.indices = regex.expr.indices := indices_eq_of_read hbase h
  obtain ⟨hbalanced, -⟩ := captureCount_of_read hplain hbase
  rw [strayedCount_eq_zero hsupported, namedCount_eq_zero hnames] at hbalanced
  calc captureCount pattern
      _ = base.captureCount := hbalanced.symm
      _ = base.expr.indices.length := Expr.length_indices.symm
      _ = regex.expr.indices.length := congrArg List.length hsame
      _ = regex.captureCount := Expr.length_indices

/-- Groups within groups, with brackets in classes and behind backslashes, and groups of settings. -/
theorem captureCount_of_isSupported_nested :
    ∃ regex, Regex.read "^(\\(\\d{2}|[^(\\])a-]+)(?i:[\\w&&(?]|\\x28)_(?-s)(b(c|)*?)?$" true =
      .ok regex ∧ regex.captureCount = 3 := by
  have hok : (Regex.read "^(\\(\\d{2}|[^(\\])a-]+)(?i:[\\w&&(?]|\\x28)_(?-s)(b(c|)*?)?$"
      true).isOk = true := by
    decide +kernel
  have hsupported : ∀ s ∈ stages "^(\\(\\d{2}|[^(\\])a-]+)(?i:[\\w&&(?]|\\x28)_(?-s)(b(c|)*?)?$",
      s.isSupported = true := by
    decide +kernel
  have hnames : ∀ s ∈ stages "^(\\(\\d{2}|[^(\\])a-]+)(?i:[\\w&&(?]|\\x28)_(?-s)(b(c|)*?)?$",
      s.state.names = [] := by
    decide +kernel
  obtain ⟨regex, hregex⟩ := exists_of_isOk hok
  refine ⟨regex, hregex, ?_⟩
  rw [← captureCount_of_isSupported hsupported hnames hregex]
  decide +kernel

end PhotoGrouping.PatternScan
