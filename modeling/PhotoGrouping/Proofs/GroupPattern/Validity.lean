import PhotoGrouping.Proofs.GroupPattern.Scan
import PhotoGrouping.Proofs.RuleMatch.Affixes
import PhotoGrouping.Proofs.Validation.Reports
import PhotoGrouping.Validation.Patterns

namespace PhotoGrouping

open Regex Text

namespace Validation

/-- The error of a group pattern that is too large to be searched for. -/
def sizeError (pattern : String) : ValidationError :=
  ⟨.regexSyntaxError,
    "Invalid regular expression in group pattern: " ++ ParseError.tooLarge.message,
    some pattern⟩

/-- The errors of the role patterns that cannot be read. -/
def roleSyntaxErrors (c : PatternConfig) : List ValidationError :=
  [("front pattern", c.rolePattern? .front), ("rear pattern", c.rolePattern? .rear),
    ("overview pattern", c.rolePattern? .overview)].filterMap
      fun (name, pattern) => pattern.bind (syntaxError? name)

theorem errors_patterns (c : PatternConfig) :
    (patterns c).errors = (groupPatternCheck c).errors ++ (rolePatternsCheck c).errors ++
      (roleRulesCheck c).errors ++ (syntaxCheck c).errors ++ (breadthCheck c).errors := by
  simp [patterns, Report.errors_collect]

theorem warnings_patterns (c : PatternConfig) :
    (patterns c).warnings = (groupPatternCheck c).warnings ++ (rolePatternsCheck c).warnings ++
      (roleRulesCheck c).warnings ++ (syntaxCheck c).warnings ++ (breadthCheck c).warnings := by
  simp [patterns, Report.warnings_collect]

theorem errors_syntaxCheck (c : PatternConfig) :
    (syntaxCheck c).errors =
      (c.groupPattern?.bind (syntaxError? "group pattern")).toList ++ roleSyntaxErrors c := by
  unfold syntaxCheck roleSyntaxErrors
  dsimp only
  rw [List.filterMap_cons]
  dsimp only
  cases c.groupPattern?.bind (syntaxError? "group pattern") with
  | none => rfl
  | some e => rfl

theorem syntaxError?_of_read (name : String) {pattern : String} {regex : Regex}
    (h : Regex.read pattern false = .ok regex) :
    syntaxError? name pattern =
      if regex.fits then none
      else some ⟨.regexSyntaxError,
        "Invalid regular expression in " ++ name ++ ": " ++ ParseError.tooLarge.message,
        some pattern⟩ := by
  cases hf : regex.fits with
  | true => simp [syntaxError?, Regex.parse, h, hf]
  | false => simp [syntaxError?, Regex.parse, h, hf]

theorem captureCheck_of_fragment {pattern : String} (h : PatternScan.Fragment pattern.toList 1) :
    captureCheck pattern = .success := by
  have hc := h.countFrom_append []
  rw [List.append_nil] at hc
  have hcount : PatternScan.captureCount pattern = 1 := hc
  simp only [captureCheck, hcount]

section Kinds

variable {c : PatternConfig} {e : ValidationError}

theorem kind_of_mem_rolePatternsCheck (h : e ∈ (rolePatternsCheck c).errors) :
    e.kind = .noRolePatterns := by
  unfold rolePatternsCheck at h
  dsimp only at h
  split at h
  · cases h
  · rw [List.mem_singleton.mp h]
    rfl

theorem kind_of_mem_roleRulesCheck (h : e ∈ (roleRulesCheck c).errors) :
    e.kind = .noRoleRulesDefined ∨ e.kind = .invalidRuleValue := by
  unfold roleRulesCheck at h
  split at h
  · rw [List.mem_singleton.mp h]
    exact Or.inl rfl
  · obtain ⟨r, -, rfl⟩ := List.mem_map.mp h
    exact Or.inr rfl

theorem kind_of_mem_roleSyntaxErrors (h : e ∈ roleSyntaxErrors c) : e.kind = .regexSyntaxError := by
  obtain ⟨⟨name, field⟩, -, h⟩ := List.mem_filterMap.mp h
  obtain ⟨p, -, h⟩ := Option.bind_eq_some_iff.mp h
  unfold syntaxError? at h
  split at h
  · cases h
  · rw [← Option.some.inj h]

end Kinds

/-- Only the check of the breadth warns of a pattern that takes any text. -/
theorem hasWarning_permissivePattern (c : PatternConfig) :
    (patterns c).hasWarning .permissivePattern =
      (breadthCheck c).hasWarning .permissivePattern := by
  have hgroup : (groupPatternCheck c).warnings = [] := by
    unfold groupPatternCheck captureCheck
    split
    · split <;> rfl
    · split <;> rfl
  have hroles : ∀ w ∈ (rolePatternsCheck c).warnings, w.kind ≠ .permissivePattern := by
    intro w hw
    simp only [rolePatternsCheck] at hw
    split at hw
    · simp at hw
    · rw [List.mem_singleton.mp hw]
      decide
  have hrules : ∀ w ∈ (roleRulesCheck c).warnings, w.kind ≠ .permissivePattern := by
    intro w hw
    unfold roleRulesCheck at hw
    split at hw
    · cases hw
    · obtain ⟨⟨x, y⟩, -, hxy⟩ := List.mem_filterMap.mp hw
      dsimp only at hxy
      split at hxy
      · rw [← Option.some.inj hxy]
        change WarningKind.overlappingRules ≠ .permissivePattern
        decide
      · cases hxy
  have hsyntax : (syntaxCheck c).warnings = [] := rfl
  rw [Report.hasWarning, Report.hasWarning, warnings_patterns, hgroup, hsyntax]
  simp only [List.any_append, List.any_nil, Bool.false_or, Bool.or_false]
  rw [List.any_eq_false.mpr (by simpa using hroles), List.any_eq_false.mpr (by simpa using hrules)]
  rfl

end Validation

namespace GroupPattern

open Validation

/-- What holds of a pattern that takes the group of a filename, as it is read: it spans the whole
name, has one capturing group, takes no arbitrary text, and no validation finds fault with it unless
it is too large to be searched for. -/
structure Sound (pattern : String) (regex : Regex) : Prop where
  starts : pattern.toList.head? = some '^'
  ends : pattern.toList.getLast? = some '$'
  reads : Regex.read pattern false = .ok regex
  captures : regex.captureCount = 1
  scanned : PatternScan.captureCount pattern = 1
  narrow : ∀ part ∈ anyTextParts, holds part.toList pattern.toList = false
  accepted : Validation.groupPattern pattern =
    if regex.fits then .success else .ofError (sizeError pattern)
  errors : ∀ c : PatternConfig, c.groupPattern = some pattern →
    (patterns c).errors = (rolePatternsCheck c).errors ++ (roleRulesCheck c).errors ++
      (if regex.fits then [] else [sizeError pattern]) ++ roleSyntaxErrors c
  warnings : ∀ c : PatternConfig, c.groupPattern = some pattern →
    (patterns c).hasWarning .permissivePattern = false

variable {tokens : List Token} {g : Token}

theorem generate_eq_ok (h : g ∈ tokens) :
    generate tokens (some g) = .ok (ofTokensAt tokens g.position) := by
  have hne : tokens.isEmpty = false := by
    rw [List.isEmpty_eq_false_iff]
    exact List.ne_nil_of_mem h
  have hc : tokens.contains g = true := by
    rw [List.contains_eq_any_beq, List.any_eq_true]
    exact ⟨g, h, beq_self_eq_true g⟩
  simp [generate, hne, hc]

theorem holds_anyTextPart_eq_false {pattern part : String} {count : Nat}
    (h : PatternScan.Fragment pattern.toList count) (hp : part ∈ anyTextParts) :
    holds part.toList pattern.toList = false := by
  rw [Bool.eq_false_iff]
  intro hh
  have hchain := h.isChain.infix (holds_iff.mp hh)
  have hparts : ∀ part ∈ anyTextParts, ¬ part.toList.IsChain PatternScan.Apart := by decide
  exact hparts part hp hchain

/-- A pattern between the ends of the text is sound if it is read with one capturing group, of which
a scan finds as many. -/
theorem sound_of_fragment {pattern : String} {regex : Regex} {cs : List Char}
    (htext : pattern.toList = '^' :: cs ++ ['$']) (hread : Regex.read pattern false = .ok regex)
    (hcaptures : regex.captureCount = 1) (hscan : PatternScan.Fragment pattern.toList 1) :
    Sound pattern regex := by
  have hblank : isBlankText pattern = false := by
    rw [isBlankText, htext]
    rfl
  have hgroup : ∀ c : PatternConfig, c.groupPattern = some pattern →
      c.groupPattern? = some pattern := by
    intro c hc
    simp [PatternConfig.groupPattern?, nonBlank, hc, hblank]
  have hcheck := captureCheck_of_fragment hscan
  have hsyntax := syntaxError?_of_read "group pattern" hread
  have hnarrow : ∀ part ∈ anyTextParts, holds part.toList pattern.toList = false :=
    fun part hp => holds_anyTextPart_eq_false hscan hp
  have hwide : (anyTextParts.any fun part => holds part.toList pattern.toList) = false := by
    rw [List.any_eq_false]
    intro part hp
    simp [hnarrow part hp]
  have hcount := hscan.countFrom_append []
  rw [List.append_nil] at hcount
  refine ⟨by rw [htext]; rfl, by rw [htext, List.getLast?_concat], hread, hcaptures, hcount, hnarrow,
    ?_, ?_, ?_⟩
  · rw [Validation.groupPattern, hblank, hsyntax, hcheck]
    cases regex.fits with
    | true => rfl
    | false => rfl
  · intro c hc
    have hbreadth : (breadthCheck c).errors = [] := by
      rw [breadthCheck, hgroup c hc]
      simp only [hwide, Bool.false_eq_true, if_false]
      split <;> rfl
    rw [errors_patterns, errors_syntaxCheck, groupPatternCheck, hgroup c hc, hbreadth]
    dsimp only [Option.bind_some]
    rw [hcheck, hsyntax]
    cases regex.fits with
    | true => simp
    | false => simp [sizeError]
  · intro c hc
    rw [hasWarning_permissivePattern, breadthCheck, hgroup c hc]
    simp only [hwide, Bool.false_eq_true, if_false]
    split <;> rfl

/-- The errors of a configuration whose group pattern is sound are about its roles or about the size of
the pattern. -/
theorem Sound.kind_of_mem_errors {pattern : String} {regex : Regex} {c : PatternConfig}
    {e : ValidationError} (h : Sound pattern regex)
    (hc : c.groupPattern = some pattern)
    (he : e ∈ (patterns c).errors) :
    e.kind ∈ [.noRolePatterns, .noRoleRulesDefined, .invalidRuleValue] ∨
      e.kind = .regexSyntaxError ∧ (e = sizeError pattern ∨ e ∈ roleSyntaxErrors c) := by
  rw [h.errors c hc, List.mem_append, List.mem_append, List.mem_append] at he
  obtain ((he | he) | he) | he := he
  · simp [kind_of_mem_rolePatternsCheck he]
  · obtain hk | hk := kind_of_mem_roleRulesCheck he
    · simp [hk]
    · simp [hk]
  · split at he
    · cases he
    · obtain rfl := List.mem_singleton.mp he
      exact Or.inr ⟨rfl, Or.inl rfl⟩
  · exact Or.inr ⟨kind_of_mem_roleSyntaxErrors he, Or.inr he⟩

/-- The pattern made for a token of a list is sound. -/
theorem generate_sound (tokens : List Token) (g : Token) (h : g ∈ tokens) :
    ∃ pattern regex, generate tokens (some g) = .ok pattern ∧ Sound pattern regex := by
  obtain ⟨hread, hcaptures⟩ := read_ofTokensAt false h
  exact ⟨_, _, generate_eq_ok h, sound_of_fragment (toList_ofTokensAt tokens g.position) hread
    hcaptures (fragment_ofTokensAt h)⟩

theorem generate_sound_metacharacters :
    generate [⟨"IMG", 0, .leading, 0.8⟩, ⟨"(.*)", 3, .trailing, 1.0⟩]
      (some ⟨"(.*)", 3, .trailing, 1.0⟩) = .ok "^IMG[_\\-.\\s]+(\\(\\.\\*\\))$" ∧
      ∃ regex, Sound "^IMG[_\\-.\\s]+(\\(\\.\\*\\))$" regex := by
  obtain ⟨pattern, regex, hgenerate, hsound⟩ :=
    generate_sound [⟨"IMG", 0, .leading, 0.8⟩, ⟨"(.*)", 3, .trailing, 1.0⟩]
      ⟨"(.*)", 3, .trailing, 1.0⟩ (by simp)
  have htext : ofTokensAt [⟨"IMG", 0, .leading, 0.8⟩, ⟨"(.*)", 3, .trailing, 1.0⟩] 3 =
      "^IMG[_\\-.\\s]+(\\(\\.\\*\\))$" := by
    have hpositions : ascendingPositions [0, 3] = [0, 3] := List.mergeSort_of_pairwise (by decide)
    simp only [ofTokensAt, List.map_cons, List.map_nil, hpositions]
    decide +kernel
  have hmember : (⟨"(.*)", 3, .trailing, 1.0⟩ : Token) ∈
      [⟨"IMG", 0, .leading, 0.8⟩, ⟨"(.*)", 3, .trailing, 1.0⟩] := by simp
  have hpattern := (generate_eq_ok hmember).symm.trans hgenerate
  rw [htext] at hpattern
  obtain rfl := Except.ok.inj hpattern
  exact ⟨hgenerate, regex, hsound⟩

end GroupPattern

end PhotoGrouping
