import PhotoGrouping.Proofs.GroupPattern.Validity
import PhotoGrouping.Proofs.Regex.Alternatives
import PhotoGrouping.Proofs.RolePattern.Reading

namespace PhotoGrouping

open Regex Text

namespace RoleRule

variable {r : RoleRule} {e : ParseError} {t fin : ParseState} {rest tail : List Char}

theorem patternText_of_override (htype : r.type = .override) :
    r.patternText = if r.caseSensitive then r.value else caseless r.value := by
  rw [patternText, body, htype]

theorem overgrown_caseless {v : String} (hparse : Regex.parse v false = .error e)
    (hfatal : e.isMendable = false) (ht : t.flags = folding false)
    (hread : parseFrom t ((caseless v).toList ++ rest) = .ok fin) : fin.Overgrown := by
  have hcaseless : Regex.parse v true = .error e := by
    have hshape := parse_shape v false true
    rw [hparse] at hshape
    exact eq_error_of_map_eq hshape
  have htext : (caseless v).toList ++ rest =
      '(' :: '?' :: 'i' :: ':' :: (v.toList ++ (')' :: rest)) := by
    rw [caseless, String.toList_append, String.toList_append, List.append_assoc, List.append_assoc]
    rfl
  rw [htext, parseFrom_caselessGroup ht] at hread
  exact overgrown_of_append hcaseless hfatal rfl rfl ⟨')', rest, rfl, Or.inr rfl⟩ hread

/-- The pattern of an override that is refused on its own is refused where a branch begins. -/
theorem overgrown_patternText
    (htype : r.type = .override) (hparse : Regex.parse r.value false = .error e)
    (hfatal : e.isMendable = false) (ht : t.flags = folding false) (hfront : t.branch = [])
    (htail : EndsBranch tail) (hread : parseFrom t (r.patternText.toList ++ tail) = .ok fin) :
    fin.Overgrown := by
  rw [patternText_of_override htype] at hread
  cases hcase : r.caseSensitive with
  | true =>
    rw [hcase, if_pos rfl] at hread
    exact overgrown_of_append hparse hfatal ht hfront htail hread
  | false =>
    rw [hcase, if_neg Bool.false_ne_true] at hread
    exact overgrown_caseless hparse hfatal ht hread

/-- The pattern of an override that is refused on its own is refused. -/
theorem parse_patternText_error (htype : r.type = .override)
    (hparse : Regex.parse r.value false = .error e) (hfatal : e.isMendable = false) :
    ∃ e', Regex.parse r.patternText false = .error e' := by
  rw [patternText_of_override htype]
  cases r.caseSensitive with
  | true => exact ⟨e, hparse⟩
  | false =>
    refine parse_error_of_overgrown fun fin hread => ?_
    rw [if_neg Bool.false_ne_true, ← List.append_nil (caseless r.value).toList] at hread
    exact overgrown_caseless hparse hfatal rfl hread

end RoleRule

namespace Role

/-- The name of the field that holds the pattern of a role. -/
def fieldName : Role → String
  | .front => "front pattern"
  | .rear => "rear pattern"
  | .overview => "overview pattern"

/-- The patterns of the rules for a role that are not blank, by ascending priority. -/
def ownPatterns (rules : List RoleRule) (role : Role) : List String :=
  (RoleRule.forRole rules role).filterMap RoleRule.pattern?

variable {rules : List RoleRule} {role : Role} {r : RoleRule} {before after : List RoleRule}
  {e : ParseError}

theorem ownPatterns_eq (rules : List RoleRule) (role : Role) :
    ownPatterns rules role = (RoleRule.live rules role).map RoleRule.patternText :=
  RoleRule.filterMap_pattern? _

theorem mem_ownPatterns {text : String} : text ∈ ownPatterns rules role ↔
    ∃ r ∈ rules, r.role = role ∧ r.pattern? = some text := by
  rw [ownPatterns, List.mem_filterMap]
  simp only [RoleRule.mem_forRole, and_assoc]

theorem pattern_of_one {text : String} (h : ownPatterns rules role = [text]) :
    pattern rules role = text := by
  rw [ownPatterns] at h
  rw [pattern, h]

theorem pattern_of_many (h : 2 ≤ (ownPatterns rules role).length) :
    pattern rules role = "(?:" ++ alternatives (ownPatterns rules role) ++ ")" := by
  rw [ownPatterns] at h ⊢
  rw [pattern]
  split
  · rename_i hown
    rw [hown] at h
    cases h
  · rename_i p hown
    rw [hown, List.length_singleton] at h
    omega
  · rfl

theorem isBlankText_patternText (htype : r.type = .override) (hblank : r.isBlank = false) :
    isBlankText r.patternText = false := by
  rw [RoleRule.patternText_of_override htype]
  cases r.caseSensitive with
  | true => exact hblank
  | false =>
    rw [if_neg Bool.false_ne_true, caseless, isBlankText, String.toList_append, String.toList_append]
    rfl

theorem isBlankText_group (texts : List String) :
    isBlankText ("(?:" ++ alternatives texts ++ ")") = false := by
  rw [isBlankText, Regex.toList_group]
  rfl

theorem length_ownPatterns (hlive : RoleRule.live rules role = before ++ r :: after) :
    (ownPatterns rules role).length = before.length + after.length + 1 := by
  rw [ownPatterns_eq, hlive, List.length_map, List.length_append, List.length_cons, Nat.add_assoc]

theorem isBlankText_pattern (hmem : r ∈ RoleRule.live rules role) (htype : r.type = .override) :
    isBlankText (pattern rules role) = false := by
  have hown : r.patternText ∈ ownPatterns rules role := by
    rw [ownPatterns_eq]
    exact List.mem_map_of_mem hmem
  have hpos := List.length_pos_of_mem hown
  by_cases hone : (ownPatterns rules role).length = 1
  · obtain ⟨text, htext⟩ := List.length_eq_one_iff.mp hone
    rw [htext, List.mem_singleton] at hown
    rw [pattern_of_one htext, ← hown]
    exact isBlankText_patternText htype (RoleRule.mem_live.mp hmem).2.2
  · rw [pattern_of_many (by omega)]
    exact isBlankText_group _

/-- A role whose pattern is refused is reported by the check of a configuration made of the rules.
-/
theorem mem_errors_of_refused (hblank : isBlankText (pattern rules role) = false)
    (hparse : Regex.parse (pattern rules role) false = .error e)
    (groupPattern groupIdToken : Option String) :
    (⟨.regexSyntaxError, "Invalid regular expression in " ++ role.fieldName ++ ": " ++
        e.message, some (pattern rules role)⟩ : ValidationError) ∈
      (Validation.patterns (.ofRules groupPattern groupIdToken rules)).errors := by
  have hfield : (PatternConfig.ofRules groupPattern groupIdToken rules).rolePattern? role =
      some (pattern rules role) := by
    have hown : (PatternConfig.ofRules groupPattern groupIdToken rules).rolePattern role =
        pattern? rules role := by
      cases role with
      | front => rfl
      | rear => rfl
      | overview => rfl
    have hempty : (pattern rules role).isEmpty = false := by
      rw [Bool.eq_false_iff]
      intro hempty
      rw [String.isEmpty_iff.mp hempty] at hblank
      cases hblank
    rw [PatternConfig.rolePattern?, hown, pattern?]
    simp [hempty, nonBlank, hblank]
  rw [Validation.errors_patterns, Validation.errors_syntaxCheck]
  refine List.mem_append_left _ (List.mem_append_right _ (List.mem_append_right _ ?_))
  have hsyntax : Validation.syntaxError? role.fieldName (pattern rules role) = some ⟨.regexSyntaxError,
      "Invalid regular expression in " ++ role.fieldName ++ ": " ++ e.message,
      some (pattern rules role)⟩ := by
    rw [Validation.syntaxError?, hparse]
  refine List.mem_filterMap.mpr ⟨(role.fieldName, some (pattern rules role)), ?_, hsyntax⟩
  cases role with
  | front => simp [hfield, fieldName]
  | rear => simp [hfield, fieldName]
  | overview => simp [hfield, fieldName]

/-- A role with an override that is refused on its own has a pattern that is refused, where the
patterns before that one do not reach into it. -/
theorem parse_pattern_error (hlive : RoleRule.live rules role = before ++ r :: after)
    (htype : r.type = .override) (hparse : Regex.parse r.value false = .error e)
    (hfatal : e.isMendable = false)
    (hbefore : ∀ q ∈ before, (Regex.parse q.patternText false).isOk = true ∧
      KeepsSettings q.patternText ∧ ¬ EndsInComment q.patternText) :
    ∃ e', Regex.parse (pattern rules role) false = .error e' := by
  have hown : ownPatterns rules role =
      before.map RoleRule.patternText ++ r.patternText :: after.map RoleRule.patternText := by
    rw [ownPatterns_eq, hlive, List.map_append, List.map_cons]
  by_cases hmany : 2 ≤ (ownPatterns rules role).length
  · rw [pattern_of_many hmany]
    refine parse_error_of_overgrown fun fin hread => ?_
    rw [Regex.toList_group, parseFrom_plainGroup rfl, hown, List.map_append, List.map_cons,
      Regex.intercalate_bar, List.append_assoc, List.append_assoc] at hread
    refine overgrown_of_before rfl rfl (List.forall_mem_map.mpr hbefore) ?_ hread
    intro t ht hfront fin hread
    refine RoleRule.overgrown_patternText htype hparse hfatal ht hfront ?_ hread
    cases after with
    | nil => exact ⟨')', [], rfl, Or.inr rfl⟩
    | cons q after => exact ⟨'|', _, rfl, Or.inl rfl⟩
  · have hone : ownPatterns rules role = [r.patternText] := by
      rw [length_ownPatterns hlive] at hmany
      have hbefore : before = [] := List.length_eq_zero_iff.mp (by omega)
      have hafter : after = [] := List.length_eq_zero_iff.mp (by omega)
      rw [hown, hbefore, hafter]
      rfl
    rw [pattern_of_one hone]
    exact RoleRule.parse_patternText_error htype hparse hfatal

/-- The patterns of the rules for a role, if each can be searched for and several of them join
cleanly, are joined to a pattern that matches a filename exactly if one of them does, unless it
nests too deep or is too large. -/
theorem parse_pattern (hrule : ∃ r ∈ rules, r.role = role ∧ r.isBlank = false)
    (hok : ∀ text ∈ ownPatterns rules role, (Regex.parse text false).isOk = true)
    (hjoin : (ownPatterns rules role).length ≠ 1 → JoinsCleanly (ownPatterns rules role)) :
    ∃ regex : Regex, Regex.parse (pattern rules role) false =
        (if (ownPatterns rules role).length = 1 ∨
            ∀ text ∈ ownPatterns rules role, nesting text + 2 ≤ maxDepth then
          if ((ownPatterns rules role).map weightOf).sum ≤ maxWeight then .ok regex
          else .error .tooLarge
        else .error .tooDeep) ∧
      ∀ filename, regex.isMatch filename = true ↔ ∃ text ∈ ownPatterns rules role, ∃ own,
        Regex.parse text false = .ok own ∧ own.isMatch filename = true := by
  obtain ⟨r, hmem, hrole, hblank⟩ := hrule
  have hlive := RoleRule.mem_live.mpr ⟨hmem, hrole, hblank⟩
  have hsome : r.patternText ∈ ownPatterns rules role := by
    rw [ownPatterns_eq]
    exact List.mem_map_of_mem hlive
  by_cases hone : (ownPatterns rules role).length = 1
  · obtain ⟨text, htext⟩ := List.length_eq_one_iff.mp hone
    rw [htext, List.forall_mem_singleton] at hok
    have hweight := weightOf_le hok
    obtain ⟨own, hparse⟩ := Regex.exists_of_isOk hok
    refine ⟨own, ?_, fun filename => ?_⟩
    · rw [pattern_of_one htext, htext, hparse]
      simp [hweight]
    · simp [htext, hparse]
  · have hmany : 2 ≤ (ownPatterns rules role).length := by
      have hpos := List.length_pos_of_mem hsome
      omega
    rw [pattern_of_many hmany]
    simpa only [hone, false_or] using parse_joined hok (hjoin hone) hmany

/-- Rules that stand in the order of their priorities keep it. -/
theorem forRole_of_pairwise
    (h : (rules.filter (·.role = role)).Pairwise fun a b => a.priority.toInt ≤ b.priority.toInt) :
    RoleRule.forRole rules role = rules.filter (·.role = role) :=
  List.mergeSort_of_pairwise (h.imp fun hab => decide_eq_true hab)

/-- A verbose pattern with a comment that ends, a group with a name, a value in which case counts,
and a blank one; and an override that is no pattern, before one that ends in a comment. -/
def joiningRules : List RoleRule :=
  [⟨.front, .override, "(?x) b (u) # bumper\n g", false, 0⟩,
    ⟨.front, .override, "f(?P<side>l|r)ont|^vorne", true, 1⟩, ⟨.rear, .override, "a|b", true, 1⟩,
    ⟨.rear, .override, "x\x7b2,1\x7d", false, 2⟩, ⟨.front, .endsWith, "(f).jpg", true, 2⟩,
    ⟨.front, .override, " ", true, 2⟩, ⟨.rear, .override, "(?x)c #", true, 2⟩]

theorem ownPatterns_joiningRules : ownPatterns joiningRules .front =
    ["(?i:(?x) b (u) # bumper\n g)", "f(?P<side>l|r)ont|^vorne", "\\(f\\)\\.jpg$"] := by
  rw [ownPatterns, forRole_of_pairwise (by decide +kernel)]
  decide +kernel

theorem live_joiningRules : RoleRule.live joiningRules .rear =
    [⟨.rear, .override, "a|b", true, 1⟩] ++
      ⟨.rear, .override, "x\x7b2,1\x7d", false, 2⟩ :: [⟨.rear, .override, "(?x)c #", true, 2⟩] := by
  rw [RoleRule.live, forRole_of_pairwise (by decide +kernel)]
  decide +kernel

/-- A pattern whose comment hides the pattern of the next rule. -/
def commentedRules : List RoleRule :=
  [⟨.front, .override, "(?x)a #c", true, 0⟩, ⟨.front, .override, "b", true, 1⟩]

/-- An override that closes the group around it and opens another. -/
def unbalancedRules : List RoleRule :=
  [⟨.front, .override, "a)(?:b", false, 0⟩]

end Role

end PhotoGrouping
