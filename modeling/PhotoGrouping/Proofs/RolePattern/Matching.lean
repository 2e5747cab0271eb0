import PhotoGrouping.Proofs.Regex.Literals
import PhotoGrouping.Proofs.Regex.Search
import PhotoGrouping.Proofs.RolePattern.Reading
import PhotoGrouping.Proofs.RuleMatch.Affixes

namespace PhotoGrouping

open Regex Text

namespace RuleType

/-- A text stands in another where a rule of a type looks for it. -/
def Places (type : RuleType) (w text : List Char) : Prop :=
  ∃ before after, before ++ w ++ after = text ∧ (type.fromStart = true → before = []) ∧
    (type.toEnd = true → after = [])

variable {type : RuleType} {v w text : List Char}

theorem compare_iff (h : type ≠ .override) (name value : String) :
    type.compare name value = true ↔ type.Places value.toList name.toList := by
  cases type with
  | equals =>
    rw [compare, beq_iff_eq, ← String.toList_inj]
    constructor
    · intro he
      exact ⟨[], [], by simp [he], fun _ => rfl, fun _ => rfl⟩
    · rintro ⟨before, after, he, hbefore, hafter⟩
      rw [← he, hbefore rfl, hafter rfl, List.nil_append, List.append_nil]
  | contains =>
    rw [compare, holds_iff]
    constructor
    · rintro ⟨before, after, he⟩
      exact ⟨before, after, he, Bool.noConfusion, Bool.noConfusion⟩
    · rintro ⟨before, after, he, -⟩
      exact ⟨before, after, he⟩
  | startsWith =>
    rw [compare, beginsWith_iff]
    constructor
    · rintro ⟨after, he⟩
      exact ⟨[], after, he, fun _ => rfl, Bool.noConfusion⟩
    · rintro ⟨before, after, he, hbefore, -⟩
      rw [hbefore rfl] at he
      exact ⟨after, he⟩
  | endsWith =>
    rw [compare, finishesWith_iff]
    constructor
    · rintro ⟨before, he⟩
      exact ⟨before, [], by rw [List.append_nil, he], Bool.noConfusion, fun _ => rfl⟩
    · rintro ⟨before, after, he, -, hafter⟩
      rw [hafter rfl, List.append_nil] at he
      exact ⟨before, he⟩
  | override => exact absurd rfl h

/-- A text stands in another as the two are compared if one that is compared as it is stands there. -/
theorem places_map_iff {key : Char → Char} :
    type.Places (v.map key) (text.map key) ↔ ∃ w, w.map key = v.map key ∧ type.Places w text := by
  constructor
  · -- The key keeps the number of characters, so the text is cut where its image is.
    rintro ⟨before, after, he, hbefore, hafter⟩
    obtain ⟨front, rear, rfl, hfront, rfl⟩ := List.map_eq_append_iff.mp he.symm
    obtain ⟨before', w, rfl, rfl, hw⟩ := List.map_eq_append_iff.mp hfront
    exact ⟨w, hw, before', rear, rfl, fun h => List.map_eq_nil_iff.mp (hbefore h),
      fun h => List.map_eq_nil_iff.mp (hafter h)⟩
  · rintro ⟨w, hw, before, after, rfl, hbefore, hafter⟩
    refine ⟨before.map key, after.map key, ?_, ?_, ?_⟩
    · rw [← hw, List.map_append, List.map_append]
    · intro h
      rw [hbefore h, List.map_nil]
    · intro h
      rw [hafter h, List.map_nil]

theorem Places.mem (h : type.Places w text) {c : Char} (hc : c ∈ w) : c ∈ text := by
  obtain ⟨before, after, rfl, -⟩ := h
  simp [hc]

end RuleType

namespace RoleRule

variable {b : Bool} {r : RoleRule} {text : List Char} {i j : Nat} {sl sl' : Slots}

private theorem spans_front {p : Bool} (hi : i ≤ text.length) :
    (Expr.catOf (if p then [.look .textStart] else [])).Spans text i sl j sl' ↔
      (p = true → i = 0) ∧ j = i ∧ sl' = sl := by
  cases p with
  | true => simpa [Expr.catOf] using spans_textStart hi
  | false => simp [Expr.catOf, Expr.Spans]

private theorem spans_rear {p : Bool} (hi : i ≤ text.length) :
    (Expr.catOf (if p then [.look .textEnd] else [])).Spans text i sl j sl' ↔
      (p = true → i = text.length) ∧ j = i ∧ sl' = sl := by
  cases p with
  | true => simpa [Expr.catOf] using spans_textEnd hi
  | false => simp [Expr.catOf, Expr.Spans]

/-- The expressions of a rule match a word of its value between the ends that the rule is held to. -/
theorem spans_bodyExprs (hi : i ≤ text.length) :
    (Expr.catOf (r.bodyExprs (folding b))).Spans text i sl j sl' ↔
      (r.type.fromStart = true → i = 0) ∧ (r.type.toEnd = true → j = text.length) ∧
        Takes text (Expr.catOf (r.value.toList.map (folding b).literal)).language i sl j sl' := by
  rw [bodyExprs, spans_catOf_append]
  simp only [spans_catOf_append, spans_front hi]
  constructor
  · rintro ⟨k, sl1, ⟨k', sl2, ⟨hfront, rfl, rfl⟩, hvalue⟩, hlook⟩
    obtain ⟨hrear, rfl, rfl⟩ := (spans_rear (hvalue.le_length hi)).mp hlook
    exact ⟨hfront, hrear, (spans_iff_takes (isPlain_literals _)).mp hvalue⟩
  · rintro ⟨hfront, hrear, hvalue⟩
    have hvalue := (spans_iff_takes (isPlain_literals _)).mpr hvalue
    exact ⟨j, sl', ⟨i, sl, ⟨hfront, rfl, rfl⟩, hvalue⟩,
      (spans_rear (hvalue.le_length hi)).mpr ⟨hrear, rfl, rfl⟩⟩

/-- The expressions of a rule match somewhere if a word of its value stands where the rule looks for
it. -/
theorem exists_spans_bodyExprs :
    (∃ i j sl', i ≤ text.length ∧
      (Expr.catOf (r.bodyExprs (folding b))).Spans text i sl j sl') ↔
      ∃ w ∈ (Expr.catOf (r.value.toList.map (folding b).literal)).language,
        r.type.Places w text := by
  constructor
  · rintro ⟨i, j, sl', hi, hspan⟩
    obtain ⟨hfront, hrear, -, w, hw, ⟨after, hafter⟩, rfl⟩ := (spans_bodyExprs hi).mp hspan
    have htext : text.take i ++ w ++ after = text := by
      rw [List.append_assoc, hafter, List.take_append_drop]
    refine ⟨w, hw, text.take i, after, htext, ?_, ?_⟩
    · intro hstart
      rw [hfront hstart, List.take_zero]
    · intro hend
      have hlength := congrArg List.length htext
      rw [← hrear hend, List.length_append, List.length_append, List.length_take_of_le hi] at hlength
      exact List.length_eq_zero_iff.mp (by omega)
  · rintro ⟨w, hw, before, after, rfl, hfront, hrear⟩
    refine ⟨before.length, before.length + w.length, sl, by simp, ?_⟩
    refine (spans_bodyExprs (by simp)).mpr ⟨?_, ?_, rfl, w, hw, ?_, rfl⟩
    · intro hstart
      rw [hfront hstart, List.length_nil]
    · intro hend
      rw [hrear hend, List.append_nil, List.length_append]
    · rw [List.append_assoc, List.drop_left]
      exact List.prefix_append w after

/-- What a filename and a value have to be like for a rule to compare them character by character:
where case does not count, of ASCII characters only. -/
def Comparable (r : RoleRule) (filename : String) : Prop :=
  r.caseSensitive = false → IsAscii filename ∧ IsAscii r.value

theorem toList_compared {filename : String} (h : r.Comparable filename) :
    (if r.caseSensitive then filename else lowercase filename).toList =
        filename.toList.map (caseKey !r.caseSensitive) ∧
      r.folded.toList = r.value.toList.map (caseKey !r.caseSensitive) := by
  unfold folded
  cases hcase : r.caseSensitive with
  | true =>
    have hkey : caseKey false = id := rfl
    simp [hkey]
  | false =>
    obtain ⟨hfilename, hvalue⟩ := h hcase
    exact ⟨toList_lowercase_ascii hfilename, toList_lowercase_ascii hvalue⟩

/-- The expression of a rule matches the filenames that the rule matches. -/
theorem exists_spans_expr {filename : String} (hplain : r.type ≠ .override)
    (hblank : r.isBlank = false) (h : r.Comparable filename) :
    (∃ i j sl', i ≤ filename.toList.length ∧ r.expr.Spans filename.toList i sl j sl') ↔
      r.isMatch filename = true := by
  obtain ⟨hname, hvalue⟩ := toList_compared h
  rw [isMatch, hblank, if_neg Bool.false_ne_true, if_neg hplain, RuleType.compare_iff hplain, hname,
    hvalue, RuleType.places_map_iff, expr, exists_spans_bodyExprs]
  refine exists_congr fun w => and_congr_left fun hw => ?_
  apply mem_language_literals_iff
  intro hcase
  obtain ⟨hfilename, hascii⟩ := h (by simpa using hcase)
  exact ⟨hascii, fun c hc => hfilename c (hw.mem hc)⟩

end RoleRule

namespace Role

variable {rules : List RoleRule} {role : Role} {filename : String}

/-- The choice between the expressions of the rules for a role matches the filenames that one of the
rules matches. -/
theorem isMatch_altOf_iff (hplain : ∀ r ∈ RoleRule.live rules role, r.type ≠ .override)
    (hcase : ∀ r ∈ RoleRule.live rules role, r.Comparable filename)
    (hne : RoleRule.live rules role ≠ []) :
    Regex.isMatch ⟨Expr.altOf ((RoleRule.live rules role).map RoleRule.expr)⟩ filename = true ↔
      ∃ r ∈ rules, r.role = role ∧ r.isMatch filename = true := by
  rw [Regex.isMatch, @search_isSome_iff _ _ (Slots.none 0)]
  dsimp only
  simp only [spans_altOf (show (RoleRule.live rules role).map RoleRule.expr ≠ [] by simpa using hne)]
  constructor
  · rintro ⟨i, j, sl', hi, e, he, hspan⟩
    obtain ⟨r, hr, rfl⟩ := List.mem_map.mp he
    obtain ⟨hmem, hrole, hblank⟩ := RoleRule.mem_live.mp hr
    exact ⟨r, hmem, hrole, (RoleRule.exists_spans_expr (hplain r hr) hblank (hcase r hr)).mp
      ⟨i, j, sl', hi, hspan⟩⟩
  · rintro ⟨r, hmem, hrole, hmatch⟩
    have hblank : r.isBlank = false := by
      rw [Bool.eq_false_iff]
      intro hblank
      rw [RoleRule.isMatch, hblank, if_pos rfl] at hmatch
      cases hmatch
    have hr := RoleRule.mem_live.mpr ⟨hmem, hrole, hblank⟩
    obtain ⟨i, j, sl', hi, hspan⟩ :=
      (RoleRule.exists_spans_expr (hplain r hr) hblank (hcase r hr)).mpr hmatch
    exact ⟨i, j, sl', hi, r.expr, List.mem_map_of_mem hr, hspan⟩

end Role

end PhotoGrouping
