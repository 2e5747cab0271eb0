import Mathlib.Data.List.Infix
import PhotoGrouping.RuleMatch

namespace PhotoGrouping

variable {part cs : List Char}

theorem afterPrefix?_eq_some_iff {rest : List Char} :
    afterPrefix? part cs = some rest ↔ cs = part ++ rest := by
  induction part generalizing cs with
  | nil => simp [afterPrefix?]
  | cons p ps ih =>
    cases cs with
    | nil => simp [afterPrefix?]
    | cons c cs =>
      rw [afterPrefix?]
      by_cases h : p = c
      · simp [h, ih]
      · simp [h, Ne.symm h]

theorem beginsWith_iff : beginsWith part cs = true ↔ part <+: cs := by
  rw [beginsWith, Option.isSome_iff_exists]
  constructor
  · rintro ⟨rest, h⟩
    exact ⟨rest, (afterPrefix?_eq_some_iff.mp h).symm⟩
  · rintro ⟨rest, h⟩
    exact ⟨rest, afterPrefix?_eq_some_iff.mpr h.symm⟩

theorem holds_iff : holds part cs = true ↔ part <:+: cs := by
  induction cs with
  | nil => rw [holds, beginsWith_iff, List.prefix_nil, List.infix_nil]
  | cons c cs ih => rw [holds, Bool.or_eq_true, beginsWith_iff, ih, List.infix_cons_iff]

theorem finishesWith_iff : finishesWith part cs = true ↔ part <:+ cs := by
  rw [finishesWith, beginsWith_iff, List.reverse_prefix]

end PhotoGrouping
