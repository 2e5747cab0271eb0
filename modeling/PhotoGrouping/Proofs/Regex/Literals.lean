import PhotoGrouping.Proofs.Regex.Language
import PhotoGrouping.Proofs.Regex.Reads
import PhotoGrouping.Proofs.Text.AsciiCase

namespace PhotoGrouping.Regex

open Text

variable {b : Bool} {c d : Char} {cs w text : List Char} {s : CharClass} {i j : Nat}
  {sl sl' : Slots}

theorem contains_folded (h : s.contains c = true) :
    ((folding b).folded s).contains c = true := by
  cases b with
  | false => exact h
  | true =>
    change (s.contains c || (caseVariants c).any s.contains) = true
    rw [h, Bool.true_or]

/-- Where case does not count, a set has its members and what is written as one but for case. -/
theorem contains_or_of_folded (h : ((folding b).folded s).contains c = true) :
    s.contains c = true ∨ ∃ d ∈ caseVariants c, s.contains d = true := by
  cases b with
  | false => exact Or.inl h
  | true =>
    change (s.contains c || (caseVariants c).any s.contains) = true at h
    exact (Bool.or_eq_true_iff.mp h).imp_right List.any_eq_true.mp

/-- The words of characters that stand for themselves. -/
theorem mem_language_literals :
    w ∈ (Expr.catOf (cs.map (folding b).literal)).language ↔
      List.Forall₂ (fun c d => ((folding b).folded (.single c)).contains d = true) cs w := by
  rw [language_catOf]
  induction cs generalizing w with
  | nil =>
    rw [List.forall₂_nil_left_iff]
    exact Language.mem_one w
  | cons c cs ih =>
    rw [List.map_cons, List.map_cons, List.prod_cons, Language.mem_mul]
    constructor
    · rintro ⟨u, ⟨d, hd, rfl⟩, v, hv, rfl⟩
      exact List.Forall₂.cons hd (ih.mp hv)
    · intro h
      cases h with
      | cons hd hv => exact ⟨[_], ⟨_, hd, rfl⟩, _, ih.mpr hv, rfl⟩

theorem mem_language_literals_self (b : Bool) (cs : List Char) :
    cs ∈ (Expr.catOf (cs.map (folding b).literal)).language := by
  rw [mem_language_literals, List.forall₂_same]
  intro c _
  apply contains_folded
  rw [CharClass.contains_single, decide_eq_true_eq]

theorem isPlain_literals (cs : List Char) : (Expr.catOf (cs.map (folding b).literal)).isPlain = true := by
  rw [isPlain_catOf, List.all_map, List.all_eq_true]
  intro c _
  rfl

/-- A character as it is compared: in lower case where case does not count. -/
def caseKey (caseless : Bool) (c : Char) : Char :=
  if caseless then c.toLower else c

/-- A character stands for those that are compared as it is; where case does not count, that is said
of ASCII characters only. -/
theorem contains_folded_single (h : b = true → c.toNat < 128 ∧ d.toNat < 128) :
    ((folding b).folded (.single c)).contains d = true ↔ caseKey b d = caseKey b c := by
  cases b with
  | false =>
    change (CharClass.single c).contains d = true ↔ d = c
    rw [CharClass.contains_single, decide_eq_true_eq]
  | true =>
    obtain ⟨hc, hd⟩ := h rfl
    change ((CharClass.single c).contains d || (caseVariants d).any (CharClass.single c).contains) =
      true ↔ d.toLower = c.toLower
    simp only [CharClass.contains_single, Bool.or_eq_true, decide_eq_true_eq, List.any_eq_true,
      exists_eq_right]
    rw [mem_caseVariants_ascii hc hd, eq_comm (a := c.toLower), or_iff_right_iff_imp]
    exact congrArg Char.toLower

/-- The words of characters that stand for themselves are the texts that are compared as they are. -/
theorem mem_language_literals_iff
    (h : b = true → (∀ c ∈ cs, c.toNat < 128) ∧ ∀ c ∈ w, c.toNat < 128) :
    w ∈ (Expr.catOf (cs.map (folding b).literal)).language ↔
      w.map (caseKey b) = cs.map (caseKey b) := by
  rw [mem_language_literals]
  induction cs generalizing w with
  | nil => simp
  | cons c cs ih =>
    cases w with
    | nil => simp
    | cons d w =>
      have hcd : b = true → c.toNat < 128 ∧ d.toNat < 128 := by
        intro hb
        exact ⟨(h hb).1 c List.mem_cons_self, (h hb).2 d List.mem_cons_self⟩
      rw [List.forall₂_cons, contains_folded_single hcd, List.map_cons, List.map_cons,
        List.cons_eq_cons, ih]
      intro hb
      exact ⟨fun x hx => (h hb).1 x (List.mem_cons_of_mem _ hx),
        fun x hx => (h hb).2 x (List.mem_cons_of_mem _ hx)⟩

end PhotoGrouping.Regex
