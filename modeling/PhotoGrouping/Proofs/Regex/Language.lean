import PhotoGrouping.Proofs.Regex.Parts
import PhotoGrouping.Proofs.Regex.Spans

namespace PhotoGrouping.Regex

namespace Expr

/-- Whether an expression neither captures nor looks around. -/
def isPlain : Expr → Bool
  | .empty | .oneOf _ => true
  | .look _ | .capture .. => false
  | .cat r s | .alt r s => r.isPlain && s.isPlain
  | .rep _ _ _ r => r.isPlain

def language : Expr → Language Char
  | .empty | .look _ => 1
  | .oneOf s => {w | ∃ c, s.contains c = true ∧ w = [c]}
  | .cat r s => r.language * s.language
  | .alt r s => r.language + s.language
  | .capture _ r => r.language
  | .rep least most _ r => {w | ∃ n, Allows least most n ∧ w ∈ r.language ^ n}

end Expr

variable {text w : List Char} {r : Expr} {rs : List Expr} {i j n : Nat} {sl sl' : Slots}

/-- A relation on the positions of a text that takes the words of a language and keeps the groups. -/
def Takes (text : List Char) (l : Language Char) (i : Nat) (sl : Slots) (j : Nat) (sl' : Slots) :
    Prop :=
  sl' = sl ∧ ∃ w ∈ l, w <+: text.drop i ∧ j = i + w.length

theorem takes_one : Takes text 1 i sl j sl' ↔ j = i ∧ sl' = sl := by
  constructor
  · rintro ⟨hsl, w, hw, -, hj⟩
    rw [Language.mem_one] at hw
    subst hw
    exact ⟨hj, hsl⟩
  · rintro ⟨rfl, rfl⟩
    exact ⟨rfl, [], Language.nil_mem_one, List.nil_prefix, rfl⟩

theorem takes_mul {l m : Language Char} :
    Takes text (l * m) i sl j sl' ↔
      ∃ k sl1, Takes text l i sl k sl1 ∧ Takes text m k sl1 j sl' := by
  constructor
  · rintro ⟨rfl, w, hw, hp, rfl⟩
    obtain ⟨u, hu, v, hv, rfl⟩ := Language.mem_mul.mp hw
    obtain ⟨t, ht⟩ := hp
    refine ⟨i + u.length, sl', ⟨rfl, u, hu, ⟨v ++ t, by rw [← ht, List.append_assoc]⟩, rfl⟩, rfl, v, hv,
      ⟨t, ?_⟩, by rw [List.length_append, Nat.add_assoc]⟩
    rw [← List.drop_drop, ← ht, List.append_assoc, List.drop_left]
  · rintro ⟨k, sl1, ⟨rfl, u, hu, ⟨t, ht⟩, rfl⟩, rfl, v, hv, ⟨t', ht'⟩, rfl⟩
    refine ⟨rfl, u ++ v, Language.append_mem_mul hu hv, ⟨t', ?_⟩, by
      rw [List.length_append, Nat.add_assoc]⟩
    have ht2 : t = v ++ t' := by
      rw [ht', ← List.drop_drop, ← ht, List.drop_left]
    rw [← ht, ht2, List.append_assoc]

theorem copies_takes {l : Language Char} :
    Copies (Takes text l) n i sl j sl' ↔ Takes text (l ^ n) i sl j sl' := by
  induction n generalizing i sl with
  | zero => rw [pow_zero, takes_one, Copies]
  | succ n ih =>
    rw [pow_succ', takes_mul, Copies]
    simp only [ih]

theorem takes_oneOf {s : CharClass} :
    Takes text (Expr.oneOf s).language i sl j sl' ↔ TakesAt text s i ∧ j = i + 1 ∧ sl' = sl := by
  constructor
  · rintro ⟨hsl, w, ⟨c, hc, rfl⟩, ⟨t, ht⟩, hj⟩
    have hi : text[i]? = some c := by
      rw [← List.head?_drop, ← ht]
      rfl
    exact ⟨⟨c, hi, hc⟩, hj, hsl⟩
  · rintro ⟨⟨c, hi, hc⟩, hj, hsl⟩
    refine ⟨hsl, [c], ⟨c, hc, rfl⟩, ?_, hj⟩
    rw [← List.head?_drop] at hi
    obtain ⟨t, ht⟩ := List.head?_eq_some_iff.mp hi
    exact ⟨t, ht.symm⟩

/-- A plain expression matches exactly its words, and touches no groups. -/
theorem spans_iff_takes (h : r.isPlain = true) :
    r.Spans text i sl j sl' ↔ Takes text r.language i sl j sl' := by
  induction r generalizing i sl j sl' with
  | empty => rw [Expr.Spans, Expr.language, takes_one]
  | oneOf s => rw [Expr.Spans, takes_oneOf]
  | look a => cases h
  | capture n r ih => cases h
  | cat r s ihr ihs =>
    rw [Expr.isPlain, Bool.and_eq_true] at h
    rw [Expr.Spans, Expr.language, takes_mul]
    simp only [ihr h.1, ihs h.2]
  | alt r s ihr ihs =>
    rw [Expr.isPlain, Bool.and_eq_true] at h
    rw [Expr.Spans, Expr.language, ihr h.1, ihs h.2]
    constructor
    · rintro (⟨hsl, w, hw, h⟩ | ⟨hsl, w, hw, h⟩)
      · exact ⟨hsl, w, Or.inl hw, h⟩
      · exact ⟨hsl, w, Or.inr hw, h⟩
    · rintro ⟨hsl, w, hw | hw, h⟩
      · exact Or.inl ⟨hsl, w, hw, h⟩
      · exact Or.inr ⟨hsl, w, hw, h⟩
  | rep least most greedy r ih =>
    have hr : r.Spans text = Takes text r.language := by
      funext i sl j sl'
      exact propext (ih h)
    rw [Expr.Spans, Expr.language, hr]
    simp only [copies_takes]
    constructor
    · rintro ⟨n, hn, hsl, w, hw, h⟩
      exact ⟨hsl, w, ⟨n, hn, hw⟩, h⟩
    · rintro ⟨hsl, w, ⟨n, hn, hw⟩, h⟩
      exact ⟨n, hn, hsl, w, hw, h⟩

theorem isPlain_catOf : ∀ rs, (Expr.catOf rs).isPlain = rs.all Expr.isPlain :=
  Expr.joins_catOf.apply Expr.isPlain and (fun _ _ => rfl) rfl (fun _ => (Bool.and_true _).symm)
    fun _ _ _ => rfl

theorem isPlain_altOf : ∀ rs, (Expr.altOf rs).isPlain = rs.all Expr.isPlain :=
  Expr.joins_altOf.apply Expr.isPlain and (fun _ _ => rfl) rfl (fun _ => (Bool.and_true _).symm)
    fun _ _ _ => rfl

theorem language_catOf : ∀ rs, (Expr.catOf rs).language = (rs.map Expr.language).prod :=
  Expr.joins_catOf.apply Expr.language (· * ·) (fun _ _ => rfl) rfl (fun _ => (mul_one _).symm)
    fun _ _ _ => List.prod_cons.symm

theorem mem_language_catOf_nil : w ∈ (Expr.catOf []).language ↔ w = [] :=
  Language.mem_one w

theorem mem_language_catOf_cons :
    w ∈ (Expr.catOf (r :: rs)).language ↔
      ∃ u ∈ r.language, ∃ v ∈ (Expr.catOf rs).language, u ++ v = w := by
  rw [language_catOf, List.map_cons, List.prod_cons, ← language_catOf, Language.mem_mul]

theorem mem_language_altOf (hne : rs ≠ []) :
    w ∈ (Expr.altOf rs).language ↔ ∃ r ∈ rs, w ∈ r.language := by
  fun_induction Expr.altOf rs with
  | case1 => exact absurd rfl hne
  | case2 r => simp
  | case3 r rest h ih =>
    rw [Expr.language, Language.mem_add, ih h, List.exists_mem_cons_iff]

/-- The words of so many characters of a set. -/
theorem mem_language_oneOf_pow {s : CharClass} :
    w ∈ (Expr.oneOf s).language ^ n ↔ w.length = n ∧ ∀ c ∈ w, s.contains c = true := by
  induction n generalizing w with
  | zero =>
    rw [pow_zero, Language.mem_one]
    constructor
    · rintro rfl
      simp
    · rintro ⟨h, -⟩
      exact List.length_eq_zero_iff.mp h
  | succ n ih =>
    rw [pow_succ', Language.mem_mul]
    constructor
    · rintro ⟨u, ⟨c, hc, rfl⟩, v, hv, rfl⟩
      obtain ⟨hlen, hall⟩ := ih.mp hv
      exact ⟨by simp [hlen], by simpa using ⟨hc, hall⟩⟩
    · rintro ⟨hlen, hall⟩
      cases w with
      | nil => cases hlen
      | cons c w =>
        refine ⟨[c], ⟨c, hall c (by simp), rfl⟩, w, ih.mpr ⟨by simpa using hlen, ?_⟩, rfl⟩
        intro d hd
        exact hall d (List.mem_cons_of_mem c hd)

/-- The words of a repeated set are the runs of its characters of an allowed length. -/
theorem mem_language_rep {s : CharClass} {least : Nat} {most : Option Nat} {greedy : Bool} :
    w ∈ (Expr.rep least most greedy (.oneOf s)).language ↔
      Allows least most w.length ∧ ∀ c ∈ w, s.contains c = true := by
  constructor
  · rintro ⟨n, hn, hw⟩
    obtain ⟨rfl, hall⟩ := mem_language_oneOf_pow.mp hw
    exact ⟨hn, hall⟩
  · rintro ⟨hn, hall⟩
    exact ⟨w.length, hn, mem_language_oneOf_pow.mpr ⟨rfl, hall⟩⟩

end PhotoGrouping.Regex
