namespace PhotoGrouping.Text

def isBlank (c : Char) : Bool :=
  ('\t' ≤ c && c ≤ '\r') || c == ' ' || c == '\u0085' || c == '\u00a0' || c == '\u1680' ||
  ('\u2000' ≤ c && c ≤ '\u200a') || c == '\u2028' || c == '\u2029' || c == '\u202f' ||
  c == '\u205f' || c == '\u3000'

/-- The characters without the white space at both ends. -/
def trimmed (cs : List Char) : List Char :=
  ((cs.dropWhile isBlank).reverse.dropWhile isBlank).reverse

def trim (s : String) : String :=
  String.ofList (trimmed s.toList)

def isBlankText (s : String) : Bool :=
  s.toList.all isBlank

private theorem dropWhile_eq_nil_iff_all {p : Char → Bool} {cs : List Char} :
    cs.dropWhile p = [] ↔ cs.all p = true := by
  induction cs with
  | nil => simp
  | cons c cs ih => cases h : p c <;> simp [h, ih]

/-- Nothing is left of a text without its outer white space if and only if it is blank. -/
theorem trimmed_eq_nil_iff {cs : List Char} : trimmed cs = [] ↔ cs.all isBlank = true := by
  unfold trimmed
  rw [List.reverse_eq_nil_iff, dropWhile_eq_nil_iff_all, List.all_reverse]
  constructor
  · intro h
    cases hd : cs.dropWhile isBlank with
    | nil => exact dropWhile_eq_nil_iff_all.mp hd
    | cons c rest =>
      have hc := List.head_dropWhile_not isBlank (l := cs) (by simp [hd])
      rw [hd, List.all_cons, Bool.and_eq_true] at h
      simp only [hd, List.head_cons] at hc
      rw [h.1] at hc
      cases hc
  · intro h
    rw [dropWhile_eq_nil_iff_all.mpr h]
    rfl

end PhotoGrouping.Text
