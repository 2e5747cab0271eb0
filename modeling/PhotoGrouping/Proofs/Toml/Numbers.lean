import PhotoGrouping.Toml.Scalar
import Mathlib.Data.List.TakeWhile

namespace PhotoGrouping.Toml

variable {c : Char} {cs rest : List Char}

theorem isDigit_bounds (h : c.isDigit = true) : 48 ≤ c.toNat ∧ c.toNat ≤ 57 := by
  simpa [Char.isDigit, UInt32.le_iff_toNat_le] using h

theorem ne_of_isDigit {d : Char} (h : c.isDigit = true) (hd : d.isDigit = false) : c ≠ d :=
  fun heq => by simp [heq, hd] at h

theorem digit?_of_isDigit (h : c.isDigit = true) : digit? 10 c = some (c.toNat - 48) := by
  have hc : '0' ≤ c ∧ c ≤ '9' := by simpa [Char.isDigit, Char.le_def] using h
  have hbounds := isDigit_bounds h
  have hlt : c.toNat - 48 < 10 := by omega
  simp [digit?, hc, hlt]

theorem ungrouped_digits (h : ∀ c ∈ cs, c.isDigit = true) {must : Bool}
    (hmust : must = true → cs ≠ []) :
    ungrouped 10 must cs = some (cs.map (·.toNat - 48)) := by
  induction cs generalizing must with
  | nil =>
    cases must with
    | false => rfl
    | true => exact absurd rfl (hmust rfl)
  | cons c cs ih =>
    have hc := h c List.mem_cons_self
    have hread : ungrouped 10 false cs = some (cs.map (·.toNat - 48)) :=
      ih (fun d hd => h d (List.mem_cons_of_mem c hd)) (by simp)
    rw [ungrouped.eq_def]
    split
    · next heq => cases heq
    · next heq =>
      obtain ⟨rfl, -⟩ := List.cons.inj heq
      exact absurd hc (by decide)
    · next heq =>
      obtain ⟨rfl, rfl⟩ := List.cons.inj heq
      rw [digit?_of_isDigit hc, hread]
      rfl

theorem ofDigits_map (cs : List Char) :
    ofDigits 10 (cs.map (·.toNat - 48)) = Nat.ofDigitChars 10 cs 0 := by
  rw [ofDigits, List.foldl_map, Nat.ofDigitChars_eq_foldl]
  congr 1
  funext n c
  rw [Nat.mul_comm]
  rfl

/-- The digits of a number have no zero in front. -/
theorem head?_toDigits {n : Nat} (h : n ≠ 0) : (Nat.toDigits 10 n).head? ≠ some '0' := by
  induction n using Nat.strongRecOn with
  | _ n ih =>
    rw [Nat.toDigits_eq_if (by decide)]
    split_ifs with hlt
    · have hdigit : ∀ n < 10, n ≠ 0 → [n.digitChar].head? ≠ some '0' := by decide
      exact hdigit n hlt h
    · rw [List.head?_append, Option.or_of_isSome (by simp [Nat.toDigits_ne_nil])]
      exact ih (n / 10) (by omega) (by omega)

theorem isDigit_toDigits {n : Nat} : ∀ c ∈ Nat.toDigits 10 n, c.isDigit = true :=
  fun _ => Nat.isDigit_of_mem_toDigits (by decide) (by decide)

theorem wholeDigits?_toDigits (n : Nat) :
    wholeDigits? (Nat.toDigits 10 n) = some ((Nat.toDigits 10 n).map (·.toNat - 48)) := by
  have hzero : (1 < ((Nat.toDigits 10 n).map (·.toNat - 48)).length &&
      ((Nat.toDigits 10 n).map (·.toNat - 48)).head? == some 0) = false := by
    by_cases hn : n = 0
    · subst hn
      rfl
    · have hhead := head?_toDigits hn
      cases hds : Nat.toDigits 10 n with
      | nil => rfl
      | cons c cs =>
        have hc := isDigit_toDigits c (hds ▸ List.mem_cons_self)
        have hbounds := isDigit_bounds hc
        have hne : c.toNat ≠ 48 := by
          intro h
          rw [hds, List.head?_cons] at hhead
          exact hhead (congrArg some (Char.toNat_inj.mp h))
        have hvalue : c.toNat - 48 ≠ 0 := by omega
        simp [hvalue]
  rw [wholeDigits?, ungrouped_digits isDigit_toDigits fun _ => Nat.toDigits_ne_nil]
  simp only [Option.bind_eq_bind, Option.bind_some, hzero]
  rfl

theorem fixedDigits?_rest {n v : Nat} (h : fixedDigits? n cs = some (v, rest)) :
    rest = cs.drop n := by
  unfold fixedDigits? at h
  cases hds : (cs.take n).mapM (digit? 10) with
  | none => simp [hds] at h
  | some ds =>
    simp only [hds, Option.bind_eq_bind, Option.bind_some, Option.ite_none_right_eq_some,
      Option.some.injEq, Prod.mk.injEq] at h
    exact h.2.2.symm

theorem isDatetime_digits (h : ∀ c ∈ cs, c.isDigit = true) : isDatetime cs = false := by
  have hrest {n v : Nat} {d : Char} {ds : List Char} (hd : d.isDigit = false) :
      fixedDigits? n cs ≠ some (v, d :: ds) := by
    intro heq
    have hmem : d ∈ cs.drop n := fixedDigits?_rest heq ▸ List.mem_cons_self
    exact ne_of_isDigit (h d (List.mem_of_mem_drop hmem)) hd rfl
  have hdate : afterDate? cs = none := by
    unfold afterDate?
    cases hyear : fixedDigits? 4 cs with
    | none => rfl
    | some read =>
      obtain ⟨year, after⟩ := read
      rw [Option.bind_eq_bind, Option.bind_some]
      dsimp only
      split
      · exact absurd hyear (hrest (by decide))
      · rfl
  have htime : afterTime? cs = none := by
    unfold afterTime?
    cases hhour : fixedDigits? 2 cs with
    | none => rfl
    | some read =>
      obtain ⟨hour, after⟩ := read
      rw [Option.bind_eq_bind, Option.bind_some]
      dsimp only
      split
      · exact absurd hhour (hrest (by decide))
      · rfl
  unfold isDatetime
  rw [hdate, htime]
  rfl

theorem isDatetime_minus (cs : List Char) : isDatetime ('-' :: cs) = false := by
  have hminus : digit? 10 '-' = none := by decide
  have hread (n : Nat) : fixedDigits? (n + 1) ('-' :: cs) = none := by
    simp [fixedDigits?, hminus]
  rw [isDatetime, afterDate?, hread, afterTime?, hread]
  rfl

theorem splitSign_digits (h : ∀ c ∈ cs, c.isDigit = true) : splitSign cs = (false, cs) := by
  unfold splitSign
  split
  · exact absurd (h _ List.mem_cons_self) (by decide)
  · exact absurd (h _ List.mem_cons_self) (by decide)
  · rfl

theorem while_digits (h : ∀ c ∈ cs, c.isDigit = true) {p : Char → Bool}
    (hp : ∀ c, c.isDigit = true → p c = true) : cs.takeWhile p = cs ∧ cs.dropWhile p = [] :=
  ⟨List.takeWhile_eq_self_iff.mpr fun c hc => hp c (h c hc),
    List.dropWhile_eq_nil_iff.mpr fun c hc => hp c (h c hc)⟩

/-- A number without places and exponent is no float. -/
theorem isFloat_digits {text : List Char} {negative : Bool} (hsign : splitSign text = (negative, cs))
    (h : ∀ c ∈ cs, c.isDigit = true) (hne : cs ≠ []) : isFloat text = false := by
  have hword : cs ≠ "inf".toList ∧ cs ≠ "nan".toList := by
    constructor <;>
    · rintro rfl
      exact absurd (h 'n' (by decide)) (by decide)
  have hexponent : ∀ c, c.isDigit = true → (!(c == 'e' || c == 'E')) = true := by
    intro c hc
    simp [ne_of_isDigit hc (d := 'e') (by decide), ne_of_isDigit hc (d := 'E') (by decide)]
  have hpoint : ∀ c, c.isDigit = true → (c != '.') = true := by
    intro c hc
    simp [ne_of_isDigit hc (d := '.') (by decide)]
  unfold isFloat
  rw [hsign]
  dsimp only
  rw [(while_digits h hexponent).1, (while_digits h hexponent).2, (while_digits h hpoint).1,
    (while_digits h hpoint).2, if_neg (by simpa using hword)]
  cases wholeDigits? cs <;> rfl

theorem integer?_toDigits {n : Nat} :
    integer? (Nat.toDigits 10 n) = inRange? n ∧ integer? ('-' :: Nat.toDigits 10 n) = inRange? (-n) := by
  have hvalue : ofDigits 10 ((Nat.toDigits 10 n).map (·.toNat - 48)) = n := by
    rw [ofDigits_map, Nat.ofDigitChars_ten_toDigits]
  have hletter {c d : Char} {cs : List Char} (hd : d.isDigit = false) :
      Nat.toDigits 10 n ≠ c :: d :: cs := by
    intro heq
    exact ne_of_isDigit (isDigit_toDigits d (by rw [heq]; simp)) hd rfl
  constructor
  · unfold integer?
    split
    · next heq => exact absurd heq (hletter (by decide))
    · next heq => exact absurd heq (hletter (by decide))
    · next heq => exact absurd heq (hletter (by decide))
    · rw [splitSign_digits isDigit_toDigits]
      dsimp only
      rw [wholeDigits?_toDigits, Option.bind_eq_bind, Option.bind_some, hvalue]
      rfl
  · rw [integer?, splitSign]
    · dsimp only
      rw [wholeDigits?_toDigits, Option.bind_eq_bind, Option.bind_some, hvalue]
      rfl
    all_goals simp

theorem toList_toString (n : Int) :
    (toString n).toList =
      if 0 ≤ n then Nat.toDigits 10 n.toNat else '-' :: Nat.toDigits 10 (-n).toNat := by
  rw [Int.toString_eq_repr, Int.repr_eq_if]
  split_ifs with h
  · rw [Nat.repr_eq_ofList_toDigits, String.toList_ofList]
  · rw [Nat.repr_eq_ofList_toDigits, String.toList_append]
    simp

/-- The decimal text of an integer of 64 bits writes it. -/
theorem scalar?_toString {n : Int} (hlow : -9223372036854775808 ≤ n)
    (hhigh : n < 9223372036854775808) :
    scalar? (toString n).toList = some (.integer n) := by
  have hrange : inRange? n = some n := by
    unfold inRange?
    rw [if_pos]
    simp
    omega
  have hword (cs : List Char) (h : ∀ c ∈ cs, c.isDigit = true ∨ c = '-') :
      cs ≠ "true".toList ∧ cs ≠ "false".toList := by
    constructor <;>
    · rintro rfl
      exact absurd (h 'e' (by decide)) (by decide)
  rw [toList_toString]
  by_cases h : 0 ≤ n
  · have hdigits := isDigit_toDigits (n := n.toNat)
    obtain ⟨htrue, hfalse⟩ := hword _ fun c hc => Or.inl (hdigits c hc)
    rw [if_pos h, scalar?, if_neg htrue, if_neg hfalse, isDatetime_digits hdigits,
      isFloat_digits (splitSign_digits hdigits) hdigits Nat.toDigits_ne_nil, integer?_toDigits.1,
      Int.toNat_of_nonneg h, hrange]
    rfl
  · have hdigits := isDigit_toDigits (n := (-n).toNat)
    obtain ⟨htrue, hfalse⟩ := hword ('-' :: Nat.toDigits 10 (-n).toNat) fun c hc =>
      (List.mem_cons.mp hc).symm.imp_left (hdigits c)
    have hsign (cs : List Char) : splitSign ('-' :: cs) = (true, cs) := rfl
    rw [if_neg h, scalar?, if_neg htrue, if_neg hfalse, isDatetime_minus,
      isFloat_digits (hsign _) hdigits Nat.toDigits_ne_nil, integer?_toDigits.2,
      Int.toNat_of_nonneg (by omega), Int.neg_neg, hrange]
    rfl

theorem isScalarChar_toString (n : Int) : ∀ c ∈ (toString n).toList, isScalarChar c = true := by
  have hdigit : ∀ c : Char, c.isDigit = true → isScalarChar c = true := by
    intro c hc
    simp [isScalarChar, Char.isAlphanum, hc]
  rw [toList_toString]
  split_ifs with h
  · exact fun c hc => hdigit c (isDigit_toDigits c hc)
  · intro c hc
    obtain rfl | hc := List.mem_cons.mp hc
    · decide
    · exact hdigit c (isDigit_toDigits c hc)

/-- A scalar ends where its line does. -/
theorem splitScalar_line (h : ∀ c ∈ cs, isScalarChar c = true) :
    splitScalar (cs ++ '\n' :: rest) = (cs, '\n' :: rest) := by
  have hend : isScalarChar '\n' = false := by decide
  have hfirst : (cs ++ '\n' :: rest).takeWhile isScalarChar = cs := by
    rw [List.takeWhile_append_of_pos h, List.takeWhile_cons_of_neg (by simp [hend]), List.append_nil]
  have hrest : (cs ++ '\n' :: rest).dropWhile isScalarChar = '\n' :: rest := by
    rw [List.dropWhile_append_of_pos h, List.dropWhile_cons_of_neg (by simp [hend])]
  rw [splitScalar]
  dsimp only
  rw [hfirst, hrest]
  rfl

end PhotoGrouping.Toml
