import PhotoGrouping.Toml.Printer
import Mathlib.Data.List.Basic

namespace PhotoGrouping.Toml

variable {c : Char} {cs rest : List Char}

@[simp] theorem withChar_some (c : Char) (text rest : List Char) :
    withChar c (some (text, rest)) = some (c :: text, rest) := rfl

/-- The two digits of a control write it back. -/
theorem charOfHex?_hexDigit (h : isControl c = true) :
    charOfHex? ['0', '0', hexDigit (c.toNat / 16), hexDigit (c.toNat % 16)] = some c := by
  have hsmall : ∀ n < 128,
      charOfHex? ['0', '0', hexDigit (n / 16), hexDigit (n % 16)] = some (Char.ofNat n) := by
    decide
  have hc : c.toNat < 128 := by
    unfold isControl at h
    simp only [Bool.or_eq_true, Bool.and_eq_true, decide_eq_true_eq] at h
    omega
  rw [hsmall c.toNat hc, Char.ofNat_toNat]

theorem readBasic_plain (hquote : c ≠ '"') (hslash : c ≠ '\\') (h : isControl c = false) :
    readBasic (c :: cs) = withChar c (readBasic cs) := by
  rw [readBasic.eq_def]
  split <;> simp_all

theorem readMultiBasic_plain (hquote : c ≠ '"') (hslash : c ≠ '\\') (h : isControl c = false) :
    readMultiBasic false (c :: cs) = withChar c (readMultiBasic false cs) := by
  have hreturn : isControl '\r' = true := by decide
  rw [readMultiBasic.eq_def]
  split <;> simp_all

/-- What a basic text holds for a character is read as this character. -/
theorem readBasic_basicChar (h : c ≠ '"') :
    readBasic (basicChar c ++ cs) = withChar c (readBasic cs) := by
  unfold basicChar
  split
  case h_7 hslash _ _ _ _ _ =>
    split
    · next hcontrol =>
      simp only [List.cons_append, List.nil_append, readBasic, charOfHex?_hexDigit hcontrol]
      rfl
    · next hcontrol => exact readBasic_plain h hslash (by simpa using hcontrol)
  all_goals rfl

theorem readMultiBasic_basicChar (h : c ≠ '"') :
    readMultiBasic false (basicChar c ++ cs) = withChar c (readMultiBasic false cs) := by
  unfold basicChar
  split
  case h_7 hslash _ _ _ _ _ =>
    split
    · next hcontrol =>
      simp only [List.cons_append, List.nil_append, readMultiBasic, charOfHex?_hexDigit hcontrol]
      rfl
    · next hcontrol => exact readMultiBasic_plain h hslash (by simpa using hcontrol)
  all_goals rfl

theorem readBasic_basicBody (cs rest : List Char) :
    readBasic (basicBody cs ++ '"' :: rest) = some (cs, rest) := by
  induction cs with
  | nil => rfl
  | cons c cs ih =>
    rw [basicBody, List.flatMap_cons, List.append_assoc, ← basicBody]
    by_cases hc : c = '"'
    · rw [if_pos hc, List.cons_append, List.cons_append, List.nil_append, readBasic, ih, hc]
      · rfl
      · simp
      · simp
    · rw [if_neg hc, readBasic_basicChar hc, ih, withChar_some]

theorem readLiteral_text (hplain : ∀ c ∈ cs, isControl c = false) (hquote : '\x27' ∉ cs) :
    readLiteral (cs ++ '\x27' :: rest) = some (cs, rest) := by
  induction cs with
  | nil => rfl
  | cons c cs ih =>
    have hne : c ≠ '\x27' := fun h => hquote (h ▸ List.mem_cons_self)
    have hread := ih (fun d hd => hplain d (List.mem_cons_of_mem c hd))
      fun h => hquote (List.mem_cons_of_mem c h)
    rw [List.cons_append, readLiteral, if_neg (by simp [hplain c]), hread, withChar_some]
    exact hne

/-- Up to two quotes before the closing ones belong to the text. -/
theorem readMultiBasic_closing (hrest : rest.head? ≠ some '"') :
    readMultiBasic false ('"' :: '"' :: '"' :: rest) = some ([], rest) ∧
      readMultiBasic false ('"' :: '"' :: '"' :: '"' :: rest) = some (['"'], rest) ∧
      readMultiBasic false ('"' :: '"' :: '"' :: '"' :: '"' :: rest) = some (['"', '"'], rest) := by
  cases rest with
  | nil => exact ⟨rfl, rfl, rfl⟩
  | cons c cs =>
    have hc : c ≠ '"' := fun h => hrest (by rw [h]; rfl)
    simp [readMultiBasic, hc]

theorem readMultiBasic_quote (h : ¬['"', '"'] <+: cs) :
    readMultiBasic false ('"' :: cs) = withChar '"' (readMultiBasic false cs) := by
  have hquote : isControl '"' = false := by decide
  rw [readMultiBasic.eq_def]
  split <;> grind

/-- A character is written by an escape or by itself. -/
theorem head?_basicChar (c : Char) (cs : List Char) :
    (basicChar c ++ cs).head? = some '\\' ∨
      isControl c = false ∧ (basicChar c ++ cs).head? = some c := by
  unfold basicChar
  split
  case h_7 =>
    split
    · exact Or.inl rfl
    · next h => exact Or.inr ⟨by simpa using h, rfl⟩
  all_goals exact Or.inl rfl

theorem head?_basicChar_ne_quote (h : c ≠ '"') : (basicChar c ++ cs).head? ≠ some '"' := by
  obtain heq | ⟨-, heq⟩ := head?_basicChar c cs
  · simp [heq]
  · simpa [heq] using h

theorem head?_multiBasicBody {before : Nat} (h : c ≠ '"' ∨ before = 2) :
    (multiBasicBody before (c :: cs) ++ rest).head? ≠ some '"' := by
  rw [multiBasicBody]
  split_ifs with hquote hbefore hline
  · simp
  · exact absurd hquote (h.resolve_right hbefore)
  · simp
  · rw [List.append_assoc]
    exact head?_basicChar_ne_quote hquote

theorem not_prefix_of_head? (h : cs.head? ≠ some c) (ds : List Char) : ¬c :: ds <+: cs := by
  rintro ⟨es, rfl⟩
  exact h rfl

/-- The quotes that a text holds are told from the closing ones, since at most two in a row are
written as such. -/
theorem readMultiBasic_body (hrest : rest.head? ≠ some '"') {before : Nat} (hbefore : before ≤ 2) :
    readMultiBasic false (multiBasicBody before cs ++ '"' :: '"' :: '"' :: rest) =
      some (cs, rest) := by
  obtain ⟨hthree, hfour, hfive⟩ := readMultiBasic_closing hrest
  induction cs generalizing before with
  | nil => exact hthree
  | cons c cs ih =>
    by_cases hc : c = '"'
    · subst hc
      rw [multiBasicBody, if_pos rfl]
      by_cases htwo : before = 2
      · have hescape (ds : List Char) :
            readMultiBasic false ('\\' :: '"' :: ds) = withChar '"' (readMultiBasic false ds) := rfl
        rw [if_pos htwo, List.cons_append, List.cons_append, hescape, ih (Nat.zero_le 2),
          withChar_some]
      · have hread : readMultiBasic false
            (multiBasicBody (before + 1) cs ++ '"' :: '"' :: '"' :: rest) = some (cs, rest) :=
          ih (by omega)
        rw [if_neg htwo, List.cons_append]
        -- the quotes that follow may be the closing ones, with another quote before them or without
        match cs with
        | [] => exact hfour
        | d :: cs =>
          by_cases hd : d = '"' ∧ before = 0
          · obtain ⟨rfl, rfl⟩ := hd
            match cs with
            | [] => exact hfive
            | e :: cs =>
              rw [readMultiBasic_quote, hread, withChar_some]
              rw [multiBasicBody, if_pos rfl, if_neg (by decide), List.cons_append,
                List.cons_prefix_cons, not_and]
              exact fun _ => not_prefix_of_head? (head?_multiBasicBody (Or.inr rfl)) []
          · rw [readMultiBasic_quote, hread, withChar_some]
            refine not_prefix_of_head? (head?_multiBasicBody ?_) _
            by_cases hquote : d = '"'
            · have hbefore : before ≠ 0 := fun h => hd ⟨hquote, h⟩
              exact Or.inr (by omega)
            · exact Or.inl hquote
    · have hread := ih (Nat.zero_le 2)
      rw [multiBasicBody, if_neg hc, List.append_assoc]
      split_ifs with hline
      · rw [hline, List.singleton_append, readMultiBasic, hread, withChar_some]
        exact Bool.false_ne_true
      · rw [readMultiBasic_basicChar hc, hread, withChar_some]

theorem readMultiLiteral_closing (hrest : rest.head? ≠ some '\x27') :
    readMultiLiteral ('\x27' :: '\x27' :: '\x27' :: rest) = some ([], rest) ∧
      readMultiLiteral ('\x27' :: '\x27' :: '\x27' :: '\x27' :: rest) = some (['\x27'], rest) ∧
      readMultiLiteral ('\x27' :: '\x27' :: '\x27' :: '\x27' :: '\x27' :: rest) =
        some (['\x27', '\x27'], rest) := by
  cases rest with
  | nil => exact ⟨rfl, rfl, rfl⟩
  | cons c cs =>
    have hc : c ≠ '\x27' := fun h => hrest (by rw [h]; rfl)
    simp [readMultiLiteral, hc]

theorem readMultiLiteral_plain (hplain : isControl c = true → c = '\n')
    (h : ¬['\x27', '\x27', '\x27'] <+: c :: cs) :
    readMultiLiteral (c :: cs) = withChar c (readMultiLiteral cs) := by
  have hreturn : isControl '\r' = true := by decide
  rw [readMultiLiteral.eq_def]
  split <;> grind

theorem hasRun_of_le {n before : Nat} (h : n ≤ before) : hasRun c n before cs = true := by
  cases cs with
  | nil => exact decide_eq_true h
  | cons d cs => rw [hasRun, decide_eq_true h, Bool.true_or]

/-- A text without three quotes in a row is told from the closing ones. -/
theorem readMultiLiteral_text (hrest : rest.head? ≠ some '\x27')
    (hplain : ∀ c ∈ cs, isControl c = true → c = '\n') {before : Nat}
    (hrun : hasRun '\x27' 3 before cs = false) :
    readMultiLiteral (cs ++ '\x27' :: '\x27' :: '\x27' :: rest) = some (cs, rest) := by
  obtain ⟨hthree, hfour, hfive⟩ := readMultiLiteral_closing hrest
  induction cs generalizing before with
  | nil => exact hthree
  | cons c cs ih =>
    rw [hasRun, Bool.or_eq_false_iff, decide_eq_false_iff_not] at hrun
    have hread := ih (fun d hd => hplain d (List.mem_cons_of_mem c hd)) hrun.2
    have hstep : ¬['\x27', '\x27', '\x27'] <+:
          c :: (cs ++ '\x27' :: '\x27' :: '\x27' :: rest) →
        readMultiLiteral (c :: cs ++ '\x27' :: '\x27' :: '\x27' :: rest) = some (c :: cs, rest) := by
      intro h
      rw [List.cons_append, readMultiLiteral_plain (hplain c List.mem_cons_self) h, hread,
        withChar_some]
    by_cases hc : c = '\x27'
    · subst hc
      match cs, hrun with
      | [], _ => exact hfour
      | [d], _ =>
        by_cases hd : d = '\x27'
        · subst hd
          exact hfive
        · exact hstep (by simp [Ne.symm hd])
      | d :: e :: cs, hrun =>
        refine hstep ?_
        rintro ⟨es, h⟩
        simp only [List.cons_append, List.cons.injEq] at h
        obtain ⟨-, rfl, rfl, -⟩ := h
        simp only [hasRun, if_true, Bool.or_eq_false_iff, decide_eq_false_iff_not] at hrun
        rw [hasRun_of_le (by omega)] at hrun
        exact Bool.noConfusion hrun.2.2.2
    · exact hstep (by simp [Ne.symm hc])

theorem dropLineEnd_of_head? (hline : cs.head? ≠ some '\n') (hreturn : cs.head? ≠ some '\r') :
    dropLineEnd cs = cs := by
  unfold dropLineEnd
  split
  · exact absurd rfl hline
  · exact absurd rfl hreturn
  · rfl

theorem dropLineEnd_lead (h : '\n' ∉ cs → dropLineEnd rest = rest) :
    dropLineEnd ((if cs.contains '\n' then ['\n'] else []) ++ rest) = rest := by
  by_cases hline : '\n' ∈ cs
  · rw [if_pos (by simpa using hline)]
    rfl
  · rw [if_neg (by simpa using hline), List.nil_append, h hline]

theorem readQuoted_basic (cs : List Char) (hrest : rest.head? ≠ some '"') :
    readQuoted (quoteAs .basic cs ++ rest) = some (cs, rest) := by
  have hread := readBasic_basicBody cs rest
  have hhead : ∀ ds, basicBody cs ++ '"' :: rest ≠ '"' :: '"' :: ds := by
    cases cs with
    | nil =>
      intro ds h
      exact hrest (by rw [(List.cons.inj h).2]; rfl)
    | cons c cs =>
      intro ds h
      rw [basicBody, List.flatMap_cons, List.append_assoc] at h
      split_ifs at h with hc
      · simp at h
      · exact head?_basicChar_ne_quote hc (by rw [h]; rfl)
  rw [quoteAs, List.append_assoc, List.append_assoc, List.singleton_append, List.singleton_append]
  rw [readQuoted, hread]
  · exact hhead

theorem readQuoted_literal (hplain : ∀ c ∈ cs, isControl c = false) (hquote : '\x27' ∉ cs)
    (hrest : rest.head? ≠ some '\x27') :
    readQuoted (quoteAs .literal cs ++ rest) = some (cs, rest) := by
  have hhead : ∀ ds, cs ++ '\x27' :: rest ≠ '\x27' :: '\x27' :: ds := by
    cases cs with
    | nil =>
      intro ds h
      exact hrest (by rw [(List.cons.inj h).2]; rfl)
    | cons c cs =>
      intro ds h
      exact hquote ((List.cons.inj h).1 ▸ List.mem_cons_self)
  rw [quoteAs, List.append_assoc, List.append_assoc, List.singleton_append, List.singleton_append]
  rw [readQuoted, readLiteral_text hplain hquote]
  exact hhead

theorem readQuoted_multiBasic (cs : List Char) (hrest : rest.head? ≠ some '"') :
    readQuoted (quoteAs .multiBasic cs ++ rest) = some (cs, rest) := by
  have hread : readMultiBasic false (multiBasicBody 0 cs ++ '"' :: '"' :: '"' :: rest) =
      some (cs, rest) := readMultiBasic_body hrest (Nat.zero_le 2)
  have hreturn : isControl '\r' = true := by decide
  have hlead (hline : '\n' ∉ cs) :
      dropLineEnd (multiBasicBody 0 cs ++ '"' :: '"' :: '"' :: rest) =
        multiBasicBody 0 cs ++ '"' :: '"' :: '"' :: rest := by
    cases cs with
    | nil => rfl
    | cons c cs =>
      rw [multiBasicBody]
      split_ifs with hquote hbefore hc
      · rfl
      · rfl
      · exact absurd (hc ▸ List.mem_cons_self) hline
      · rw [List.append_assoc]
        obtain heq | ⟨hcontrol, heq⟩ :=
          head?_basicChar c (multiBasicBody 0 cs ++ '"' :: '"' :: '"' :: rest)
        · exact dropLineEnd_of_head? (by simp [heq]) (by simp [heq])
        · have hne : c ≠ '\r' := fun h => by simp [h, hreturn] at hcontrol
          exact dropLineEnd_of_head? (by simpa [heq] using hc) (by simpa [heq] using hne)
  rw [quoteAs]
  simp only [List.append_assoc, List.cons_append, List.nil_append]
  rw [readQuoted, dropLineEnd_lead hlead, hread]

theorem readQuoted_multiLiteral (hplain : ∀ c ∈ cs, isControl c = true → c = '\n')
    (hrun : hasRun '\x27' 3 0 cs = false) (hrest : rest.head? ≠ some '\x27') :
    readQuoted (quoteAs .multiLiteral cs ++ rest) = some (cs, rest) := by
  have hread := readMultiLiteral_text hrest hplain hrun
  have hlead (hline : '\n' ∉ cs) :
      dropLineEnd (cs ++ '\x27' :: '\x27' :: '\x27' :: rest) =
        cs ++ '\x27' :: '\x27' :: '\x27' :: rest := by
    cases cs with
    | nil => rfl
    | cons c cs =>
      have hc : c ≠ '\n' := fun h => hline (h ▸ List.mem_cons_self)
      refine dropLineEnd_of_head? (by simpa using hc) ?_
      rintro h
      cases h
      exact hc (hplain '\r' List.mem_cons_self (by decide))
  rw [quoteAs]
  simp only [List.append_assoc, List.cons_append, List.nil_append]
  rw [readQuoted, dropLineEnd_lead hlead, hread]

/-- A quoted text is read as the text, up to what follows its closing quotes. -/
theorem readQuoted_quoteAs (cs : List Char) (hbasic : rest.head? ≠ some '"')
    (hliteral : rest.head? ≠ some '\x27') :
    readQuoted (quoteAs (styleOf cs) cs ++ rest) = some (cs, rest) := by
  have hcontrol (hplain : cs.any needsEscape = false) :
      ∀ c ∈ cs, isControl c = true → c = '\n' := by
    intro c hc h
    simpa [needsEscape, h] using List.any_eq_false.mp hplain c hc
  unfold styleOf
  simp only [Bool.and_eq_true, Bool.not_eq_true', List.contains_eq_mem, decide_eq_false_iff_not]
  split_ifs with h1 h2 h3 h4 h5
  · exact readQuoted_basic cs hbasic
  · obtain ⟨⟨hplain, hquote⟩, hline⟩ := h2
    refine readQuoted_literal (fun c hc => ?_) hquote hliteral
    rw [Bool.eq_false_iff]
    intro h
    exact hline (hcontrol hplain c hc h ▸ hc)
  · exact readQuoted_multiBasic cs hbasic
  · exact readQuoted_multiLiteral (hcontrol h4.1) h4.2 hliteral
  · exact readQuoted_multiBasic cs hbasic
  · exact readQuoted_basic cs hbasic

end PhotoGrouping.Toml
