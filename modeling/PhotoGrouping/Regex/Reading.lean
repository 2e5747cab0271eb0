import PhotoGrouping.Regex.ParseError
import PhotoGrouping.Text.Blank

namespace PhotoGrouping.Regex

open Text

/-- The settings under which a part of a pattern is read. -/
structure Flags where
  caseless : Bool := false
  multiLine : Bool := false
  dotAll : Bool := false
  swapGreed : Bool := false
  unicode : Bool := true
  crlf : Bool := false
  verbose : Bool := false
  deriving Repr, DecidableEq

/-- What a reader made of the front of a text, and the rest of the text. -/
abbrev Reading (α : Type) := Except ParseError (α × List Char)

/-- The text after white space and `#` comments; the flag tells whether a comment is open. -/
def skipHidden : Bool → List Char → List Char
  | _, [] => []
  | true, c :: cs => skipHidden (c != '\n') cs
  | false, c :: cs =>
    if isBlank c then skipHidden false cs
    else if c == '#' then skipHidden true cs
    else c :: cs

/-- The text at its next character that counts: verbose patterns hide white space and comments. -/
def Flags.skip (f : Flags) (cs : List Char) : List Char :=
  if f.verbose then skipHidden false cs else cs

def hexValue? (c : Char) : Option Nat :=
  if '0' ≤ c && c ≤ '9' then some (c.toNat - 48)
  else if 'a' ≤ c && c ≤ 'f' then some (c.toNat - 87)
  else if 'A' ≤ c && c ≤ 'F' then some (c.toNat - 55)
  else none

def isHexDigit (c : Char) : Bool :=
  (hexValue? c).isSome

def hexNumber (digits : List Char) : Nat :=
  digits.foldl (fun n c => n * 16 + (hexValue? c).getD 0) 0

/-- The character with a number, unless the number is out of range or a surrogate's. -/
def charOfNumber? (n : Nat) : Option Char :=
  if n < 0xD800 || (0xE000 ≤ n && n < 0x110000) then some (Char.ofNat n) else none

/-- Reads so many hexadecimal digits, looking at each one before the next. -/
def readHexDigits (f : Flags) : Nat → List Char → Reading (List Char)
  | 0, cs => .ok ([], f.skip cs)
  | n + 1, cs =>
    match f.skip cs with
    | [] => .error .unfinishedEscape
    | c :: cs =>
      if isHexDigit c then
        match readHexDigits f n cs with
        | .error e => .error e
        | .ok (rest, cs) => .ok (c :: rest, cs)
      else .error .invalidHexDigit

/-- Reads up to a closing brace and past it, refusing what is no hexadecimal digit if these are what
is asked for; the flag tells whether a comment is open. -/
def readBraced (f : Flags) (hex : Bool) : Bool → List Char → Reading (List Char)
  | _, [] => .error .unfinishedEscape
  | true, c :: cs => readBraced f hex (c != '\n') cs
  | false, c :: cs =>
    if f.verbose && isBlank c then readBraced f hex false cs
    else if f.verbose && c == '#' then readBraced f hex true cs
    else if c == '}' then .ok ([], cs)
    else if hex && !isHexDigit c then .error .invalidHexDigit
    else
      match readBraced f hex false cs with
      | .error e => .error e
      | .ok (rest, cs) => .ok (c :: rest, cs)

/-- Reads the characters of a set at the front, looking through what is hidden between them. -/
def readWhile (f : Flags) (p : Char → Bool) : Bool → List Char → List Char × List Char
  | _, [] => ([], [])
  | true, c :: cs => readWhile f p (c != '\n') cs
  | false, c :: cs =>
    if f.verbose && isBlank c then readWhile f p false cs
    else if f.verbose && c == '#' then readWhile f p true cs
    else if p c then
      let (run, rest) := readWhile f p false cs
      (c :: run, rest)
    else ([], c :: cs)

def decimalValue (digits : List Char) : Nat :=
  digits.foldl (fun n c => n * 10 + (c.toNat - 48)) 0

def countOf (digits : List Char) : Except ParseError Nat :=
  if digits.isEmpty then .error .emptyCount
  else if decimalValue digits ≥ Nat.pow 2 32 then .error .invalidDecimal
  else .ok (decimalValue digits)

/-- Reads a decimal count with white space around it; what is left of the text is told also where
there is none. -/
def readCount (f : Flags) (cs : List Char) : Except ParseError Nat × List Char :=
  let (digits, rest) := readWhile f Char.isDigit false (cs.dropWhile isBlank)
  (countOf digits, f.skip (rest.dropWhile isBlank))

theorem skipHidden_length_le (comment : Bool) (cs : List Char) :
    (skipHidden comment cs).length ≤ cs.length := by
  fun_induction skipHidden comment cs <;> grind

theorem Flags.skip_length_le (f : Flags) (cs : List Char) :
    (f.skip cs).length ≤ cs.length := by
  unfold Flags.skip
  split
  · exact skipHidden_length_le false cs
  · exact Nat.le_refl _

/-- What counts is neither a blank nor the sign of a comment. -/
theorem visible_of_skipHidden {comment : Bool} {c : Char} {cs rest : List Char}
    (h : skipHidden comment cs = c :: rest) : isBlank c = false ∧ c ≠ '#' := by
  fun_induction skipHidden comment cs with
  | case1 => cases h
  | case2 d cs ih => exact ih h
  | case3 d cs hblank ih => exact ih h
  | case4 d cs hblank hsign ih => exact ih h
  | case5 d cs hblank hsign =>
    obtain ⟨rfl, -⟩ := List.cons.inj h
    exact ⟨by simpa using hblank, by simpa using hsign⟩

theorem Flags.visible_of_skip {f : Flags} {c : Char} {cs rest : List Char} (h : f.skip cs = c :: rest)
    (hverbose : f.verbose = true) : isBlank c = false ∧ c ≠ '#' := by
  rw [Flags.skip, if_pos hverbose] at h
  exact visible_of_skipHidden h

theorem readHexDigits_length_le {f : Flags} {n : Nat} {cs : List Char} {t r : List Char}
    (h : readHexDigits f n cs = .ok (t, r)) : r.length ≤ cs.length := by
  induction n generalizing cs t r with
  | zero =>
    simp only [readHexDigits, Except.ok.injEq, Prod.mk.injEq] at h
    exact h.2 ▸ f.skip_length_le cs
  | succ n ih =>
    have hs := f.skip_length_le cs
    rw [readHexDigits] at h
    split at h
    · cases h
    · rename_i c cs' hc
      split at h
      · split at h
        · cases h
        · rename_i rest r' hv
          simp only [Except.ok.injEq, Prod.mk.injEq] at h
          have := ih hv
          rw [hc, List.length_cons] at hs
          rw [← h.2]
          omega
      · cases h

theorem readBraced_length_le {f : Flags} {hex comment : Bool} {cs : List Char} {t r : List Char}
    (h : readBraced f hex comment cs = .ok (t, r)) : r.length ≤ cs.length := by
  induction cs generalizing comment t r with
  | nil => cases comment <;> simp [readBraced] at h
  | cons c cs ih =>
    cases comment with
    | true => exact Nat.le_succ_of_le (ih h)
    | false =>
      rw [readBraced] at h
      split at h
      · exact Nat.le_succ_of_le (ih h)
      · split at h
        · exact Nat.le_succ_of_le (ih h)
        · split at h
          · simp only [Except.ok.injEq, Prod.mk.injEq] at h
            simp [h.2]
          · split at h
            · cases h
            · split at h
              · cases h
              · rename_i rest r' hv
                simp only [Except.ok.injEq, Prod.mk.injEq] at h
                have := ih hv
                rw [List.length_cons, ← h.2]
                omega

theorem readWhile_length_le (f : Flags) (p : Char → Bool) (comment : Bool) (cs : List Char) :
    (readWhile f p comment cs).2.length ≤ cs.length := by
  induction cs generalizing comment with
  | nil => cases comment <;> simp [readWhile]
  | cons c cs ih =>
    cases comment with
    | true => exact Nat.le_succ_of_le (ih _)
    | false =>
      rw [readWhile]
      split
      · exact Nat.le_succ_of_le (ih _)
      · split
        · exact Nat.le_succ_of_le (ih _)
        · split
          · exact Nat.le_succ_of_le (ih _)
          · exact Nat.le_refl _

theorem dropWhile_length_le (p : Char → Bool) (cs : List Char) :
    (cs.dropWhile p).length ≤ cs.length :=
  (List.dropWhile_suffix p).length_le

theorem readCount_length_le (f : Flags) (cs : List Char) :
    (readCount f cs).2.length ≤ cs.length := by
  have h1 := dropWhile_length_le isBlank cs
  have h2 := readWhile_length_le f Char.isDigit false (cs.dropWhile isBlank)
  have h3 := dropWhile_length_le isBlank (readWhile f Char.isDigit false (cs.dropWhile isBlank)).2
  have h4 := f.skip_length_le
    ((readWhile f Char.isDigit false (cs.dropWhile isBlank)).2.dropWhile isBlank)
  change (f.skip _).length ≤ _
  omega

end PhotoGrouping.Regex
