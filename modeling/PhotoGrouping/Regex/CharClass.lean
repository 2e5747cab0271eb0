import PhotoGrouping.Regex.Property
import PhotoGrouping.Text.FoldMap

namespace PhotoGrouping.Regex

open Text

/-- A set of characters. -/
inductive CharClass
  | never
  | always
  | range (first last : Char)
  | digit
  | blank
  | word
  | property (p : Property)
  /-- The characters that differ in case only from a member. -/
  | caseless (s : CharClass)
  /-- The characters that differ from a member in the case of an ASCII letter only. -/
  | asciiCaseless (s : CharClass)
  | compl (s : CharClass)
  | union (s t : CharClass)
  | inter (s t : CharClass)
  deriving Repr, DecidableEq

namespace CharClass

def contains : CharClass → Char → Bool
  | .never, _ => false
  | .always, _ => true
  | .range first last, c => first ≤ c && c ≤ last
  | .digit, c => isDigit c
  | .blank, c => isBlank c
  | .word, c => isWord c
  | .property p, c => p.contains c
  | .caseless s, c => s.contains c || (caseVariants c).any s.contains
  | .asciiCaseless s, c => s.contains c || (asciiCaseVariants c).any s.contains
  | .compl s, c => !s.contains c
  | .union s t, c => s.contains c || t.contains c
  | .inter s t, c => s.contains c && t.contains c

def single (c : Char) : CharClass :=
  .range c c

/-- The members of the first set that are not in the second. -/
def diff (s t : CharClass) : CharClass :=
  .inter s (.compl t)

/-- The members of exactly one of two sets. -/
def symmDiff (s t : CharClass) : CharClass :=
  .union (s.diff t) (t.diff s)

def unionOf : List CharClass → CharClass
  | [] => .never
  | [s] => s
  | s :: rest => .union s (unionOf rest)

def ofChars (cs : List Char) : CharClass :=
  unionOf (cs.map single)

theorem contains_single (c d : Char) : (single c).contains d = decide (d = c) := by
  simp only [single, contains]
  by_cases h : d = c
  · subst h; simp
  · have : ¬ (c ≤ d ∧ d ≤ c) := fun hcd => h (Char.le_antisymm hcd.2 hcd.1)
    by_cases h1 : c ≤ d <;> by_cases h2 : d ≤ c <;> simp_all

end CharClass

end PhotoGrouping.Regex
