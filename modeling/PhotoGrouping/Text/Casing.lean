import PhotoGrouping.Text.Alphabet
import PhotoGrouping.Text.CaseMap

namespace PhotoGrouping.Text

/-- The lowercase form of one character, whatever surrounds it. -/
def lowerChar (c : Char) : List Char :=
  if c.toNat < 128 then [c.toLower]
  else if c == '\u0130' then ['i', '\u0307']
  else [shifted lowerShifts c]

def upperChar (c : Char) : List Char :=
  if c.toNat < 128 then [c.toUpper]
  else match upperExpansions.lookup c.toNat with
    | some cs => cs
    | none => [shifted upperShifts c]

/-- Whether the first character that casing does not look through has a case. -/
def meetsCased (cs : List Char) : Bool :=
  match cs.dropWhile isCaseIgnorable with
  | [] => false
  | c :: _ => isCased c

/-- The lowercase form of a sigma: the final one at the end of a word. -/
def lowerSigma (before after : List Char) : Char :=
  if meetsCased before && !meetsCased after then 'ς' else 'σ'

/-- Lowercase form of the characters that follow `before`, which is given from its end. -/
def lowerFrom : List Char → List Char → List Char
  | _, [] => []
  | before, c :: cs =>
    (if c == 'Σ' then [lowerSigma before cs] else lowerChar c) ++ lowerFrom (c :: before) cs

def lowercase (s : String) : String :=
  String.ofList (lowerFrom [] s.toList)

def uppercase (s : String) : String :=
  String.ofList (s.toList.flatMap upperChar)

def asciiLowercase (s : String) : String :=
  String.ofList (s.toList.map Char.toLower)

theorem lowerChar_ascii {c : Char} (h : c.toNat < 128) : lowerChar c = [c.toLower] := by
  simp [lowerChar, h]

end PhotoGrouping.Text
