import PhotoGrouping.Text.Alphabet
import PhotoGrouping.Text.Blank

namespace PhotoGrouping.Filename

open Text

/-- Whether a character separates the segments of a filename. -/
def isDelimiter (c : Char) : Bool :=
  c == '_' || c == '-' || c == '.' || isBlank c

/-- Whether characters have the shape of a date, in which `#` stands for a digit. -/
def hasShape : List Char → List Char → Bool
  | [], [] => true
  | '#' :: shape, c :: cs => isDigit c && hasShape shape cs
  | s :: shape, c :: cs => s == c && hasShape shape cs
  | _, _ => false

/-- Year, month and day with dashes. -/
def yearFirst : List Char := "####-##-##".toList

/-- Month, day and year with dashes. -/
def yearLast : List Char := "##-##-####".toList

/-- Year, month and day without dashes. -/
def compact : List Char := "########".toList

def leadingDate? (cs : List Char) : Option (List Char × List Char) :=
  let front := cs.take 10
  if hasShape yearFirst front || hasShape yearLast front then some (front, cs.drop 10) else none

/-- The segments of a filename without its extension: dates with dashes, and the longest runs
without delimiters in between. -/
def segments (cs : List Char) : List (List Char) :=
  match cs with
  | [] => []
  | c :: rest =>
    match leadingDate? (c :: rest) with
    | some (date, _) => date :: segments ((c :: rest).drop 10)
    | none =>
      if isDelimiter c then segments rest
      else (c :: rest.takeWhile (!isDelimiter ·)) :: segments (rest.dropWhile (!isDelimiter ·))
  termination_by cs.length
  decreasing_by
    · simp only [List.length_drop, List.length_cons]
      omega
    · exact Nat.lt_succ_self _
    · have := (List.dropWhile_suffix (!isDelimiter ·) (l := rest)).length_le
      simp only [List.length_cons]
      omega

/-- The text before the last dot and the text after it. -/
def splitLastDot? (cs : List Char) : Option (List Char × List Char) :=
  if cs.contains '.' then
    let back := cs.reverse
    some (((back.dropWhile (· != '.')).drop 1).reverse, (back.takeWhile (· != '.')).reverse)
  else none

/-- Whether a text looks like an extension: one to five ASCII letters or digits. -/
def isExtension (cs : List Char) : Bool :=
  1 ≤ cs.length && cs.length ≤ 5 && cs.all Char.isAlphanum

/-- A filename without its extension, and the extension if it has one. -/
def splitExtension (cs : List Char) : List Char × Option (List Char) :=
  match splitLastDot? cs with
  | some (stem, ext) => if !stem.isEmpty && isExtension ext then (stem, some ext) else (cs, none)
  | none => (cs, none)

end PhotoGrouping.Filename
