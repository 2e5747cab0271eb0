import PhotoGrouping.Regex.Parser
import PhotoGrouping.Regex.Search

namespace PhotoGrouping

/-- A pattern that has been read: its expression, in which the capturing groups are numbered from
one by their opening brackets. -/
structure Regex where
  expr : Regex.Expr
  deriving Repr, DecidableEq

namespace Regex

/-- Reads a pattern of any size, with or without regard to case where the pattern does not say. -/
def read (text : String) (caseless : Bool) : Except ParseError Regex :=
  match parseFrom { flags := { caseless := caseless } } text.toList with
  | .error e => .error e
  | .ok st =>
    match st.finish with
    | .error e => .error e
    | .ok r => .ok ⟨r⟩

/-- How many single characters a pattern may spell out. A regex compiler limits the bytes of the
program that it builds; this only approximates such a limit, with no regard to the size of sets. -/
def maxWeight : Nat := 327680

/-- Whether a pattern is small enough to be searched for, by the approximate limit. -/
def fits (r : Regex) : Bool :=
  r.expr.weight ≤ maxWeight

/-- Reads a pattern that is to be searched for, with or without regard to case where the pattern
does not say. -/
def parse (text : String) (caseless : Bool) : Except ParseError Regex :=
  match read text caseless with
  | .error e => .error e
  | .ok r => if r.fits then .ok r else .error .tooLarge

def captureCount (r : Regex) : Nat :=
  r.expr.captureCount

/-- The groups of the leftmost match in a text; group 0 is the whole match. -/
def search (r : Regex) (cs : List Char) : Option Slots :=
  searchFrom ⟨[.expr (.capture 0 r.expr)], .none (r.captureCount + 1)⟩ none 0 cs [] none

/-- Whether a pattern matches somewhere in a text. -/
def isMatch (r : Regex) (text : String) : Bool :=
  (r.search text.toList).isSome

/-- What a group of a match took, if the group took part. -/
def Slots.text? (sl : Slots) (cs : List Char) (index : Nat) : Option String :=
  (sl.span? index).map fun (a, b) => String.ofList (sliceOf cs a b)

end Regex

end PhotoGrouping
