import PhotoGrouping.Regex.CharClass

namespace PhotoGrouping.Regex

open Text

/-- Which edge of a word an assertion asks for. -/
inductive WordEdge
  | either
  | neither
  | start
  | stop
  | startHalf
  | stopHalf
  deriving Repr, DecidableEq

/-- A condition on the characters around a position. -/
inductive Assertion
  | textStart
  | textEnd
  | lineStart
  | lineEnd
  /-- The start of a line that ends in `\r`, `\n` or both. -/
  | crlfLineStart
  | crlfLineEnd
  | wordEdge (edge : WordEdge) (asciiOnly : Bool)
  deriving Repr, DecidableEq

namespace Assertion

def isWordAt (asciiOnly : Bool) : Option Char → Bool
  | none => false
  | some c => if asciiOnly then c.toNat < 128 && isWord c else isWord c

/-- Whether the assertion holds between two neighbours. -/
def holds (a : Assertion) (before after : Option Char) : Bool :=
  match a with
  | .textStart => before.isNone
  | .textEnd => after.isNone
  | .lineStart => before.isNone || before == some '\n'
  | .lineEnd => after.isNone || after == some '\n'
  | .crlfLineStart =>
    before.isNone || before == some '\n' || (before == some '\r' && after != some '\n')
  | .crlfLineEnd =>
    after.isNone || after == some '\r' || (after == some '\n' && before != some '\r')
  | .wordEdge edge asciiOnly =>
    let b := isWordAt asciiOnly before
    let a := isWordAt asciiOnly after
    match edge with
    | .either => b != a
    | .neither => b == a
    | .start => !b && a
    | .stop => b && !a
    | .startHalf => !b
    | .stopHalf => !a

end Assertion

/-- A regular expression. -/
inductive Expr
  | empty
  | oneOf (s : CharClass)
  | look (a : Assertion)
  | cat (r s : Expr)
  | alt (r s : Expr)
  | capture (index : Nat) (r : Expr)
  /-- Between `least` and `most` copies, without limit when `most` is absent; a greedy repetition
  prefers more copies to fewer. -/
  | rep (least : Nat) (most : Option Nat) (greedy : Bool) (r : Expr)
  deriving Repr, DecidableEq

namespace Expr

def catOf : List Expr → Expr
  | [] => .empty
  | [r] => r
  | r :: rest => .cat r (catOf rest)

/-- The choice between the expressions, the first one preferred. -/
def altOf : List Expr → Expr
  | [] => .empty
  | [r] => r
  | r :: rest => .alt r (altOf rest)

def captureCount : Expr → Nat
  | .empty | .oneOf _ | .look _ => 0
  | .cat r s | .alt r s => r.captureCount + s.captureCount
  | .capture _ r => r.captureCount + 1
  | .rep _ _ _ r => r.captureCount

/-- Whether an expression repeats a part. -/
def hasRepetition : Expr → Bool
  | .empty | .oneOf _ | .look _ => false
  | .cat r s | .alt r s => r.hasRepetition || s.hasRepetition
  | .capture _ r => r.hasRepetition
  | .rep .. => true

/-- How many single characters an expression spells out, counted repetitions written in full. -/
def weight : Expr → Nat
  | .empty | .look _ => 0
  | .oneOf _ => 1
  | .cat r s | .alt r s => r.weight + s.weight
  | .capture _ r => r.weight + 2
  | .rep least most _ r => max 1 (most.getD least) * (r.weight + 1)

end Expr

end PhotoGrouping.Regex
