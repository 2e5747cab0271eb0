import PhotoGrouping.Regex.Basic

namespace PhotoGrouping.Regex

/-- Where capturing groups began and ended, by their index. -/
structure Slots where
  starts : List (Option Nat)
  stops : List (Option Nat)
  deriving Repr, DecidableEq

namespace Slots

/-- No group among `n` has taken part. -/
def none (n : Nat) : Slots :=
  ⟨List.replicate n Option.none, List.replicate n Option.none⟩

/-- The group begins at a position. -/
def enter (sl : Slots) (index pos : Nat) : Slots :=
  { sl with starts := sl.starts.set index (some pos) }

/-- The group ends at a position. -/
def leave (sl : Slots) (index pos : Nat) : Slots :=
  { sl with stops := sl.stops.set index (some pos) }

def span? (sl : Slots) (index : Nat) : Option (Nat × Nat) :=
  match sl.starts[index]?, sl.stops[index]? with
  | some (some a), some (some b) => some (a, b)
  | _, _ => Option.none

end Slots

/-- A part of an expression that is still to be matched. -/
inductive Task
  | expr (r : Expr)
  /-- Further copies of a repeated part after one that took characters. -/
  | again (greedy : Bool) (r : Expr)
  | leave (index : Nat)
  deriving Repr, DecidableEq

/-- What can happen next at a position: the match is through with the task, or it takes a character
of a set and goes on with more tasks. -/
inductive Move
  | pass (sl : Slots)
  | take (s : CharClass) (rest : List Task) (sl : Slots)
  deriving Repr

namespace Move

def takes : Move → Bool
  | .pass _ => false
  | .take .. => true

/-- Moves in order of preference without the passes after the first, which could only lead where
the first one leads. -/
def onePass : List Move → List Move
  | [] => []
  | .pass sl :: rest => .pass sl :: rest.filter takes
  | .take s tasks sl :: rest => .take s tasks sl :: onePass rest

/-- Moves of a first part, followed by tasks whose moves at the same position `next` gives. -/
def andThen (moves : List Move) (tasks : List Task) (next : Slots → List Move) : List Move :=
  moves.flatMap fun
    | .pass sl => next sl
    | .take s rest sl => [.take s (rest ++ tasks) sl]

end Move

/-- Moves of an optional part: a greedy one prefers the part, a lazy one prefers to leave it out. -/
def optionalMoves (greedy : Bool) (sl : Slots) (moves : List Move) : List Move :=
  Move.onePass (if greedy then moves ++ [.pass sl] else .pass sl :: moves)

def atMostMoves (part : Slots → List Move) (r : Expr) (greedy : Bool) :
    Nat → Slots → List Move
  | 0, sl => [.pass sl]
  | n + 1, sl =>
    optionalMoves greedy sl
      (Move.andThen (part sl) [.expr (.rep 0 (some n) greedy r)]
        (atMostMoves part r greedy n))

def someMoves (part : Slots → List Move) (r : Expr) (greedy : Bool) (sl : Slots) : List Move :=
  Move.andThen (part sl) [.again greedy r] fun sl => [.pass sl]

def repMoves (part : Slots → List Move) (r : Expr) (greedy : Bool) :
    Nat → Option Nat → Slots → List Move
  | 0, none, sl => optionalMoves greedy sl (someMoves part r greedy sl)
  | 0, some most, sl => atMostMoves part r greedy most sl
  | 1, none, sl => someMoves part r greedy sl
  | least + 1, most, sl =>
    Move.andThen (part sl) [.expr (.rep least (most.map (· - 1)) greedy r)]
      (repMoves part r greedy least (most.map (· - 1)))

/-- The moves of an expression at a position between two neighbours, in order of preference. -/
def Expr.moves (pos : Nat) (before after : Option Char) : Expr → Slots → List Move
  | .empty, sl => [.pass sl]
  | .oneOf s, sl => [.take s [] sl]
  | .look a, sl => if a.holds before after then [.pass sl] else []
  | .cat r s, sl => Move.andThen (r.moves pos before after sl) [.expr s] (s.moves pos before after)
  | .alt r s, sl => Move.onePass (r.moves pos before after sl ++ s.moves pos before after sl)
  | .capture i r, sl =>
    Move.andThen (r.moves pos before after (sl.enter i pos)) [.leave i] fun sl =>
      [.pass (sl.leave i pos)]
  | .rep least most greedy r, sl => repMoves (r.moves pos before after) r greedy least most sl

/-- The moves of a task. A part that is repeated after a copy that took characters is not passed
without taking some. -/
def Task.moves (pos : Nat) (before after : Option Char) : Task → Slots → List Move
  | .expr r, sl => r.moves pos before after sl
  | .leave i, sl => [.pass (sl.leave i pos)]
  | .again greedy r, sl =>
    let more := (someMoves (r.moves pos before after) r greedy sl).filter Move.takes
    if greedy then more ++ [.pass sl] else .pass sl :: more

/-- A way to go on with a match: the tasks left and the groups so far. -/
structure Thread where
  tasks : List Task
  slots : Slots
  deriving Repr

def tasksMoves (pos : Nat) (before after : Option Char) : List Task → Slots → List Move
  | [], sl => [.pass sl]
  | t :: ts, sl => Move.andThen (t.moves pos before after sl) ts (tasksMoves pos before after ts)

/-- The moves that are preferred to the end of the match, and the groups at that end. -/
def upToPass : List Move → List Move × Option Slots
  | [] => ([], none)
  | .pass sl :: _ => ([], some sl)
  | .take s tasks sl :: rest =>
    let (moves, found) := upToPass rest
    (.take s tasks sl :: moves, found)

/-- The threads after a character, the most preferred one first and one for each list of tasks. -/
def advance (c : Char) (moves : List Move) : List Thread :=
  moves.foldl
    (fun threads m => match m with
      | .take s tasks sl =>
        if s.contains c && !threads.any (fun t => t.tasks == tasks) then threads ++ [⟨tasks, sl⟩]
        else threads
      | .pass _ => threads)
    []

/-- Goes on through the characters left. A match may begin at each position until one is found;
a later end of a match that is preferred replaces the one found. -/
def searchFrom (start : Thread) (before : Option Char) (pos : Nat) :
    List Char → List Thread → Option Slots → Option Slots
  | [], threads, found =>
    let threads := if found.isNone then threads ++ [start] else threads
    let (_, ended) := upToPass (threads.flatMap fun t => tasksMoves pos before none t.tasks t.slots)
    ended <|> found
  | c :: cs, threads, found =>
    let threads := if found.isNone then threads ++ [start] else threads
    let (moves, ended) :=
      upToPass (threads.flatMap fun t => tasksMoves pos before (some c) t.tasks t.slots)
    let found := ended <|> found
    let threads := advance c moves
    if found.isSome && threads.isEmpty then found
    else searchFrom start (some c) (pos + 1) cs threads found

def sliceOf (cs : List Char) (a b : Nat) : List Char :=
  (cs.drop a).take (b - a)

end PhotoGrouping.Regex
