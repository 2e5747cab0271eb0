import PhotoGrouping.Text.Blank
import PhotoGrouping.Text.Utf8

namespace PhotoGrouping

namespace Text

/-- A line without a carriage return at its end. -/
def withoutReturn (cs : List Char) : List Char :=
  if cs.getLast? = some '\r' then cs.dropLast else cs

/-- The lines of a text, given the characters of the current line that are read already. A line ends
with a line feed, before which a carriage return is dropped; the last line may go without. -/
def linesFrom (front : List Char) : List Char → List (List Char)
  | [] => if front.isEmpty then [] else [front]
  | c :: cs => if c = '\n' then withoutReturn front :: linesFrom [] cs else linesFrom (front ++ [c]) cs

def lines (s : String) : List String :=
  (linesFrom [] s.toList).map String.ofList

end Text

open Text

/-- A bounded buffer of the newest log lines, oldest first. -/
structure LogRing where
  capacity : Nat := 1000
  lines : List String := []
  deriving Repr, DecidableEq

namespace LogRing

/-- Lines without so many of the oldest that one more does not exceed a capacity. -/
def evict (capacity : Nat) : List String → List String
  | [] => []
  | l :: ls => if capacity ≤ (l :: ls).length then evict capacity ls else l :: ls

/-- The ring with a further line, for which the oldest have to go if the ring is full. A ring of no
capacity takes none. -/
def push (r : LogRing) (line : String) : LogRing :=
  if r.capacity = 0 then r else { r with lines := evict r.capacity r.lines ++ [line] }

def pushAll (r : LogRing) (ls : List String) : LogRing :=
  ls.foldl push r

def length (r : LogRing) : Nat :=
  r.lines.length

/-- The newest lines, up to a number, oldest first. -/
def tail (r : LogRing) (n : Nat) : List String :=
  r.lines.drop (r.lines.length - n)

def clear (r : LogRing) : LogRing :=
  { r with lines := [] }

end LogRing

def logLines (text : String) : List String :=
  (lines text).filter (!isBlankText ·)

/-- A handle on a buffer of lines, with the capacity of the ring that it stands for. -/
structure LogHandle where
  capacity : Nat := 1000
  deriving Repr, DecidableEq

/-- A writer that holds bytes back until it is flushed or dropped. -/
structure LogWriter where
  handle : LogHandle
  pending : List UInt8 := []
  deriving Repr, DecidableEq

namespace LogWriter

def write (w : LogWriter) (bytes : List UInt8) : LogWriter :=
  { w with pending := w.pending ++ bytes }

/-- The lines in the bytes that are held back, and the writer without these. -/
def drain (w : LogWriter) : List String × LogWriter :=
  if w.pending.isEmpty then ([], w)
  else (logLines (Utf8.decodeLossy w.pending), { w with pending := [] })

end LogWriter

/-- A buffer of lines with what shares it: handles that are clones of each other, and the writers that
have been made from them, none of those that have been dropped. -/
structure LogBook where
  lines : List String := []
  handles : List LogHandle
  writers : List (Option LogWriter) := []
  deriving Repr, DecidableEq

/-- What is done through handles and writers, which are known by number. -/
inductive LogStep
  | clone (handle : Nat)
  | push (handle : Nat) (line : String)
  | clear (handle : Nat)
  | makeWriter (handle : Nat)
  | write (writer : Nat) (bytes : List UInt8)
  | flush (writer : Nat)
  | drop (writer : Nat)
  deriving Repr, DecidableEq

namespace LogBook

def ofHandle (h : LogHandle) : LogBook :=
  { handles := [h] }

def ring (b : LogBook) (h : LogHandle) : LogRing :=
  ⟨h.capacity, b.lines⟩

def setRing (b : LogBook) (r : LogRing) : LogBook :=
  { b with lines := r.lines }

def writer? (b : LogBook) (w : Nat) : Option LogWriter :=
  b.writers[w]?.join

/-- The book with another writer of a number, or none. -/
def setWriter (b : LogBook) (w : Nat) (writer : Option LogWriter) : LogBook :=
  { b with writers := b.writers.set w writer }

/-- The book after a writer has handed its lines to its ring. -/
def take (b : LogBook) (w : LogWriter) : LogBook :=
  b.setRing ((b.ring w.handle).pushAll w.drain.1)

/-- The book after something is done through a handle, if there is this handle. -/
def stepHandle (b : LogBook) (h : Nat) (f : LogHandle → LogBook) : LogBook :=
  (b.handles[h]?).elim b f

/-- The book after something is done through a writer, if there is this writer. -/
def stepWriter (b : LogBook) (w : Nat) (f : LogWriter → LogBook) : LogBook :=
  (b.writer? w).elim b f

def step (b : LogBook) : LogStep → LogBook
  | .clone h => b.stepHandle h fun handle => { b with handles := b.handles ++ [handle] }
  | .push h line => b.stepHandle h fun handle => b.setRing ((b.ring handle).push line)
  | .clear h => b.stepHandle h fun handle => b.setRing (b.ring handle).clear
  | .makeWriter h => b.stepHandle h fun handle => { b with writers := b.writers ++ [some ⟨handle, []⟩] }
  | .write w bytes => b.stepWriter w fun writer => b.setWriter w (some (writer.write bytes))
  | .flush w => b.stepWriter w fun writer => (b.take writer).setWriter w (some writer.drain.2)
  | .drop w => b.stepWriter w fun writer => (b.take writer).setWriter w none

def run (b : LogBook) (steps : List LogStep) : LogBook :=
  steps.foldl step b

end LogBook

end PhotoGrouping
