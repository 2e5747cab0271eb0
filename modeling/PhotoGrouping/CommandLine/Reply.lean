import PhotoGrouping.CommandLine.CommandError
import PhotoGrouping.Json.Printer
import PhotoGrouping.Log.Filter
import PhotoGrouping.Log.Ring
import PhotoGrouping.Table

namespace PhotoGrouping.CommandLine

/-- What is printed on the standard output. -/
inductive Printed
  | lines (ls : List String)
  /-- A value over several lines. -/
  | record (v : Json)
  /-- A value on one line. -/
  | message (v : Json)
  deriving Repr

def Printed.text : Printed → String
  | .lines ls => String.join (ls.map (· ++ "\n"))
  | .record v => v.pretty 0 ++ "\n"
  | .message v => v.compact ++ "\n"

/-- How a command ends. -/
structure Reply where
  succeeded : Bool
  output : Printed
  /-- What is printed on the error output. -/
  complaint : Option String := none
  events : List Event := []
  deriving Repr

namespace Reply

def ended (succeeded : Bool) (output : Printed) (events : List Event) : Reply :=
  { succeeded := succeeded, output := output, events := events }

def failed (json : Bool) (e : CommandError) (events : List Event) : Reply :=
  if json then { succeeded := false, output := .message e.toJson, events := events }
  else { succeeded := false, output := .lines [], complaint := some e.text, events := events }

def exitCode (r : Reply) : Nat :=
  if r.succeeded then 0 else 1

/-- The text of an event in the ring, with a stamp in front. -/
def ringText (stamp : String) (e : Event) : String :=
  stamp ++ " " ++ e.severity.label ++ " " ++ e.text

/-- The text of an event that is shown at once; it also says where the event comes from. -/
def consoleText (stamp : String) (e : Event) : String :=
  stamp ++ " " ++ e.severity.label ++ " " ++ e.origin ++ ": " ++ e.text

/-- The ring after the events that its filter lets through. -/
def ring (r : Reply) (filter : LogFilter) (stamp : String) : LogRing :=
  ((r.events.filter filter.passes).flatMap fun e => logLines (ringText stamp e)).foldl LogRing.push {}

/-- The newest lines of the ring under a heading, if there are any. -/
def tailLines (ls : List String) : List String :=
  if ls.isEmpty then []
  else ("--- last " ++ toString ls.length ++ " log line(s) ---") :: ls

/-- The lines on the error output: the events that are shown at once, the tail of the ring if it is
asked for, and the complaint. -/
def errorLines (r : Reply) (filters : LogFilters) (logTail : Option Nat) (stamp : String) :
    List String :=
  (r.events.filter filters.console.passes).map (consoleText stamp) ++
    (match logTail with
    | some n => tailLines ((r.ring filters.ring stamp).tail n)
    | none => []) ++
    r.complaint.toList

end Reply

/-- What is left to do for a command: to reply, or to write a file first and to reply as that goes;
a refusal comes with the report of the system. -/
inductive Plan
  | reply (r : Reply)
  | write (path text : String) (written : Reply) (refused : String → Reply)

end PhotoGrouping.CommandLine
