import PhotoGrouping.Log.Event
import PhotoGrouping.RuleMatch
import PhotoGrouping.Text.Alphabet
import PhotoGrouping.Text.Blank

namespace PhotoGrouping

open Text

/-- Lets the events through whose origin begins with a text and whose severity has at most a rank. -/
structure LogDirective where
  origin : String
  rank : Nat
  /-- Whether only events within a span are meant, of which there are none. -/
  inSpan : Bool := false
  deriving Repr, DecidableEq

/-- Directives of which the one with the longest origin counts. -/
abbrev LogFilter := List LogDirective

namespace LogFilter

/-- The rank of a level, given by name or number; zero lets nothing through. -/
def level? (s : String) : Option Nat :=
  let names := "OFF" :: Severity.all.map Severity.name
  let upper := String.ofList (s.toList.map Char.toUpper)
  if names.contains upper then some (names.idxOf upper)
  else (List.range names.length).find? fun n => toString n == s

/-- Whether an origin may be written with a character. -/
def isOriginChar (c : Char) : Bool :=
  c == '-' || c == ':' || c == '_' || isAlphanumeric c

/-- The level behind an equals sign, where an empty one lets everything through. -/
def levelOrAll? (cs : List Char) : Option Nat :=
  if cs.isEmpty then some Severity.trace.rank else level? (String.ofList cs)

/-- The level behind what names the events, if one is there. -/
def trailingLevel? : List Char → Option Nat
  | [] => some Severity.trace.rank
  | '=' :: cs => levelOrAll? cs
  | _ => none

/-- The directive that a text writes: a level, an origin, or an origin with a level. -/
def directive? (s : String) : Option LogDirective :=
  let cs := trimmed s.toList
  let front := cs.takeWhile fun c => c != '=' && c != '['
  let rest := cs.drop front.length
  if (cs.head?.map fun c => isOriginChar c || c == '[') != some true then none
  else match rest with
    | [] =>
      match level? (String.ofList front) with
      | some rank => some { origin := "", rank := rank }
      | none => some { origin := String.ofList front, rank := Severity.trace.rank }
    | '[' :: rest =>
      match rest.dropWhile (· != ']') with
      | ']' :: rest =>
        (trailingLevel? rest).map fun rank =>
          { origin := String.ofList front, rank := rank, inSpan := true }
      | _ => none
    | rest => (trailingLevel? rest).map fun rank => { origin := String.ofList front, rank := rank }

def errorsOnly : LogFilter :=
  [{ origin := "", rank := Severity.error.rank }]

/-- The filter that a text with commas between directives writes. -/
def parse? (s : String) : Option LogFilter := do
  let ds ← ((s.splitOn ",").filter (!·.isEmpty)).mapM directive?
  return if ds.isEmpty then errorsOnly else ds

/-- Everything from the program up to a severity. -/
def programUpTo (severity : Severity) : LogFilter :=
  ["lineup", "lineup_core"].map fun origin => { origin := origin, rank := severity.rank }

/-- The directive that counts for an origin: of those that cover it the one with the longest origin,
and of several with one origin the last. -/
def governing? (f : LogFilter) (origin : String) : Option LogDirective :=
  let covering := f.filter fun d => !d.inSpan && beginsWith d.origin.toList origin.toList
  covering.foldl (fun best d =>
    match best with
    | some b => if b.origin.length ≤ d.origin.length then some d else some b
    | none => some d) none

def passes (f : LogFilter) (e : Event) : Bool :=
  match f.governing? e.origin with
  | some d => e.severity.rank ≤ d.rank
  | none => false

end LogFilter

/-- The filters of a run: what is shown at once and what the ring keeps. -/
structure LogFilters where
  console : LogFilter
  ring : LogFilter
  deriving Repr, DecidableEq

/-- The filters under a setting of the environment, which may be missing. Being verbose shows more
only where there is no setting. -/
def LogFilters.of (setting : Option String) (verbose : Bool) : LogFilters :=
  let base := (setting.bind LogFilter.parse?).getD (LogFilter.programUpTo .info)
  ⟨if verbose && setting.isNone then LogFilter.programUpTo .debug else base, base⟩

end PhotoGrouping
