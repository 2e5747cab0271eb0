import PhotoGrouping.CommandLine.ConfigFile
import PhotoGrouping.CommandLine.Invocation
import PhotoGrouping.CommandLine.Reply
import PhotoGrouping.Log.Journal

namespace PhotoGrouping.CommandLine

/-- A value of unknown type, in lower case. -/
structure SegmentRow where
  value : String
  /-- How many files have it. -/
  files : Nat
  labeled : Bool
  action : Option SegmentAction
  deriving Repr, DecidableEq

/-- The values of unknown type, undecided ones first. -/
structure SegmentListing where
  rows : List SegmentRow
  summary : SegmentSummary
  deriving Repr, DecidableEq

namespace SegmentListing

/-- How many files have a value of unknown type, which is given in lower case. -/
def fileCount (a : TokenAnalysis) (value : String) : Nat :=
  (a.filter fun file => (SegmentSummary.unknownValues file.2).contains value).length

def rowOf (s : LabelStore) (a : TokenAnalysis) (labeled : Bool) (value : String) : SegmentRow :=
  { value := value
    files := fileCount a value
    labeled := labeled
    action := if labeled then (s.get? value).map (·.action) else none }

def ofNames (c : Config) (names : List String) : SegmentListing :=
  let a := TokenAnalysis.ofFiles c.customTokens names
  let s := c.labelStore
  let summary := SegmentSummary.of s a
  { rows := summary.unlabeled.map (rowOf s a false) ++ summary.labeled.map (rowOf s a true)
    summary := summary }

def rowJson (r : SegmentRow) : Json :=
  .object ([("value", .text r.value), ("files", .natural r.files), ("labeled", .boolean r.labeled)] ++
    Json.textField "action" (r.action.map SegmentAction.name))

def toJson (l : SegmentListing) : Json :=
  .object [
    ("segments", .array (l.rows.map rowJson)), ("pending", .natural l.summary.pending),
    ("complete", .boolean l.summary.isComplete)]

def describe (l : SegmentListing) : List String :=
  if l.rows.isEmpty then ["No unknown segments."]
  else
    Table.lines {
      header := ["SEGMENT", "FILES", "STATUS"]
      rows := l.rows.map fun r =>
        [r.value, toString r.files, (r.action.map SegmentAction.name).getD "PENDING"] } ++
      ["", toString l.summary.pending ++ " segment(s) still need a decision"]

end SegmentListing

def SegmentsRequest.reply (r : SegmentsRequest) (json : Bool) (file : ConfigFile) : Reply :=
  match ConfigFile.loadOptional r.config file with
  | .error e => .failed json e []
  | .ok c =>
    let names := ConfigFile.sampledNames c r.files
    let l := SegmentListing.ofNames c names
    .ended true (if json then .record l.toJson else .lines l.describe)
      (Journal.tokenizing c.customTokens names)

end PhotoGrouping.CommandLine
