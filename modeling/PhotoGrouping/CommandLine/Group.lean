import PhotoGrouping.CommandLine.ConfigFile
import PhotoGrouping.CommandLine.Invocation
import PhotoGrouping.CommandLine.Reply
import PhotoGrouping.Log.Journal
import PhotoGrouping.Preview
import PhotoGrouping.Validation.Samples

namespace PhotoGrouping.CommandLine

/-- A grouping with the preview of its files. -/
structure GroupingReport where
  grouping : Grouping
  preview : Preview
  deriving Repr

namespace GroupingReport

/-- The report on names under the rules of a configuration. -/
def ofNames (c : Config) (pattern : String) (names : List String) : GroupingReport :=
  let g := Grouping.ofFiles names pattern c.effectiveRules
  ⟨g, .ofGrouping g names⟩

def toJson (r : GroupingReport) : Json :=
  .object [
    ("grouping", r.grouping.toJson), ("summary", r.preview.toJson),
    ("healthy", .boolean r.preview.isHealthy)]

def roleCell (g : Grouping) (id : String) (role : Role) : String :=
  match g.filesWithRole id role with
  | [] => "-"
  | files => String.intercalate "\n" files

def groupLines (g : Grouping) : List String :=
  if g.groups.isEmpty then []
  else
    Table.lines {
      header := ["GROUP"] ++ Role.all.map Role.name ++ ["FILES"]
      rows := g.groups.map fun (id, members) =>
        [id] ++ Role.all.map (roleCell g id) ++ [toString members.length] } ++ [""]

def unmatchedLines (g : Grouping) : List String :=
  if g.unmatchedFiles.isEmpty then []
  else
    Table.lines {
      header := ["UNMATCHED FILE", "REASON"]
      rows := g.unmatchedFiles.map fun f => [f, (g.unmatchedReasons.lookup f).getD ""] } ++ [""]

def previewLines (p : Preview) : List String :=
  ["Matched " ++ toString p.matchedFiles ++ "/" ++ toString p.totalFiles ++ " files (" ++
      Validation.percentText p.matchPercentage ++ ")",
    "Roles: " ++ String.intercalate "  "
      (Role.all.map fun role => role.name ++ " " ++ toString (p.roleCount role))] ++
    (if p.incompleteGroups.isEmpty then []
    else ["Incomplete groups: " ++ String.intercalate ", " p.incompleteGroups]) ++
    ["Health: " ++ if p.isHealthy then "HEALTHY" else "NEEDS ATTENTION"]

def describe (r : GroupingReport) : List String :=
  groupLines r.grouping ++ unmatchedLines r.grouping ++ previewLines r.preview

end GroupingReport

def GroupRequest.reply (r : GroupRequest) (json : Bool) (file : ConfigFile) : Reply :=
  match file.load r.config with
  | .error e => .failed json e []
  | .ok c =>
    match nonBlank c.groupPattern with
    | none => .failed json (.noGroupPattern r.config) []
    | some pattern =>
      let names := ConfigFile.sampledNames c r.files
      let report := GroupingReport.ofNames c pattern names
      .ended true (if json then .record report.toJson else .lines report.describe)
        (.groupingStarted c.labelStore.labels.length ::
          Journal.grouping names pattern c.effectiveRules)

end PhotoGrouping.CommandLine
