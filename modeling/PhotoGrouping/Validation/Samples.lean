import PhotoGrouping.Filename
import PhotoGrouping.Preview
import PhotoGrouping.Text.Decimal
import PhotoGrouping.Validation.Patterns

namespace PhotoGrouping.Validation

open Text

/-- The match percentage below which a run over samples gets a warning. -/
def lowMatchPercent : Float := 80.0

def maxListed : Nat := 5

def percentText (x : Float) : String :=
  Decimal.fixed 1 x ++ "%"

/-- The rules that samples are grouped with: a role without rules gets its pattern as an override. -/
def sampleRules (c : PatternConfig) : List RoleRule :=
  (Role.precedence.filter fun role => !c.roleRules.any (·.role = role)).filterMap (fun role =>
    (c.rolePattern? role).map (RoleRule.foremost role)) ++ c.roleRules

/-- The first names of a list, and how many more there are. -/
def listText (names : List String) : String :=
  let shown := String.intercalate ", " (names.take maxListed)
  if names.length > maxListed then
    shown ++ " and " ++ toString (names.length - maxListed) ++ " more"
  else shown

def ofFilesText (part whole : Nat) : String :=
  toString part ++ " of " ++ toString whole ++ " files"

def incompleteGroups (g : Grouping) : List String :=
  (g.groups.map (·.1)).filter fun id =>
    !(g.rolesIn id).contains .front || !(g.rolesIn id).contains .rear

/-- The warning about groups that lack a front or a rear. -/
def incompleteWarning (g : Grouping) : List ValidationWarning :=
  match incompleteGroups g with
  | [] => []
  | ids =>
    [⟨.incompleteGroups, toString ids.length ++ " group(s) are missing FRONT or REAR images",
      some (listText ids)⟩]

/-- The warning when some groups have an overview and others do not. -/
def overviewWarning (g : Grouping) : List ValidationWarning :=
  let n := ((g.groups.map (·.1)).filter fun id => (g.rolesIn id).contains .overview).length
  if 0 < n && n < g.groups.length then
    [⟨.incompleteGroupCoverage,
      toString n ++ " of " ++ toString g.groups.length ++ " groups have an OVERVIEW image", none⟩]
  else []

/-- The warning when one group is more than twice as large as another. -/
def balanceWarning (g : Grouping) : List ValidationWarning :=
  match (g.groups.map (·.2.length)).min?, (g.groups.map (·.2.length)).max? with
  | some smallest, some largest =>
    if g.groups.length > 1 && largest > smallest * 2 then
      [WarningKind.unbalancedGroups.finding
        (some ("smallest " ++ toString smallest ++ " file(s), largest " ++ toString largest ++
          " file(s)"))]
    else []
  | _, _ => []

/-- The distinct extensions of the files with a role, in lower case and ascending order. -/
def extensions (g : Grouping) : List String :=
  ascending (g.fileToRole.filterMap fun (file, _) =>
    (Filename.splitLastDot? file.toList).map fun (_, ext) => lowercase (String.ofList ext))

/-- The warning about files with different extensions. -/
def extensionWarning (g : Grouping) : List ValidationWarning :=
  let exts := extensions g
  if exts.length > 1 then
    [WarningKind.extensionMismatch.finding (some (String.intercalate ", " exts))]
  else []

def coverage (g : Grouping) : Report :=
  { warnings := incompleteWarning g ++ overviewWarning g ++ balanceWarning g ++ extensionWarning g }

def unmatchedWarning (g : Grouping) : List ValidationWarning :=
  if g.unmatchedFiles.length > 0 then
    [WarningKind.unmatchedFiles.finding
      (some (ofFilesText g.unmatchedFiles.length g.totalFiles))]
  else []

def rateWarning (g : Grouping) : List ValidationWarning :=
  let rate := percentage g.fileToRole.length g.totalFiles
  if rate < lowMatchPercent then
    [⟨.lowMatchRate, "Only " ++ percentText rate ++ " of the sample files matched",
      some (ofFilesText g.fileToRole.length g.totalFiles)⟩]
  else []

def sampleGrouping (g : Grouping) : Report :=
  if g.fileToRole.length = 0 then
    .ofError (ErrorKind.noFilesMatched.finding (some (ofFilesText 0 g.totalFiles)))
  else
    Report.combine { warnings := unmatchedWarning g ++ rateWarning g } (coverage g)

/-- The checks of a configuration against sample filenames. -/
def samples (c : PatternConfig) (files : List String) : Report :=
  if files.isEmpty then .ofWarning (WarningKind.noSampleFiles.finding none)
  else match c.groupPattern? with
    | none => .success
    | some pattern =>
      match Regex.parse pattern true with
      | .error e =>
        .ofError ⟨.invalidGroupPattern, "Invalid group pattern: " ++ e.message, some pattern⟩
      | .ok _ => sampleGrouping (.ofFiles files pattern (sampleRules c))

end PhotoGrouping.Validation
