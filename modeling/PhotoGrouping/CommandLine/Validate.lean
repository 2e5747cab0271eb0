import PhotoGrouping.CommandLine.ConfigFile
import PhotoGrouping.CommandLine.Invocation
import PhotoGrouping.CommandLine.Reply
import PhotoGrouping.Log.Journal
import PhotoGrouping.Validation.Rules
import PhotoGrouping.Validation.Samples

namespace PhotoGrouping

def Config.check (c : Config) : Report :=
  (Validation.patterns c.patternConfig).combine (Validation.rules c.patternConfig.roleRules)

namespace CommandLine

/-- The report on a configuration, and on how it does with samples if there are any. -/
def checkWithSamples (c : Config) (samples : List String) : Report :=
  if samples.isEmpty then c.check
  else c.check.combine (Validation.samples c.patternConfig (ConfigFile.sampledNames c samples))

def findingRows {Kind : Type} (severity : String) (name : Kind → String) (fs : List (Finding Kind)) :
    List (List String) :=
  fs.map fun f => [severity, name f.kind, f.message, f.context.getD ""]

/-- A number of things, with an s unless there is one. -/
def counted (n : Nat) (noun : String) : String :=
  toString n ++ " " ++ noun ++ if n = 1 then "" else "s"

def reportLines (r : Report) : List String :=
  let rows := findingRows "ERROR" ErrorKind.name r.errors ++
    findingRows "WARNING" WarningKind.name r.warnings
  let table :=
    if rows.isEmpty then []
    else Table.lines ⟨["SEVERITY", "KIND", "MESSAGE", "CONTEXT"], rows⟩ ++ [""]
  table ++
    [if r.isValid then
      "Configuration is valid (" ++ counted r.warnings.length "warning" ++ ")"
    else "Configuration is INVALID (" ++ counted r.errors.length "error" ++ ")"]

/-- The events of the grouping of samples, if it comes to that. -/
def sampleEvents (c : Config) (samples : List String) : List Event :=
  let names := ConfigFile.sampledNames c samples
  match c.patternConfig.groupPattern? with
  | some pattern =>
    if names.isEmpty || !(Regex.parse pattern true).isOk then []
    else Journal.grouping names pattern (Validation.sampleRules c.patternConfig)
  | none => []

def ValidateRequest.reply (r : ValidateRequest) (json : Bool) (file : ConfigFile) : Reply :=
  match file.load r.config with
  | .error e => .failed json e []
  | .ok c =>
    let report := checkWithSamples c r.samples
    .ended report.isValid (if json then .record report.toJson else .lines (reportLines report))
      ([.patternsChecked (Validation.patterns c.patternConfig)] ++ sampleEvents c r.samples ++
        [.configurationChecked report])

end CommandLine

end PhotoGrouping
