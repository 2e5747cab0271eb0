import PhotoGrouping.Config.Toml
import PhotoGrouping.GroupPattern
import PhotoGrouping.Json

namespace PhotoGrouping.CommandLine

/-- Why a command fails. -/
inductive CommandError
  | configMissing (path : String)
  | configUnusable (path : String) (failure : Config.Failure)
  | configNotSaved (path : String) (failure : Config.Failure)
  | noGroupPattern (path : String)
  | groupTokenMissing (token : String) (candidates : List String)
  | noPatternGenerated (refusal : GroupPattern.Refusal)
  deriving Repr

/-- What is wrong, under which circumstances, and what the user may try. -/
structure Advice where
  message : String
  context : Option String := none
  suggestions : List String := []
  deriving Repr, DecidableEq

namespace Advice

def text (a : Advice) : String :=
  let context := match a.context with
    | some c => "CONTEXT: " ++ c ++ "\n"
    | none => ""
  let suggestions :=
    if a.suggestions.isEmpty then ""
    else "\n" ++ String.join (a.suggestions.map fun s => "  " ++ s ++ "\n")
  "ERROR: " ++ a.message ++ "\n" ++ context ++ suggestions

def toJson (a : Advice) : Json :=
  .object [
    ("context", .textOrNull a.context), ("error", .text a.message),
    ("suggestions", .texts a.suggestions)]

end Advice

namespace CommandError

def advice? : CommandError → Option Advice
  | .configMissing path =>
    some {
      message := "Configuration not found: " ++ path
      context := some "The specified configuration file does not exist"
      suggestions := [
        "TRY: Check the path: ls -la " ++ path,
        "TRY: Create one with: lineup infer <FILES>... --group-token <VALUE> --config <PATH> --write"] }
  | .noGroupPattern path =>
    some {
      message := "No group pattern configured"
      context := some ("Configuration: " ++ path)
      suggestions := [
        "TRY: Infer one: lineup infer <FILES>... --group-token <VALUE> --config " ++ path ++ " --write",
        "TRY: Set group_pattern in the file, e.g. group_pattern = " ++
          "'^car_([A-Za-z0-9]+)_\\w+\\.jpg$'"] }
  | .groupTokenMissing token candidates =>
    some {
      message := "Group token not found: '" ++ token ++ "'"
      context := some "The group token must be one of the segments of the sample filenames"
      suggestions :=
        (if candidates.isEmpty then [] else ["TRY: One of: " ++ String.intercalate ", " candidates]) ++
          ["TRY: Segments are split on '_', '-', '.' and spaces"] }
  | .noPatternGenerated refusal =>
    some {
      message := "Could not generate a group pattern: Invalid argument: " ++ refusal.message
      suggestions := [
        "TRY: Run 'lineup segments <FILES>...' to inspect how the filenames split"] }
  | .configUnusable .. | .configNotSaved .. => none

/-- What an error without advice says, and its causes from the nearest to the deepest. -/
def causes : CommandError → List String
  | .configUnusable path failure =>
    ("Failed to load configuration: " ++ path) :: failure.causes path
  | .configNotSaved path failure =>
    ("Failed to write configuration: " ++ path) :: failure.causes path
  | _ => []

def indented (width : Nat) (s : String) : String :=
  String.intercalate ("\n" ++ String.ofList (List.replicate width ' ')) (s.splitOn "\n")

/-- The causes of an error, numbered if there are several. -/
def causeLines : List String → List String
  | [] => []
  | [cause] => ["    " ++ indented 4 cause]
  | several => several.mapIdx fun i cause => "    " ++ toString i ++ ": " ++ indented 7 cause

def chainText : List String → String
  | [] => ""
  | [message] => message
  | message :: causes =>
    message ++ "\n\nCaused by:\n" ++ String.intercalate "\n" (causeLines causes)

def text (e : CommandError) : String :=
  match e.advice? with
  | some a => a.text
  | none => chainText e.causes

def toJson (e : CommandError) : Json :=
  match e.advice? with
  | some a => a.toJson
  | none => .object [("error", .text (String.intercalate ": " e.causes))]

end CommandError

end PhotoGrouping.CommandLine
