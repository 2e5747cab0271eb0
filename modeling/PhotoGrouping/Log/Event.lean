import PhotoGrouping.Role
import PhotoGrouping.Token
import PhotoGrouping.Validation.Report

namespace PhotoGrouping

/-- How much an event matters. -/
inductive Severity
  | error
  | warning
  | info
  | debug
  | trace
  deriving Repr, DecidableEq

namespace Severity

def all : List Severity :=
  [.error, .warning, .info, .debug, .trace]

def name : Severity → String
  | .error => "ERROR"
  | .warning => "WARN"
  | .info => "INFO"
  | .debug => "DEBUG"
  | .trace => "TRACE"

/-- The name of a severity, as wide as the longest. -/
def label (s : Severity) : String :=
  "".pushn ' ' (5 - s.name.length) ++ s.name

/-- The place of a severity among all, from one on. -/
def rank (s : Severity) : Nat :=
  all.idxOf s + 1

end Severity

/-- What the log tells about a run. -/
inductive Event
  | customTokenFound (segment : String) (type : TokenType)
  | filesTokenized (count : Nat)
  | segmentIgnored (value : String)
  | patternGenerated (pattern : String) (tokens : Nat)
  | patternInferred (pattern : String) (samples : Nat)
  | patternSaved (path : String)
  | patternsChecked (report : Report)
  | configurationChecked (report : Report)
  | groupingStarted (decisions : Nat)
  | groupPatternUnreadable (pattern report : String)
  | overrideUnreadable (pattern report : String)
  | roleAssigned (file group : String) (role : Role)
  | groupDropped (group : String)
  | groupingDone (groups matched unmatched : Nat)
  deriving Repr, DecidableEq

namespace Event

def severity : Event → Severity
  | .groupPatternUnreadable .. => .warning
  | .patternInferred .. | .patternSaved .. | .configurationChecked .. | .groupingDone .. => .info
  | _ => .debug

/-- The part of the program that an event comes from, by which a filter chooses. -/
def origin : Event → String
  | .customTokenFound .. | .filesTokenized .. => "lineup_core::tokenizer"
  | .segmentIgnored .. => "lineup_core::segments"
  | .patternGenerated .. => "lineup_core::pattern::generator"
  | .patternsChecked .. => "lineup_core::pattern::validator"
  | .patternInferred .. | .patternSaved .. => "lineup::cli::infer"
  | .configurationChecked .. => "lineup::cli::validate"
  | .groupingStarted .. | .groupPatternUnreadable .. | .overrideUnreadable .. | .roleAssigned ..
  | .groupDropped .. | .groupingDone .. => "lineup_core::grouping"

def figures (r : Report) : List (String × String) := [
  ("valid", if r.isValid then "true" else "false"), ("errors", toString r.errors.length),
  ("warnings", toString r.warnings.length)]

def account : Event → String × List (String × String)
  | .customTokenFound segment type =>
    ("custom token match", [("segment", "\"" ++ segment ++ "\""), ("token_type", type.name)])
  | .filesTokenized count => ("tokenized filenames", [("files", toString count)])
  | .segmentIgnored value => ("ignoring segment", [("value", value)])
  | .patternGenerated pattern tokens =>
    ("generated group pattern", [("pattern", pattern), ("tokens", toString tokens)])
  | .patternInferred pattern samples =>
    ("inferred group pattern", [("pattern", pattern), ("samples", toString samples)])
  | .patternSaved path => ("saved group pattern", [("path", path)])
  | .patternsChecked report => ("validated pattern configuration", figures report)
  | .configurationChecked report => ("validated configuration", figures report)
  | .groupingStarted decisions =>
    ("grouping raw filenames; segment decisions already applied",
      [("decisions", toString decisions)])
  | .groupPatternUnreadable pattern report =>
    ("group pattern does not compile", [("pattern", pattern), ("error", report)])
  | .overrideUnreadable pattern report =>
    ("override rule does not compile; treating as no match",
      [("pattern", pattern), ("error", report)])
  | .roleAssigned file group role =>
    ("assigned role", [("file", file), ("group", group), ("role", role.name)])
  | .groupDropped group => ("dropping group with no role-matched files", [("group", group)])
  | .groupingDone groups matched unmatched =>
    ("grouping complete", [("groups", toString groups), ("matched", toString matched),
      ("unmatched", toString unmatched)])

/-- An event in words, on several lines if its details have several. -/
def text (e : Event) : String :=
  let (message, details) := e.account
  message ++ String.join (details.map fun (key, value) => " " ++ key ++ "=" ++ value)

end Event

end PhotoGrouping
