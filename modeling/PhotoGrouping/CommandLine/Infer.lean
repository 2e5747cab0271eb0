import PhotoGrouping.CommandLine.ConfigFile
import PhotoGrouping.CommandLine.Invocation
import PhotoGrouping.CommandLine.Reply
import PhotoGrouping.Json.Format
import PhotoGrouping.Log.Journal
import PhotoGrouping.Validation.Samples

namespace PhotoGrouping.CommandLine

open Text

/-- A group pattern with the token that it takes the group from. -/
structure Inference where
  pattern : String
  token : Token
  samples : Nat
  /-- The values of unknown type without a decision. -/
  pending : List String
  typeConfidence : List (TokenType × Float)
  deriving Repr

namespace Inference

/-- The tokens of all names, after the decisions of a configuration. -/
def pooledTokens (c : Config) (names : List String) : List Token :=
  names.flatMap fun name => c.labelStore.apply (tokensOf c.customTokens name)

/-- The undecided values of all names, each as it occurs first in either ASCII case. -/
def pendingValues (c : Config) (names : List String) : List String :=
  distinctOn asciiLowercase
    (names.flatMap fun name => c.labelStore.undecided (tokensOf c.customTokens name))

/-- The first token with a value, preferably in the same case. -/
def findToken? (tokens : List Token) (value : String) : Option Token :=
  tokens.find? (·.value = value) <|>
    tokens.find? fun t => asciiLowercase t.value = asciiLowercase value

/-- The values that may well be the group, in ascending order. -/
def candidateValues (tokens : List Token) : List String :=
  ascending ((tokens.filter fun t => t.type ∈ [.groupId, .index, .unknown]).map (·.value))

/-- The inference from names under a configuration, given the value of the group. -/
def ofNames (c : Config) (names : List String) (groupValue : String) :
    Except CommandError Inference :=
  let pooled := pooledTokens c names
  match findToken? pooled groupValue with
  | none => .error (.groupTokenMissing groupValue (candidateValues pooled))
  | some token =>
    match GroupPattern.generate pooled (some token) with
    | .error refusal => .error (.noPatternGenerated refusal)
    | .ok pattern =>
      .ok {
        pattern := pattern
        token := token
        samples := names.length
        pending := pendingValues c names
        typeConfidence := (TokenAnalysis.ofFiles c.customTokens names).typeConfidence }

def store (i : Inference) (c : Config) : Config :=
  { c with groupPattern := some i.pattern, groupIdToken := some i.token.value }

def events (c : Config) (names : List String) (result : Except CommandError Inference) :
    List Event :=
  let pooled := pooledTokens c names
  Journal.tokenizing c.customTokens names ++
    (names.flatMap fun name => Journal.deciding c.labelStore (tokensOf c.customTokens name)) ++
    match result with
    | .ok i => [.patternGenerated i.pattern pooled.length, .patternInferred i.pattern i.samples]
    | .error _ => []

def toJson (i : Inference) (written : Bool) : Json :=
  .object [
    ("group_pattern", .text i.pattern), ("group_token", .text i.token.value),
    ("group_position", .natural i.token.position), ("samples", .natural i.samples),
    ("pending_segments", .texts i.pending),
    ("type_confidence", .ofMap .number (i.typeConfidence.map fun (type, x) => (type.name, x))),
    ("written", .boolean written)]

def confidenceLines (i : Inference) : List String :=
  if i.typeConfidence.isEmpty then []
  else
    "" :: Table.lines {
      header := ["TYPE", "CONFIDENCE"]
      rows := i.typeConfidence.map fun (type, x) =>
        [type.name, Validation.percentText (x * 100.0)] }

/-- The undecided values, with what to do about them. -/
def pendingLines (i : Inference) : List String :=
  if i.pending.isEmpty then []
  else [
    "", "Unlabeled segments: " ++ String.intercalate ", " i.pending,
    "  TRY: Label them under [[segment_labels]] in the configuration"]

def describe (i : Inference) (written : Bool) : List String :=
  ["Group pattern: " ++ i.pattern,
    "Group token:   " ++ i.token.value ++ " (position " ++ toString i.token.position ++ ", " ++
      toString i.samples ++ " sample(s))"] ++
    ((Validation.groupPattern i.pattern).errors.map fun e => "  ERROR: " ++ e.describe) ++
    i.confidenceLines ++ i.pendingLines ++
    if written then ["", "Saved group pattern to configuration."] else []

end Inference

namespace InferRequest

/-- The configuration that an inference starts from; one that is written may be missing before. -/
def startConfig (r : InferRequest) (file : ConfigFile) : Except CommandError Config :=
  if r.write && file = .missing then .ok {} else ConfigFile.loadOptional r.config file

def replyTo (json : Bool) (i : Inference) (written : Bool) (events : List Event) : Reply :=
  .ended true (if json then .record (i.toJson written) else .lines (i.describe written)) events

/-- Infers a group pattern, and has it written into the configuration if that is wanted. -/
def plan (r : InferRequest) (json : Bool) (file : ConfigFile) : Plan :=
  match r.startConfig file with
  | .error e => .reply (.failed json e [])
  | .ok c =>
    let names := ConfigFile.sampledNames c r.files
    let result := Inference.ofNames c names r.groupToken
    let events := Inference.events c names result
    match result, r.config with
    | .error e, _ => .reply (.failed json e events)
    | .ok i, some path =>
      if r.write then
        match (i.store c).save with
        | .error failure => .reply (.failed json (.configNotSaved path failure) events)
        | .ok text =>
          .write path text (replyTo json i true (events ++ [.patternSaved path])) fun report =>
            .failed json (.configNotSaved path (.unreadable report)) events
      else .reply (replyTo json i false events)
    | .ok i, none => .reply (replyTo json i false events)

end InferRequest

end PhotoGrouping.CommandLine
