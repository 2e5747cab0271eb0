import PhotoGrouping.CommandLine.Options

namespace PhotoGrouping.CommandLine

/-- The inference of a group pattern from sample filenames. -/
structure InferRequest where
  files : List String
  /-- The value of the segment that holds the group. -/
  groupToken : String
  config : Option String := none
  /-- Whether the pattern is stored in the configuration. -/
  write : Bool := false
  deriving Repr, DecidableEq

/-- The listing of segments of unknown type. -/
structure SegmentsRequest where
  files : List String
  config : Option String := none
  deriving Repr, DecidableEq

/-- The check of a configuration, perhaps against sample filenames. -/
structure ValidateRequest where
  config : String
  samples : List String := []
  deriving Repr, DecidableEq

/-- The grouping of files. -/
structure GroupRequest where
  config : String
  files : List String
  deriving Repr, DecidableEq

/-- What is to be done. -/
inductive Command
  | infer (r : InferRequest)
  | segments (r : SegmentsRequest)
  | validate (r : ValidateRequest)
  | group (r : GroupRequest)
  deriving Repr, DecidableEq

/-- A command with the wishes about its output. -/
structure Invocation where
  command : Command
  json : Bool := false
  verbose : Bool := false
  /-- How many log lines are shown at the end. -/
  logTail : Option Nat := none
  deriving Repr, DecidableEq

namespace Invocation

/-- The number that a text writes, of 64 bits and perhaps with a plus sign. -/
def count? (s : String) : Option Nat :=
  let digits := match s.toList with
    | '+' :: cs => cs
    | cs => cs
  if digits.isEmpty || !digits.all Char.isDigit then none
  else
    let n := digits.foldl (fun n c => n * 10 + (c.toNat - 48)) 0
    if n < Nat.pow 2 64 then some n else none

/-- The options that may stand before and after the name of a command. -/
def globalOptions : List OptionSpec := [
  { long := "help", short := some 'h' }, { long := "verbose", short := some 'v' },
  { long := "log-tail", arity := .one, allows := fun s => (count? s).isSome }]

def configOption : OptionSpec :=
  { long := "config", short := some 'c', arity := .one, allows := (· != "") }

def jsonOption : OptionSpec := { long := "json" }

/-- The options of a command, and whether it takes filenames. -/
def optionsOf? : String → Option (List OptionSpec × Bool)
  | "infer" =>
    some ([configOption, jsonOption, { long := "group-token", arity := .one }, { long := "write" }],
      true)
  | "segments" => some ([configOption, jsonOption], true)
  | "validate" => some ([configOption, jsonOption, { long := "samples", arity := .many }], false)
  | "group" => some ([configOption, jsonOption], true)
  | _ => none

/-- The command that a name and what is given with it ask for, if nothing required is missing. -/
def command? (name : String) (g : Given) : Option Command :=
  let config := g.value? "config"
  match name with
  | "infer" => do
    let groupToken ← g.value? "group-token"
    let write := g.has "write"
    if g.operands.isEmpty || (write && config.isNone) then none
    else some (.infer ⟨g.operands, groupToken, config, write⟩)
  | "segments" => if g.operands.isEmpty then none else some (.segments ⟨g.operands, config⟩)
  | "validate" => do return .validate ⟨← config, g.values "samples"⟩
  | "group" => do
    let config ← config
    if g.operands.isEmpty then none else some (.group ⟨config, g.operands⟩)
  | _ => none

/-- The answer to a request for help on a command, or on all of them. -/
def helpOn : List String → Refusal
  | [] => .help
  | [name] => if name == "help" || (optionsOf? name).isSome then .help else .misuse
  | _ => .misuse

/-- What the arguments ask for. An option before the name of the command gives way to the same option
behind it. -/
def parse (args : List String) : Except Refusal Invocation := do
  let (outer, rest) ← readArguments globalOptions false args {}
  match rest with
  | [] => .error .misuse
  | name :: rest =>
    if name == "help" then .error (helpOn rest)
    else match optionsOf? name with
      | none => .error .misuse
      | some (options, takesFiles) => do
        let (inner, left) ← readArguments (globalOptions ++ options) takesFiles rest {}
        match left, command? name inner with
        | [], some command =>
          .ok {
            command := command
            json := inner.has "json"
            verbose := outer.has "verbose" || inner.has "verbose"
            logTail := (inner.value? "log-tail" <|> outer.value? "log-tail").bind count? }
        | _, _ => .error .misuse

end Invocation

end PhotoGrouping.CommandLine
