namespace PhotoGrouping.CommandLine

/-- How many values an option takes. -/
inductive Arity
  | none
  | one
  | many
  deriving Repr, DecidableEq

/-- An option by its long and perhaps a short name. -/
structure OptionSpec where
  long : String
  short : Option Char := Option.none
  arity : Arity := .none
  /-- Whether a text may be its value. -/
  allows : String → Bool := fun _ => true

/-- Why no command is run: the user asks for help, or the arguments make no sense. -/
inductive Refusal
  | help
  | misuse
  deriving Repr, DecidableEq

/-- The form of an argument. -/
inductive Form
  /-- Two dashes, after which there are only operands. -/
  | terminator
  | long (name : String) (attached : Option String)
  | cluster (names : List Char)
  | operand
  deriving Repr, DecidableEq

/-- The form of an argument, by its first characters. -/
def Form.of (arg : String) : Form :=
  match arg.toList with
  | ['-', '-'] => .terminator
  | '-' :: '-' :: cs =>
    let name := cs.takeWhile (· != '=')
    let attached := match cs.drop name.length with
      | '=' :: value => some (String.ofList value)
      | _ => Option.none
    .long (String.ofList name) attached
  | '-' :: c :: cs => .cluster (c :: cs)
  | _ => .operand

/-- Options with their values, as they are given one after the other, and operands. -/
structure Given where
  options : List (String × List String) := []
  operands : List String := []
  deriving Repr, DecidableEq

namespace Given

def has (g : Given) (long : String) : Bool :=
  g.options.any (·.1 == long)

def values (g : Given) (long : String) : List String :=
  (g.options.filter (·.1 == long)).flatMap (·.2)

def value? (g : Given) (long : String) : Option String :=
  (g.values long).head?

/-- Records an option with values, unless it asks for help, may not have one of the values, or takes
at most one value and is there already. -/
def add (g : Given) (spec : OptionSpec) (values : List String) : Except Refusal Given :=
  if spec.long == "help" then .error .help
  else if spec.arity != .many && g.has spec.long then .error .misuse
  else if !values.all spec.allows then .error .misuse
  else .ok { g with options := g.options ++ [(spec.long, values)] }

end Given

/-- Reads short names written together. All but the last are flags; the last may be followed by its
value, or leaves its values to the next arguments. -/
def readCluster (specs : List OptionSpec) :
    List Char → Given → Except Refusal (Given × Option OptionSpec)
  | [], g => .ok (g, none)
  | c :: cs, g =>
    match specs.find? (·.short == some c) with
    | none => .error .misuse
    | some spec =>
      match spec.arity, cs with
      | .none, cs => do readCluster specs cs (← g.add spec [])
      | _, [] => .ok (g, some spec)
      | _, '=' :: value | _, value => do return (← g.add spec [String.ofList value], none)

/-- Splits the values of an option off the arguments behind it. -/
def splitValues (spec : OptionSpec) (args : List String) : List String × List String :=
  let operands := args.takeWhile fun arg => Form.of arg == .operand
  let values := if spec.arity == .many then operands else operands.take 1
  (values, args.drop values.length)

theorem length_splitValues (spec : OptionSpec) (args : List String) :
    (splitValues spec args).2.length ≤ args.length := by
  simp [splitValues]

/-- Reads arguments. Where no operands are taken, reading ends before the first one. -/
def readArguments (specs : List OptionSpec) (takesOperands : Bool) (args : List String) (g : Given) :
    Except Refusal (Given × List String) :=
  match args with
  | [] => .ok (g, [])
  | arg :: rest =>
    let readValues (spec : OptionSpec) (g : Given) : Except Refusal (Given × List String) :=
      if (splitValues spec rest).1.isEmpty then .error .misuse
      else do
        readArguments specs takesOperands (splitValues spec rest).2
          (← g.add spec (splitValues spec rest).1)
    match Form.of arg with
    | .terminator =>
      if takesOperands then .ok ({ g with operands := g.operands ++ rest }, [])
      else if rest.isEmpty then .ok (g, [])
      else .error .misuse
    | .operand =>
      if takesOperands then
        readArguments specs takesOperands rest { g with operands := g.operands ++ [arg] }
      else .ok (g, arg :: rest)
    | .cluster names => do
      match ← readCluster specs names g with
      | (g, none) => readArguments specs takesOperands rest g
      | (g, some spec) => readValues spec g
    | .long name attached =>
      match specs.find? (·.long == name) with
      | none => .error .misuse
      | some spec =>
        match spec.arity, attached with
        | .none, none => do readArguments specs takesOperands rest (← g.add spec [])
        | .none, some _ => .error .misuse
        | _, some value => do readArguments specs takesOperands rest (← g.add spec [value])
        | _, none => readValues spec g
  termination_by args.length
  decreasing_by
    · exact Nat.lt_succ_of_le (length_splitValues _ _)
    all_goals exact Nat.lt_succ_self _

end PhotoGrouping.CommandLine
