import PhotoGrouping.Json.Format
import PhotoGrouping.Validation.Kind

namespace PhotoGrouping

open DataFormat

/-- A problem of a kind, with a message and what it is about. -/
structure Finding (Kind : Type) where
  kind : Kind
  message : String
  context : Option String := none
  deriving Repr, DecidableEq

/-- A finding as a value, given the names of its kinds. -/
def Finding.toJson {Kind : Type} (name : Kind → String) (f : Finding Kind) : Json :=
  .object ([("kind", .text (name f.kind)), ("message", .text f.message)] ++
    Json.textField "context" f.context)

/-- The finding that a value stands for, given the kinds of names. -/
def Finding.ofJson? {Kind : Type} (named? : String → Option Kind) (v : Json) :
    Option (Finding Kind) := do
  let fields ← v.record? ["kind", "message", "context"]
  return {
    kind := ← required (Json.format.choice? named?) fields "kind"
    message := ← required Json.format.text? fields "message"
    context := ← Json.format.optional Json.format.text? fields "context" }

/-- A problem that forbids the use of a configuration. -/
abbrev ValidationError := Finding ErrorKind

abbrev ValidationWarning := Finding WarningKind

namespace Finding

/-- The finding in words, with its context in brackets. -/
def describe {Kind : Type} (f : Finding Kind) : String :=
  match f.context with
  | some context => f.message ++ " (" ++ context ++ ")"
  | none => f.message

end Finding

def ErrorKind.finding (k : ErrorKind) (context : Option String) : ValidationError :=
  ⟨k, k.defaultMessage, context⟩

def WarningKind.finding (k : WarningKind) (context : Option String) : ValidationWarning :=
  ⟨k, k.defaultMessage, context⟩

/-- The errors and warnings of a validation. Whether it is valid is kept beside them. -/
structure Report where
  errors : List ValidationError := []
  warnings : List ValidationWarning := []
  valid : Bool := errors.isEmpty
  deriving Repr, DecidableEq

namespace Report

def ofParts (errors : List ValidationError) (warnings : List ValidationWarning) : Report :=
  { errors := errors, warnings := warnings }

def success : Report :=
  .ofParts [] []

def failure (errors : List ValidationError) : Report :=
  .ofParts errors []

def ofError (e : ValidationError) : Report :=
  .failure [e]

def ofWarning (w : ValidationWarning) : Report :=
  .ofParts [] [w]

def isValid (r : Report) : Bool :=
  r.valid

def parts (r : Report) : List ValidationError × List ValidationWarning :=
  (r.errors, r.warnings)

def hasWarnings (r : Report) : Bool :=
  !r.warnings.isEmpty

def hasError (r : Report) (k : ErrorKind) : Bool :=
  r.errors.any (·.kind = k)

def hasWarning (r : Report) (k : WarningKind) : Bool :=
  r.warnings.any (·.kind = k)

def addError (r : Report) (e : ValidationError) : Report :=
  { r with errors := r.errors ++ [e], valid := false }

def addWarning (r : Report) (w : ValidationWarning) : Report :=
  { r with warnings := r.warnings ++ [w] }

/-- The findings of two reports, those of the first before those of the second; it is valid if both
are. -/
def combine (r s : Report) : Report :=
  { errors := r.errors ++ s.errors
    warnings := r.warnings ++ s.warnings
    valid := r.valid && s.valid }

def collect (rs : List Report) : Report :=
  rs.foldl combine success

@[simp] theorem errors_success : success.errors = [] := rfl

@[simp] theorem warnings_success : success.warnings = [] := rfl

@[simp] theorem valid_success : success.valid = true := rfl

@[simp] theorem errors_ofError (e : ValidationError) : (ofError e).errors = [e] := rfl

@[simp] theorem warnings_ofError (e : ValidationError) : (ofError e).warnings = [] := rfl

@[simp] theorem errors_ofWarning (w : ValidationWarning) : (ofWarning w).errors = [] := rfl

@[simp] theorem warnings_ofWarning (w : ValidationWarning) : (ofWarning w).warnings = [w] := rfl

@[simp] theorem errors_addError (r : Report) (e : ValidationError) :
    (r.addError e).errors = r.errors ++ [e] := rfl

@[simp] theorem errors_combine (r s : Report) : (r.combine s).errors = r.errors ++ s.errors := rfl

@[simp] theorem warnings_combine (r s : Report) :
    (r.combine s).warnings = r.warnings ++ s.warnings := rfl

@[simp] theorem valid_combine (r s : Report) : (r.combine s).valid = (r.valid && s.valid) := rfl

def toJson (r : Report) : Json :=
  .object [
    ("valid", .boolean r.isValid),
    ("errors", .array (r.errors.map (Finding.toJson ErrorKind.name))),
    ("warnings", .array (r.warnings.map (Finding.toJson WarningKind.name)))]

/-- The report that a value stands for, whatever it says about being valid. -/
def ofJson? (v : Json) : Option Report := do
  let fields ← v.record? ["errors", "warnings"]
  return .ofParts
    (← defaulted (Json.format.list? (Finding.ofJson? ErrorKind.named?)) [] fields "errors")
    (← defaulted (Json.format.list? (Finding.ofJson? WarningKind.named?)) [] fields "warnings")

end Report

end PhotoGrouping
