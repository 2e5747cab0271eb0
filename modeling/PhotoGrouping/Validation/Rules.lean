import PhotoGrouping.Listing
import PhotoGrouping.RuleMatch
import PhotoGrouping.Validation.Patterns

namespace PhotoGrouping.Validation

open Text

/-- The size beyond which a pattern is complex: its length in bytes and its number of `|`. -/
structure ComplexityLimits where
  length : Nat := 100
  alternations : Nat := 5

def complexityLimits : ComplexityLimits := {}

/-- Whether an override is long or has many alternatives. -/
def isComplex (pattern : String) : Bool :=
  pattern.utf8ByteSize > complexityLimits.length ||
    pattern.toList.count '|' > complexityLimits.alternations

def hasCase (s : String) : Bool :=
  lowercase s != uppercase s

def overrideError? (r : RoleRule) : Option ValidationError :=
  match Regex.parse r.value false with
  | .ok _ => none
  | .error e =>
    some ⟨.invalidRegexPattern,
      "Override for " ++ r.role.name ++ " does not compile: " ++ e.message, some r.value⟩

def ruleCheck (r : RoleRule) : Report :=
  if r.isBlank then .ofWarning (WarningKind.emptyRuleValue.finding (some r.role.name))
  else if r.type = .override then
    { errors := (overrideError? r).toList
      warnings :=
        if isComplex r.value then [WarningKind.complexRegex.finding (some r.value)] else [] }
  else if r.caseSensitive && hasCase r.value then
    .ofWarning (WarningKind.caseSensitivity.finding (some r.describe))
  else .success

/-- The warnings about roles without a rule that is not blank. -/
def missingRoles (rules : List RoleRule) : List ValidationWarning :=
  (Role.all.filter fun role => !rules.any fun r => r.role = role && !r.isBlank).map fun role =>
    ⟨.missingRoleRules, "No rules assign the " ++ role.name ++ " role", some role.name⟩

/-- What a rule asks of a filename. -/
structure Condition where
  type : RuleType
  value : String
  caseSensitive : Bool
  deriving Repr, DecidableEq

def Condition.of (r : RoleRule) : Condition :=
  ⟨r.type, r.folded, r.caseSensitive⟩

/-- Whether two rules give different roles under one condition. -/
def contradict (a b : RoleRule) : Bool :=
  a.role != b.role && !a.isBlank && Condition.of a == Condition.of b

/-- The error of two rules that contradict each other. -/
def contradictionError (a b : RoleRule) : ValidationError :=
  ⟨.invalidRuleConfiguration,
    "The same " ++ a.type.name ++ " '" ++ a.value ++ "' condition assigns both " ++ a.role.name ++
      " and " ++ b.role.name,
    some a.value⟩

/-- The first two rules that contradict each other, for each condition of which there are such. -/
def contradictions (rules : List RoleRule) : List (RoleRule × RoleRule) :=
  distinctOn (Condition.of ·.1) ((pairs rules).filter fun (a, b) => contradict a b)

def rules (rules : List RoleRule) : Report :=
  let each := Report.collect (rules.map ruleCheck)
  { errors := each.errors ++ (contradictions rules).map fun (a, b) => contradictionError a b
    warnings := each.warnings ++ missingRoles rules }

end PhotoGrouping.Validation
