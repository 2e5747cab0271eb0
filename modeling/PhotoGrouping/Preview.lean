import PhotoGrouping.Grouping

namespace PhotoGrouping

open Text DataFormat

/-- What became of one file. -/
structure Outcome where
  filename : String
  matched : Bool
  role : Option Role := none
  groupId : Option String := none
  error : Option String := none
  deriving Repr, DecidableEq

namespace Outcome

def placed (filename groupId : String) (role : Role) : Outcome :=
  { filename := filename, matched := true, role := some role, groupId := some groupId }

def unplaced (filename : String) : Outcome :=
  { filename := filename, matched := false }

def failed (filename error : String) : Outcome :=
  { unplaced filename with error := some error }

def ofGrouping (g : Grouping) (files : List String) : List Outcome :=
  (distinct files).map fun f =>
    match g.fileToGroupId.lookup f, g.fileToRole.lookup f with
    | some id, some role => placed f id role
    | _, _ => unplaced f

end Outcome

/-- The limits of a healthy preview: the lowest percentage of matched files, and the ratio that
incomplete groups have to stay below. -/
structure HealthLimits where
  matchPercent : Float := 80.0
  incompleteRatio : Float := 0.20

def healthLimits : HealthLimits := {}

def percentage (part whole : Nat) : Float :=
  part.toFloat * 100.0 / whole.toFloat

/-- Counts and role coverage of outcomes. Groups are listed in ascending order. -/
structure Preview where
  totalFiles : Nat
  matchedFiles : Nat
  unmatchedFiles : Nat
  matchPercentage : Float
  roleCounts : List (Role × Nat)
  groupRoles : List (String × List Role)
  incompleteGroups : List String
  errors : List String
  deriving Repr

namespace Preview

/-- The group of a matched outcome, unless it is blank. -/
def groupOf? (o : Outcome) : Option String :=
  if o.matched then o.groupId.filter (!isBlankText ·) else none

def rolesOf (outcomes : List Outcome) (id : String) : List Role :=
  Role.all.filter fun role => outcomes.any fun o => groupOf? o = some id && o.role = some role

/-- Whether a group with some role lacks a front or a rear. -/
def isIncomplete (roles : List Role) : Bool :=
  !roles.isEmpty && (!roles.contains .front || !roles.contains .rear)

def of (outcomes : List Outcome) : Preview :=
  let total := outcomes.length
  let matched := (outcomes.filter (·.matched)).length
  let groupRoles :=
    (ascending (outcomes.filterMap groupOf?)).map fun id => (id, rolesOf outcomes id)
  { totalFiles := total
    matchedFiles := matched
    unmatchedFiles := total - matched
    matchPercentage := if total = 0 then 0.0 else percentage matched total
    roleCounts := Role.all.map fun role => (role, (outcomes.filter (·.role = some role)).length)
    groupRoles := groupRoles
    incompleteGroups := (groupRoles.filter fun g => isIncomplete g.2).map (·.1)
    errors := outcomes.filterMap (·.error) }

def ofGrouping (g : Grouping) (files : List String) : Preview :=
  of (Outcome.ofGrouping g files)

def roleCount (p : Preview) (role : Role) : Nat :=
  (p.roleCounts.lookup role).getD 0

def groupCount (p : Preview) : Nat :=
  p.groupRoles.length

def hasErrors (p : Preview) : Bool :=
  !p.errors.isEmpty

/-- Whether some group is incomplete or some file in no group. -/
def hasWarnings (p : Preview) : Bool :=
  !p.incompleteGroups.isEmpty || p.unmatchedFiles > 0

/-- Whether the outcomes are good enough: no errors, enough matched files and few incomplete
groups. -/
def isHealthy (p : Preview) : Bool :=
  if p.hasErrors then false
  else if p.totalFiles = 0 then true
  else if p.matchPercentage < healthLimits.matchPercent then false
  else if p.groupRoles.isEmpty then true
  else p.incompleteGroups.length.toFloat / p.groupRoles.length.toFloat < healthLimits.incompleteRatio

end Preview

def Outcome.toJson (o : Outcome) : Json :=
  .object ([("filename", .text o.filename), ("matched", .boolean o.matched)] ++
    Json.textField "role" (o.role.map Role.name) ++ Json.textField "groupId" o.groupId ++
    Json.textField "error" o.error)

def Outcome.ofJson? (v : Json) : Option Outcome := do
  let fields ← Json.format.fields? v
  return {
    filename := ← required Json.format.text? fields "filename"
    matched := ← required Json.format.boolean? fields "matched"
    role := ← Json.format.optional (Json.format.choice? Role.named?) fields "role"
    groupId := ← Json.format.optional Json.format.text? fields "groupId"
    error := ← Json.format.optional Json.format.text? fields "error" }

def Preview.toJson (p : Preview) : Json :=
  .object [
    ("totalFiles", .natural p.totalFiles), ("matchedFiles", .natural p.matchedFiles),
    ("unmatchedFiles", .natural p.unmatchedFiles), ("matchPercentage", .number p.matchPercentage),
    ("roleCounts", .ofMap .natural (p.roleCounts.map fun (role, n) => (role.name, n))),
    ("groupRoles", .ofMap (fun roles => .texts (roles.map Role.name)) p.groupRoles),
    ("incompleteGroups", .texts p.incompleteGroups), ("errors", .texts p.errors),
    ("hasErrors", .boolean p.hasErrors), ("hasWarnings", .boolean p.hasWarnings)]

end PhotoGrouping
