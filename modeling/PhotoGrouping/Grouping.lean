import PhotoGrouping.Json.Format
import PhotoGrouping.Listing
import PhotoGrouping.RuleMatch

namespace PhotoGrouping

open Text DataFormat

/-- Why a file is in no group. -/
inductive Unmatched
  | invalidPattern (report : String)
  | noMatch
  | emptyGroupId
  | noRole
  deriving Repr, DecidableEq

def Unmatched.message : Unmatched → String
  | .invalidPattern report => "Invalid group pattern: " ++ report
  | .noMatch => "Filename did not match the group pattern"
  | .emptyGroupId => "Pattern matched but captured an empty group ID"
  | .noRole => "No role rules matched this file"

/-- Files by group with their roles, and the files in no group with the reasons. Maps are listed in
ascending order of their keys. -/
structure Grouping where
  groups : List (String × List String) := []
  fileToGroupId : List (String × String) := []
  fileToRole : List (String × Role) := []
  unmatchedFiles : List String := []
  unmatchedReasons : List (String × String) := []
  deriving Repr, DecidableEq

namespace Grouping

def totalFiles (g : Grouping) : Nat :=
  g.fileToGroupId.length + g.unmatchedFiles.length

def members (g : Grouping) (id : String) : List String :=
  (g.groups.lookup id).getD []

/-- The files of a group that have a role, in the order of the group. -/
def filesWithRole (g : Grouping) (id : String) (role : Role) : List String :=
  (g.members id).filter fun f => g.fileToRole.lookup f = some role

def rolesIn (g : Grouping) (id : String) : List Role :=
  Role.all.filter fun role => !(g.filesWithRole id role).isEmpty

end Grouping

/-- The rules of each role made ready for matching, in the order in which roles claim files. -/
def preparedBuckets (rules : List RoleRule) : List (Role × List PreparedRule) :=
  Role.precedence.map fun role => (role, (RoleRule.forRole rules role).map PreparedRule.of)

/-- The first role with a rule that matches a file. -/
def roleOf? (buckets : List (Role × List PreparedRule)) (file : String) : Option Role :=
  (buckets.find? fun b => b.2.any (·.isMatch file)).map (·.1)

/-- The group of a file: what the first group of the pattern takes, unless that is blank. -/
def groupIdOf (regex : Regex) (file : String) : Except Unmatched String :=
  let cs := file.toList
  match regex.search cs with
  | none => .error .noMatch
  | some slots =>
    match slots.text? cs 1 with
    | none => .error .emptyGroupId
    | some id => if isBlankText id then .error .emptyGroupId else .ok id

/-- A file that the group pattern gives a group, with the role it gets there. -/
structure Candidate where
  file : String
  groupId : String
  role? : Option Role
  deriving Repr, DecidableEq

namespace Grouping

/-- The files that the pattern gives no group, with the reasons. -/
def rejected (regex : Regex) (files : List String) : List (String × Unmatched) :=
  files.filterMap fun f =>
    match groupIdOf regex f with
    | .ok _ => none
    | .error reason => some (f, reason)

/-- The files that the pattern gives a group. -/
def candidates (regex : Regex) (buckets : List (Role × List PreparedRule)) (files : List String) :
    List Candidate :=
  files.filterMap fun f =>
    match groupIdOf regex f with
    | .ok id => some ⟨f, id, roleOf? buckets f⟩
    | .error _ => none

/-- A map from the files of candidates, listed in ascending order of the files. -/
def tabulate {α : Type} (cs : List Candidate) (value : Candidate → Option α) : List (String × α) :=
  (ascending (cs.map (·.file))).filterMap fun f =>
    (cs.find? (·.file = f)).bind fun c => (value c).map (f, ·)

/-- The groups of candidates with a role, without the groups that have none. -/
def groupsOf (cs : List Candidate) : List (String × List String) :=
  (ascending (cs.map (·.groupId))).filterMap fun id =>
    match (cs.filter fun c => c.groupId = id && c.role?.isSome).map (·.file) with
    | [] => none
    | files => some (id, files)

/-- The candidates without a role, group by group. -/
def rolelessOf (cs : List Candidate) : List String :=
  (ascending (cs.map (·.groupId))).flatMap fun id =>
    (cs.filter fun c => c.groupId = id && c.role?.isNone).map (·.file)

/-- A map from texts in any order, listed in ascending order; of two values of a text the first
counts. -/
def sortedMap {α : Type} (m : List (String × α)) : List (String × α) :=
  (ascending (m.map (·.1))).filterMap fun k => (m.lookup k).map (k, ·)

/-- The grouping in which no file has a group, each for its reason. -/
def ofUnmatched (us : List (String × Unmatched)) : Grouping :=
  { unmatchedFiles := us.map (·.1)
    unmatchedReasons := sortedMap (us.map fun u => (u.1, u.2.message)) }

def ofCandidates (cs : List Candidate) (rejected : List (String × Unmatched)) : Grouping :=
  let unmatched := rejected ++ (rolelessOf cs).map (·, .noRole)
  { groups := groupsOf cs
    fileToGroupId := tabulate cs fun c => if c.role?.isSome then some c.groupId else none
    fileToRole := tabulate cs (·.role?)
    unmatchedFiles := unmatched.map (·.1)
    unmatchedReasons := sortedMap (unmatched.map fun u => (u.1, u.2.message)) }

/-- Groups the distinct files by a pattern that is searched for without regard to case, and gives
each file the first role whose rules match it. A file without a role is in no group. -/
def ofFiles (files : List String) (pattern : String) (rules : List RoleRule) : Grouping :=
  let files := distinct files
  match Regex.parse pattern true with
  | .error e => ofUnmatched (files.map (·, .invalidPattern e.message))
  | .ok regex => ofCandidates (candidates regex (preparedBuckets rules) files) (rejected regex files)

def toJson (g : Grouping) : Json :=
  .object [
    ("groups", .ofMap .texts g.groups), ("fileToGroupId", .ofMap .text g.fileToGroupId),
    ("fileToRole", .ofMap (fun role => .text role.name) g.fileToRole),
    ("unmatchedFiles", .texts g.unmatchedFiles),
    ("unmatchedReasons", .ofMap .text g.unmatchedReasons)]

/-- The grouping that a value stands for, with its maps put in order. -/
def ofJson? (v : Json) : Option Grouping := do
  let fields ← Json.format.fields? v
  let text := Json.format.text?
  let texts := Json.format.list? text
  return {
    groups := sortedMap (← required (Json.map? texts) fields "groups")
    fileToGroupId := sortedMap (← required (Json.map? text) fields "fileToGroupId")
    fileToRole :=
      sortedMap (← required (Json.map? (Json.format.choice? Role.named?)) fields "fileToRole")
    unmatchedFiles := ← required texts fields "unmatchedFiles"
    unmatchedReasons := sortedMap (← required (Json.map? text) fields "unmatchedReasons") }

end Grouping

end PhotoGrouping
