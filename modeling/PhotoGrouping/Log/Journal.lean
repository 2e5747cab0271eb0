import PhotoGrouping.Grouping
import PhotoGrouping.Log.Event
import PhotoGrouping.SegmentLabel

namespace PhotoGrouping.Journal

def tokenizing (custom : List CustomToken) (files : List String) : List Event :=
  (files.flatMap fun f =>
    ((Filename.segments (Filename.splitExtension f.toList).1).map String.ofList).filterMap fun s =>
      (CustomToken.typeOf? custom s).map (.customTokenFound s)) ++
    [.filesTokenized (ascending files).length]

def deciding (s : LabelStore) (tokens : List Token) : List Event :=
  (tokens.filter fun t => (s.get? t.value).any (·.action = .ignore)).map fun t =>
    .segmentIgnored t.value

/-- The events of reading the overrides among rules, role by role. -/
def readingOverrides (rules : List RoleRule) : List Event :=
  (Role.precedence.flatMap (RoleRule.forRole rules)).filterMap fun r =>
    if r.type = .override && !r.isBlank then
      match r.regex with
      | .ok _ => none
      | .error e => some (.overrideUnreadable r.value (e.message))
    else none

/-- The events of giving roles to candidates, group by group. -/
def assigning (cs : List Candidate) : List Event :=
  (ascending (cs.map (·.groupId))).flatMap fun id =>
    let assigned := (cs.filter (·.groupId = id)).filterMap fun c =>
      c.role?.map (Event.roleAssigned c.file id)
    if assigned.isEmpty then [.groupDropped id] else assigned

def grouping (files : List String) (pattern : String) (rules : List RoleRule) : List Event :=
  match Regex.parse pattern true with
  | .error e => [.groupPatternUnreadable pattern (e.message)]
  | .ok regex =>
    let g := Grouping.ofFiles files pattern rules
    readingOverrides rules ++
      assigning (Grouping.candidates regex (preparedBuckets rules) (distinct files)) ++
      [.groupingDone g.groups.length g.fileToRole.length g.unmatchedFiles.length]

end PhotoGrouping.Journal
