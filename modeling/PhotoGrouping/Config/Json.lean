import PhotoGrouping.Config.Fields
import PhotoGrouping.Json.Format

namespace PhotoGrouping

def RoleRule.toJson (r : RoleRule) : Json :=
  .object [
    ("target_role", .text r.role.name), ("rule_type", .text r.type.name),
    ("rule_value", .text r.value), ("case_sensitive", .boolean r.caseSensitive),
    ("priority", .integer r.priority.toInt)]

def RoleRule.ofJson? : Json → Option RoleRule :=
  RoleRule.read? Json.format

def SegmentLabel.toJson (l : SegmentLabel) : Json :=
  .object ([("value", .text l.value), ("action", .text l.action.name)] ++
    Json.textField "custom_label" l.customLabel)

def SegmentLabel.ofJson? : Json → Option SegmentLabel :=
  SegmentLabel.read? Json.format

def CustomToken.toJson (t : CustomToken) : Json :=
  .object [
    ("name", .text t.name), ("description", .text t.description),
    ("mapped_type", .text t.type.name), ("examples", .texts t.examples)]

def CustomToken.ofJson? : Json → Option CustomToken :=
  CustomToken.read? Json.format

def PatternConfig.toJson (c : PatternConfig) : Json :=
  .object [
    ("group_pattern", .textOrNull c.groupPattern), ("group_id_token", .textOrNull c.groupIdToken),
    ("front_pattern", .textOrNull c.frontPattern), ("rear_pattern", .textOrNull c.rearPattern),
    ("overview_pattern", .textOrNull c.overviewPattern),
    ("role_rules", .array (c.roleRules.map RoleRule.toJson))]

def PatternConfig.ofJson? : Json → Option PatternConfig :=
  PatternConfig.read? Json.format

def Config.toJson (c : Config) : Json :=
  .object [
    ("group_pattern", .textOrNull c.groupPattern), ("group_id_token", .textOrNull c.groupIdToken),
    ("front_pattern", .textOrNull c.frontPattern), ("rear_pattern", .textOrNull c.rearPattern),
    ("overview_pattern", .textOrNull c.overviewPattern),
    ("max_sample_files", .natural c.maxSampleFiles),
    ("role_rules", .array (c.roleRules.map RoleRule.toJson)),
    ("segment_labels", .array (c.segmentLabels.map SegmentLabel.toJson)),
    ("custom_tokens", .array (c.customTokens.map CustomToken.toJson))]

def Config.ofJson? : Json → Option Config :=
  Config.read? Json.format

end PhotoGrouping
