import PhotoGrouping.Config
import PhotoGrouping.DataFormat

namespace PhotoGrouping

open DataFormat

variable {V : Type}

/-- The rule that a value of a data format stands for. -/
def RoleRule.read? (f : DataFormat V) (v : V) : Option RoleRule := do
  let fields ← f.fields? v
  return {
    role := ← required (f.choice? Role.named?) fields "target_role"
    type := ← required (f.choice? RuleType.named?) fields "rule_type"
    value := ← required f.text? fields "rule_value"
    caseSensitive := ← defaulted f.boolean? false fields "case_sensitive"
    priority := ← defaulted f.signed? 0 fields "priority" }

/-- The decision that a value of a data format stands for. -/
def SegmentLabel.read? (f : DataFormat V) (v : V) : Option SegmentLabel := do
  let fields ← f.fields? v
  return {
    value := ← required f.text? fields "value"
    action := ← required (f.choice? SegmentAction.named?) fields "action"
    customLabel := ← f.optional f.text? fields "custom_label" }

/-- The custom token that a value of a data format stands for. -/
def CustomToken.read? (f : DataFormat V) (v : V) : Option CustomToken := do
  let fields ← f.fields? v
  return {
    name := ← required f.text? fields "name"
    description := ← defaulted f.text? "" fields "description"
    type := ← required (f.choice? TokenType.named?) fields "mapped_type"
    examples := ← defaulted (f.list? f.text?) [] fields "examples" }

/-- The patterns and rules that a value of a data format stands for. -/
def PatternConfig.read? (f : DataFormat V) (v : V) : Option PatternConfig := do
  let fields ← f.fields? v
  return {
    groupPattern := ← f.optional f.text? fields "group_pattern"
    groupIdToken := ← f.optional f.text? fields "group_id_token"
    frontPattern := ← f.optional f.text? fields "front_pattern"
    rearPattern := ← f.optional f.text? fields "rear_pattern"
    overviewPattern := ← f.optional f.text? fields "overview_pattern"
    roleRules := ← defaulted (f.list? (RoleRule.read? f)) [] fields "role_rules" }

/-- The configuration that a value of a data format stands for. -/
def Config.read? (f : DataFormat V) (v : V) : Option Config := do
  let fields ← f.fields? v
  return {
    groupPattern := ← f.optional f.text? fields "group_pattern"
    groupIdToken := ← f.optional f.text? fields "group_id_token"
    frontPattern := ← f.optional f.text? fields "front_pattern"
    rearPattern := ← f.optional f.text? fields "rear_pattern"
    overviewPattern := ← f.optional f.text? fields "overview_pattern"
    maxSampleFiles := ← defaulted f.natural? 500 fields "max_sample_files"
    roleRules := ← defaulted (f.list? (RoleRule.read? f)) [] fields "role_rules"
    segmentLabels := ← defaulted (f.list? (SegmentLabel.read? f)) [] fields "segment_labels"
    customTokens := ← defaulted (f.list? (CustomToken.read? f)) [] fields "custom_tokens" }

end PhotoGrouping
