import PhotoGrouping.Config.Fields
import PhotoGrouping.Text.Utf8
import PhotoGrouping.Toml.Printer
import PhotoGrouping.Toml.Reader

namespace PhotoGrouping.Config

open PhotoGrouping.Toml

/-- Why a configuration cannot be read or written. -/
inductive Failure
  /-- The file cannot be read; the system says why. -/
  | unreadable (report : String)
  | notUtf8
  | malformed
  | sampleLimitTooLarge
  deriving Repr, DecidableEq

/-- What is wrong with the file at a path, in words, and the further causes of it. -/
def Failure.causes (path : String) : Failure → List String
  | .unreadable report => ["IO error: " ++ report, report]
  | .notUtf8 =>
    ["IO error: stream did not contain valid UTF-8", "stream did not contain valid UTF-8"]
  | .malformed => ["Config error: " ++ path ++ ": TOML parse error"]
  | .sampleLimitTooLarge => ["Config error: out-of-range value"]

/-- The largest integer that a document holds. -/
def maxInteger : Nat := Nat.pow 2 63 - 1

def ofText (text : String) : Except Failure Config :=
  match (parse? text).bind fun fields => read? format (.table fields) with
  | some c => .ok c
  | none => .error .malformed

def ofBytes (bytes : List UInt8) : Except Failure Config :=
  match Text.Utf8.decode? bytes with
  | none => .error .notUtf8
  | some text => ofText text

def textLine (key : String) : Option String → String
  | none => ""
  | some s => line key (quote s)

def booleanText (b : Bool) : String :=
  if b then "true" else "false"

def ruleTable (r : RoleRule) : String :=
  elementHeader "role_rules" ++ line "target_role" (quote r.role.name) ++
    line "rule_type" (quote r.type.name) ++ line "rule_value" (quote r.value) ++
    line "case_sensitive" (booleanText r.caseSensitive) ++
    line "priority" (toString r.priority.toInt)

def labelTable (l : SegmentLabel) : String :=
  elementHeader "segment_labels" ++ line "value" (quote l.value) ++
    line "action" (quote l.action.name) ++ textLine "custom_label" l.customLabel

def customTokenTable (t : CustomToken) : String :=
  elementHeader "custom_tokens" ++ line "name" (quote t.name) ++
    line "description" (quote t.description) ++ line "mapped_type" (quote t.type.name) ++
    line "examples" (quoteList t.examples)

/-- The line of a list that is empty; other lists follow as tables. -/
def emptyLine {α : Type} (key : String) (items : List α) : String :=
  if items.isEmpty then line key "[]" else ""

/-- The document of a configuration: first the plain fields, then the tables. -/
def document (c : Config) : String :=
  textLine "group_pattern" c.groupPattern ++ textLine "group_id_token" c.groupIdToken ++
    textLine "front_pattern" c.frontPattern ++ textLine "rear_pattern" c.rearPattern ++
    textLine "overview_pattern" c.overviewPattern ++
    line "max_sample_files" (toString c.maxSampleFiles) ++
    emptyLine "role_rules" c.roleRules ++ emptyLine "segment_labels" c.segmentLabels ++
    emptyLine "custom_tokens" c.customTokens ++
    String.join (c.roleRules.map ruleTable) ++ String.join (c.segmentLabels.map labelTable) ++
    String.join (c.customTokens.map customTokenTable)

def save (c : Config) : Except Failure String :=
  if c.maxSampleFiles ≤ maxInteger then .ok c.document else .error .sampleLimitTooLarge

end PhotoGrouping.Config
