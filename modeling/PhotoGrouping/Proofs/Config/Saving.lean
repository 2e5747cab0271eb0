import PhotoGrouping.Config.Toml
import PhotoGrouping.Proofs.Text.Utf8
import PhotoGrouping.Proofs.Toml.Tables

namespace PhotoGrouping

open Toml DataFormat

/-- The field of a text that may be absent. -/
def Toml.textField (key : String) (text : Option String) : List (String × Value) :=
  (text.map fun s => (key, .string s)).toList

def Toml.emptyField {α : Type} (key : String) (items : List α) : List (String × Value) :=
  if items.isEmpty then [(key, .array [])] else []

/-- The field of a list of tables, which is there from its first table on. -/
def Toml.rowsField (key : String) (rows : List (List (String × Value))) : List (String × Value) :=
  if rows.isEmpty then [] else [(key, .array (rows.map .table))]

def RoleRule.tomlFields (r : RoleRule) : List (String × Value) :=
  [("target_role", .string r.role.name), ("rule_type", .string r.type.name),
    ("rule_value", .string r.value), ("case_sensitive", .boolean r.caseSensitive),
    ("priority", .integer r.priority.toInt)]

def SegmentLabel.tomlFields (l : SegmentLabel) : List (String × Value) :=
  [("value", .string l.value), ("action", .string l.action.name)] ++
    textField "custom_label" l.customLabel

def CustomToken.tomlFields (t : CustomToken) : List (String × Value) :=
  [("name", .string t.name), ("description", .string t.description),
    ("mapped_type", .string t.type.name), ("examples", .array (t.examples.map .string))]

/-- The fields of a configuration that come before its tables. -/
def Config.plainFields (c : Config) : List (String × Value) :=
  textField "group_pattern" c.groupPattern ++ textField "group_id_token" c.groupIdToken ++
    textField "front_pattern" c.frontPattern ++ textField "rear_pattern" c.rearPattern ++
    textField "overview_pattern" c.overviewPattern ++
    [("max_sample_files", .integer c.maxSampleFiles)] ++
    emptyField "role_rules" c.roleRules ++ emptyField "segment_labels" c.segmentLabels ++
    emptyField "custom_tokens" c.customTokens

def Config.tomlFields (c : Config) : List (String × Value) :=
  c.plainFields ++ rowsField "role_rules" (c.roleRules.map RoleRule.tomlFields) ++
    rowsField "segment_labels" (c.segmentLabels.map SegmentLabel.tomlFields) ++
    rowsField "custom_tokens" (c.customTokens.map CustomToken.tomlFields)

theorem Toml.lookup_textField (key key' : String) (text : Option String) :
    (textField key text).lookup key' = if key' = key then text.map .string else none := by
  cases text with
  | none => simp [textField]
  | some s =>
    by_cases h : key' = key
    · simp [textField, h]
    · simp [textField, h]

theorem Toml.lookup_emptyField {α : Type} (key key' : String) (items : List α) :
    (emptyField key items).lookup key' =
      if key' = key ∧ items = [] then some (.array []) else none := by
  cases items with
  | nil => by_cases h : key' = key <;> simp [emptyField, h]
  | cons item items => simp [emptyField]

theorem Toml.lookup_rowsField (key key' : String) (rows : List (List (String × Value))) :
    (rowsField key rows).lookup key' =
      if key' = key ∧ rows ≠ [] then some (.array (rows.map .table)) else none := by
  cases rows with
  | nil => simp [rowsField]
  | cons row rows => by_cases h : key' = key <;> simp [rowsField, h]

theorem Role.named?_name (role : Role) : named? role.name = some role := by
  cases role <;> rfl

theorem RuleType.named?_name (type : RuleType) : named? type.name = some type := by
  cases type <;> rfl

theorem SegmentAction.named?_name (action : SegmentAction) : named? action.name = some action := by
  cases action <;> rfl

theorem TokenType.named?_name (type : TokenType) : named? type.name = some type := by
  cases type <;> rfl

theorem Toml.signed?_toInt (n : Int32) : format.signed? (.integer n.toInt) = some n := by
  have hinteger : format.integer? (.integer n.toInt) = some n.toInt := rfl
  have hrange : (decide (Int32.minValue.toInt ≤ n.toInt) && decide (n.toInt ≤ Int32.maxValue.toInt)) =
      true := by
    rw [Bool.and_eq_true, decide_eq_true_eq, decide_eq_true_eq]
    exact ⟨Int32.minValue_le_toInt n, Int32.toInt_le n⟩
  rw [signed?, hinteger, Option.bind_some, if_pos hrange, Int32.ofInt_toInt]

theorem Toml.natural?_natCast {n : Nat} (h : n ≤ Config.maxInteger) :
    format.natural? (.integer n) = some n := by
  have hinteger : format.integer? (.integer n) = some (n : Int) := rfl
  have hlarge : n < Nat.pow 2 64 := Nat.lt_of_le_of_lt h (by decide)
  have hrange : (decide (0 ≤ (n : Int)) && decide ((n : Int) < (Nat.pow 2 64 : Nat))) = true := by
    rw [Bool.and_eq_true, decide_eq_true_eq, decide_eq_true_eq]
    exact ⟨Int.natCast_nonneg n, Int.ofNat_lt.mpr hlarge⟩
  rw [natural?, hinteger, Option.bind_some, if_pos hrange, Int.toNat_natCast]

theorem Toml.list?_map {α : Type} {read : Value → Option α} (value : α → Value)
    (h : ∀ a, read (value a) = some a) (as : List α) :
    format.list? read (.array (as.map value)) = some as :=
  DataFormat.list?_map format rfl h

theorem Toml.optional_text (key : String) (text : Option String) {fields : List (String × Value)}
    (h : fields.lookup key = text.map .string) :
    format.optional format.text? fields key = some text := by
  rw [DataFormat.optional, defaulted, h]
  cases text <;> rfl

theorem RoleRule.read?_tomlFields (r : RoleRule) : read? format (.table r.tomlFields) = some r := by
  have hrole : required (format.choice? Role.named?) r.tomlFields "target_role" = some r.role :=
    Role.named?_name r.role
  have htype : required (format.choice? RuleType.named?) r.tomlFields "rule_type" = some r.type :=
    RuleType.named?_name r.type
  have hvalue : required format.text? r.tomlFields "rule_value" = some r.value := rfl
  have hcase : defaulted format.boolean? false r.tomlFields "case_sensitive" =
      some r.caseSensitive := rfl
  have hpriority : defaulted format.signed? 0 r.tomlFields "priority" = some r.priority :=
    signed?_toInt r.priority
  have hfields : format.fields? (.table r.tomlFields) = some r.tomlFields := rfl
  simp only [read?, hfields, Option.bind_eq_bind, Option.bind_some, hrole, htype, hvalue, hcase,
    hpriority]
  rfl

theorem SegmentLabel.read?_tomlFields (l : SegmentLabel) :
    read? format (.table l.tomlFields) = some l := by
  have hvalue : required format.text? l.tomlFields "value" = some l.value := rfl
  have haction : required (format.choice? SegmentAction.named?) l.tomlFields "action" =
      some l.action := SegmentAction.named?_name l.action
  have hlabel : format.optional format.text? l.tomlFields "custom_label" = some l.customLabel :=
    optional_text "custom_label" l.customLabel (lookup_textField _ _ _)
  have hfields : format.fields? (.table l.tomlFields) = some l.tomlFields := rfl
  simp only [read?, hfields, Option.bind_eq_bind, Option.bind_some, hvalue, haction, hlabel]
  rfl

theorem CustomToken.read?_tomlFields (t : CustomToken) :
    read? format (.table t.tomlFields) = some t := by
  have hname : required format.text? t.tomlFields "name" = some t.name := rfl
  have hdescription : defaulted format.text? "" t.tomlFields "description" =
      some t.description := rfl
  have htype : required (format.choice? TokenType.named?) t.tomlFields "mapped_type" =
      some t.type := TokenType.named?_name t.type
  have hexamples : defaulted (format.list? format.text?) [] t.tomlFields "examples" =
      some t.examples := list?_map .string (fun _ => rfl) t.examples
  have hfields : format.fields? (.table t.tomlFields) = some t.tomlFields := rfl
  simp only [read?, hfields, Option.bind_eq_bind, Option.bind_some, hname, hdescription, htype,
    hexamples]
  rfl

/-- A list is read from its field, with items or without. -/
theorem Toml.defaulted_list {α : Type} {read : Value → Option α} (row : α → List (String × Value))
    (h : ∀ a, read (.table (row a)) = some a) (key : String) (as : List α)
    {fields : List (String × Value)}
    (hlookup : fields.lookup key = some (.array ((as.map row).map .table))) :
    defaulted (format.list? read) [] fields key = some as := by
  rw [defaulted, hlookup, List.map_map]
  exact list?_map (Value.table ∘ row) h as

/-- Each key of a configuration leads to its field. -/
theorem Config.lookup_tomlFields (c : Config) :
    (c.tomlFields.lookup "group_pattern" = c.groupPattern.map .string ∧
      c.tomlFields.lookup "group_id_token" = c.groupIdToken.map .string ∧
      c.tomlFields.lookup "front_pattern" = c.frontPattern.map .string ∧
      c.tomlFields.lookup "rear_pattern" = c.rearPattern.map .string ∧
      c.tomlFields.lookup "overview_pattern" = c.overviewPattern.map .string) ∧
    c.tomlFields.lookup "max_sample_files" = some (.integer c.maxSampleFiles) ∧
    c.tomlFields.lookup "role_rules" =
      some (.array ((c.roleRules.map RoleRule.tomlFields).map .table)) ∧
    c.tomlFields.lookup "segment_labels" =
      some (.array ((c.segmentLabels.map SegmentLabel.tomlFields).map .table)) ∧
    c.tomlFields.lookup "custom_tokens" =
      some (.array ((c.customTokens.map CustomToken.tomlFields).map .table)) := by
  refine ⟨⟨?_, ?_, ?_, ?_, ?_⟩, ?_, ?_, ?_, ?_⟩ <;>
    simp [tomlFields, plainFields, List.lookup_append, lookup_textField, lookup_emptyField,
      lookup_rowsField, List.lookup_cons, em]

theorem Config.read?_tomlFields {c : Config} (h : c.maxSampleFiles ≤ maxInteger) :
    read? format (.table c.tomlFields) = some c := by
  obtain ⟨⟨hgroup, hid, hfront, hrear, hoverview⟩, hmax, hrules, hlabels, htokens⟩ :=
    lookup_tomlFields c
  have hfields : format.fields? (.table c.tomlFields) = some c.tomlFields := rfl
  have hsamples : defaulted format.natural? 500 c.tomlFields "max_sample_files" =
      some c.maxSampleFiles := by
    rw [defaulted, hmax]
    exact natural?_natCast h
  simp only [read?, hfields, Option.bind_eq_bind, Option.bind_some, hsamples,
    optional_text _ _ hgroup, optional_text _ _ hid, optional_text _ _ hfront,
    optional_text _ _ hrear, optional_text _ _ hoverview,
    defaulted_list _ RoleRule.read?_tomlFields _ _ hrules,
    defaulted_list _ SegmentLabel.read?_tomlFields _ _ hlabels,
    defaulted_list _ CustomToken.read?_tomlFields _ _ htokens]
  rfl

section Texts

variable {d : Toml.Draft} {root : Entries}

theorem Toml.Draft.Reads.textLine {d₀ : Toml.Draft} {front : String} {fields : List (String × Value)}
    (h : d₀.Reads front (d.within fields)) (key : String) (hkey : IsBareKey key)
    (text : Option String) (hnew : fields.lookup key = none) :
    d₀.Reads (front ++ Config.textLine key text) (d.within (fields ++ textField key text)) := by
  cases text with
  | none =>
    rw [textField, Option.map_none, Option.toList_none, List.append_nil, Config.textLine,
      String.append_empty]
    exact h
  | some s => exact h.field key hkey (writes_quote s) hnew

theorem Toml.Draft.Reads.emptyLine {α : Type} {d₀ : Toml.Draft} {front : String}
    {fields : List (String × Value)} (h : d₀.Reads front (d.within fields)) (key : String)
    (hkey : IsBareKey key) (items : List α) (hnew : fields.lookup key = none) :
    d₀.Reads (front ++ Config.emptyLine key items) (d.within (fields ++ emptyField key items)) := by
  cases items with
  | nil => exact h.field key hkey (writes_quoteList []) hnew
  | cons item items =>
    rw [emptyField, if_neg (by simp), List.append_nil, Config.emptyLine, if_neg (by simp),
      String.append_empty]
    exact h

theorem Config.reads_ruleTable (r : RoleRule)
    (hd : d.beginElement ["role_rules"] = some (.element root "role_rules")) :
    d.Reads (ruleTable r) ((Toml.Draft.element root "role_rules").within r.tomlFields) := by
  have hhigh := Int32.toInt_lt r.priority
  have hlow := Int32.le_toInt r.priority
  have hpriority : Writes (toString r.priority.toInt) (.integer r.priority.toInt) :=
    writes_toString (by omega) (by omega)
  have hheader : d.Reads _ ((Toml.Draft.element root "role_rules").within []) :=
    reads_elementHeader (by decide) hd
  have hrole := hheader.field "target_role" (by decide) (writes_quote r.role.name) rfl
  have htype := hrole.field "rule_type" (by decide) (writes_quote r.type.name) rfl
  have hvalue := htype.field "rule_value" (by decide) (writes_quote r.value) rfl
  have hcase := hvalue.field "case_sensitive" (by decide) (writes_boolean r.caseSensitive) rfl
  exact hcase.field "priority" (by decide) hpriority rfl

theorem Config.reads_labelTable (l : SegmentLabel)
    (hd : d.beginElement ["segment_labels"] = some (.element root "segment_labels")) :
    d.Reads (labelTable l) ((Toml.Draft.element root "segment_labels").within l.tomlFields) := by
  have hheader : d.Reads _ ((Toml.Draft.element root "segment_labels").within []) :=
    reads_elementHeader (by decide) hd
  have hvalue := hheader.field "value" (by decide) (writes_quote l.value) rfl
  have haction := hvalue.field "action" (by decide) (writes_quote l.action.name) rfl
  exact haction.textLine "custom_label" (by decide) l.customLabel rfl

theorem Config.reads_customTokenTable (t : CustomToken)
    (hd : d.beginElement ["custom_tokens"] = some (.element root "custom_tokens")) :
    d.Reads (customTokenTable t) ((Toml.Draft.element root "custom_tokens").within t.tomlFields) := by
  have hheader : d.Reads _ ((Toml.Draft.element root "custom_tokens").within []) :=
    reads_elementHeader (by decide) hd
  have hname := hheader.field "name" (by decide) (writes_quote t.name) rfl
  have hdescription := hname.field "description" (by decide) (writes_quote t.description) rfl
  have htype := hdescription.field "mapped_type" (by decide) (writes_quote t.type.name) rfl
  exact htype.field "examples" (by decide) (writes_quoteList t.examples) rfl

theorem Toml.head?_line {key : String} (hkey : IsBareKey key) (text : String) (cs : List Char) :
    ((line key text).toList ++ cs).head? ≠ some '\ufeff' := by
  obtain ⟨c, ds, heq, hc⟩ := hkey.eq_cons
  have hmark : c ≠ '\ufeff' := ne_of_isKeyChar hc (by decide)
  simpa [line, String.toList_append, heq] using hmark

theorem Config.head?_textLine {key : String} (hkey : IsBareKey key) (text : Option String)
    {cs : List Char} (h : cs.head? ≠ some '\ufeff') :
    ((textLine key text).toList ++ cs).head? ≠ some '\ufeff' := by
  cases text with
  | none => exact h
  | some s => exact head?_line hkey (quote s) cs

/-- A document does not begin with a byte order mark. -/
theorem Config.head?_document (c : Config) : c.document.toList.head? ≠ some '\ufeff' := by
  rw [document]
  simp only [String.toList_append, List.append_assoc]
  have hmax (cs : List Char) :
      ((line "max_sample_files" (toString c.maxSampleFiles)).toList ++ cs).head? ≠ some '\ufeff' :=
    head?_line (by decide) _ cs
  exact head?_textLine (by decide) _ (head?_textLine (by decide) _ (head?_textLine (by decide) _
    (head?_textLine (by decide) _ (head?_textLine (by decide) _ (hmax _)))))

/-- The first lines of a document write the fields before the tables. -/
theorem Config.reads_plainFields {c : Config} (h : c.maxSampleFiles ≤ maxInteger) :
    ({} : Toml.Draft).Reads
      (textLine "group_pattern" c.groupPattern ++ textLine "group_id_token" c.groupIdToken ++
        textLine "front_pattern" c.frontPattern ++ textLine "rear_pattern" c.rearPattern ++
        textLine "overview_pattern" c.overviewPattern ++
        line "max_sample_files" (toString c.maxSampleFiles) ++
        emptyLine "role_rules" c.roleRules ++ emptyLine "segment_labels" c.segmentLabels ++
        emptyLine "custom_tokens" c.customTokens)
      (({} : Toml.Draft).within c.plainFields) := by
  have hnumber : Writes (toString c.maxSampleFiles) (.integer c.maxSampleFiles) := by
    have hlt : c.maxSampleFiles < 2 ^ 63 := Nat.lt_of_le_of_lt h (by decide)
    exact writes_toString (n := (c.maxSampleFiles : Int)) (by omega) (by omega)
  have hstart : ({} : Toml.Draft).Reads "" (({} : Toml.Draft).within []) := Toml.Draft.Reads.empty _
  have hgroup := hstart.textLine "group_pattern" (by decide) c.groupPattern rfl
  have hid := hgroup.textLine "group_id_token" (by decide) c.groupIdToken
    (by simp [lookup_textField])
  have hfront := hid.textLine "front_pattern" (by decide) c.frontPattern
    (by simp [List.lookup_append, lookup_textField])
  have hrear := hfront.textLine "rear_pattern" (by decide) c.rearPattern
    (by simp [List.lookup_append, lookup_textField])
  have hoverview := hrear.textLine "overview_pattern" (by decide) c.overviewPattern
    (by simp [List.lookup_append, lookup_textField])
  have hmax := hoverview.field "max_sample_files" (by decide) hnumber
    (by simp [List.lookup_append, lookup_textField])
  have hrules := hmax.emptyLine "role_rules" (by decide) c.roleRules
    (by simp [List.lookup_append, lookup_textField, List.lookup_cons])
  have hlabels := hrules.emptyLine "segment_labels" (by decide) c.segmentLabels
    (by simp [List.lookup_append, lookup_textField, lookup_emptyField, List.lookup_cons])
  have htokens := hlabels.emptyLine "custom_tokens" (by decide) c.customTokens
    (by simp [List.lookup_append, lookup_textField, lookup_emptyField, List.lookup_cons])
  rw [String.empty_append] at htokens
  exact htokens

end Texts

/-- The document of a configuration writes its fields. -/
theorem Config.parse?_document {c : Config} (h : c.maxSampleFiles ≤ maxInteger) :
    parse? c.document = some c.tomlFields := by
  have hplain := reads_plainFields h
  have hsettled : (({} : Toml.Draft).within c.plainFields).settled = some (plain c.plainFields) := rfl
  have hnoRules (hne : c.roleRules ≠ []) : (plain c.plainFields).lookup "role_rules" = none := by
    simp [lookup_plain, plainFields, List.lookup_append, lookup_textField, lookup_emptyField,
      List.lookup_cons, hne]
  obtain ⟨d₁, hrules, hd₁⟩ :=
    Toml.Draft.reads_tables hnoRules (fun r root d => reads_ruleTable r) hsettled
  have hnoLabels (hne : c.segmentLabels ≠ []) : (plain c.plainFields ++
      arrayOf "role_rules" ((c.roleRules.map RoleRule.tomlFields).map plain)).lookup
        "segment_labels" = none := by
    simp [lookup_plain, lookup_arrayOf, plainFields, List.lookup_append, lookup_textField,
      lookup_emptyField, List.lookup_cons, hne]
  obtain ⟨d₂, hlabels, hd₂⟩ :=
    Toml.Draft.reads_tables hnoLabels (fun l root d => reads_labelTable l) hd₁
  have hnoTokens (hne : c.customTokens ≠ []) : (plain c.plainFields ++
      arrayOf "role_rules" ((c.roleRules.map RoleRule.tomlFields).map plain) ++
      arrayOf "segment_labels" ((c.segmentLabels.map SegmentLabel.tomlFields).map plain)).lookup
        "custom_tokens" = none := by
    simp [lookup_plain, lookup_arrayOf, plainFields, List.lookup_append, lookup_textField,
      lookup_emptyField, List.lookup_cons, hne]
  obtain ⟨d₃, htokens, hd₃⟩ :=
    Toml.Draft.reads_tables hnoTokens (fun t root d => reads_customTokenTable t) hd₂
  have hread : ({} : Toml.Draft).Reads c.document d₃ :=
    ((hplain.append hrules).append hlabels).append htokens
  rw [parse?_of_reads (head?_document c) hread hd₃]
  simp only [entriesValues_append, entriesValues_plain, entriesValues_arrayOf]
  rfl

/-- A configuration that is saved is read back as it was, from the text as well as from its bytes. A
configuration can be saved unless its number of sample files is too large for a document. -/
theorem Config.ofText_save (c : Config) :
    (c.maxSampleFiles ≤ maxInteger →
      ∃ text, c.save = .ok text ∧ ofText text = .ok c ∧ ofBytes (Text.Utf8.encode text) = .ok c) ∧
    (maxInteger < c.maxSampleFiles →
      c.save = .error .sampleLimitTooLarge ∧
        ∀ path, Failure.sampleLimitTooLarge.causes path = ["Config error: out-of-range value"]) := by
  constructor
  · intro h
    have htext : ofText c.document = .ok c := by
      rw [ofText, parse?_document h, Option.bind_some, read?_tomlFields h]
    refine ⟨c.document, if_pos h, htext, ?_⟩
    rw [ofBytes, Text.Utf8.decode?_encode]
    exact htext
  · intro h
    exact ⟨if_neg (Nat.not_le_of_lt h), fun _ => rfl⟩

/-- Texts that need each style of quotes, and the largest number of sample files there is. -/
theorem Config.ofText_save_quotes :
    let c : Config := {
      groupPattern := some "^(\\w+)_\"x\"\n"
      frontPattern := some "'\"\u0001\t\"\"\"\r"
      maxSampleFiles := maxInteger
      roleRules := [⟨.rear, .override, "\\bb\x27\x27\x27\n\"\"\"", true, Int32.minValue⟩]
      segmentLabels := [{ value := "münchen\x7f", action := .ignore }]
      customTokens := [⟨"code", "", .groupId, ["a", "]\n[[role_rules]]\n", "\x27\\"]⟩] }
    c.maxSampleFiles ≤ maxInteger ∧ maxInteger < maxInteger + 1 ∧
      (∃ text, c.save = .ok text ∧ ofText text = .ok c ∧
        ofBytes (Text.Utf8.encode text) = .ok c) ∧
      ({ c with maxSampleFiles := maxInteger + 1 } : Config).save = .error .sampleLimitTooLarge := by
  intro c
  have hok : c.maxSampleFiles ≤ maxInteger := Nat.le_refl _
  have hlarge : maxInteger < maxInteger + 1 := Nat.lt_succ_self _
  exact ⟨hok, hlarge, (ofText_save c).1 hok,
    ((ofText_save { c with maxSampleFiles := maxInteger + 1 }).2 hlarge).1⟩

end PhotoGrouping
