import PhotoGrouping.Validation.Report

namespace PhotoGrouping

open DataFormat

theorem ErrorKind.named?_name (k : ErrorKind) : named? k.name = some k := by
  cases k <;> rfl

theorem WarningKind.named?_name (k : WarningKind) : named? k.name = some k := by
  cases k <;> rfl

theorem Finding.ofJson?_toJson {Kind : Type} {name : Kind → String} {named? : String → Option Kind}
    (h : ∀ k, named? (name k) = some k) (f : Finding Kind) :
    Finding.ofJson? named? (f.toJson name) = some f := by
  let fields : List (String × Json) :=
    [("kind", .text (name f.kind)), ("message", .text f.message)] ++ Json.textField "context" f.context
  have hfields : (f.toJson name).record? ["kind", "message", "context"] = some fields := by
    obtain ⟨kind, message, context⟩ := f
    cases context <;> rfl
  have hkind : required (Json.format.choice? named?) fields "kind" = some f.kind := h f.kind
  have hmessage : required Json.format.text? fields "message" = some f.message := rfl
  have hcontext : Json.format.optional Json.format.text? fields "context" = some f.context := by
    obtain ⟨kind, message, context⟩ := f
    cases context <;> rfl
  simp only [ofJson?, hfields, Option.bind_eq_bind, Option.bind_some, hkind, hmessage, hcontext]
  rfl

namespace Report

variable {r s : Report} {rs : List Report}

/-- Whether a report is kept as valid exactly if it has no error. -/
def IsConsistent (r : Report) : Prop :=
  r.valid = r.errors.isEmpty

theorem isConsistent_ofParts (errors : List ValidationError) (warnings : List ValidationWarning) :
    (ofParts errors warnings).IsConsistent := rfl

theorem IsConsistent.ofParts_parts (h : r.IsConsistent) : ofParts r.parts.1 r.parts.2 = r := by
  obtain ⟨errors, warnings, valid⟩ := r
  have h : valid = errors.isEmpty := h
  rw [h]
  rfl

theorem isConsistent_addError (r : Report) (e : ValidationError) : (r.addError e).IsConsistent := by
  have hsome : (r.errors ++ [e]).isEmpty = false := by simp
  exact hsome.symm

theorem IsConsistent.addWarning (h : r.IsConsistent) (w : ValidationWarning) :
    (r.addWarning w).IsConsistent := h

theorem IsConsistent.combine (hr : r.IsConsistent) (hs : s.IsConsistent) :
    (r.combine s).IsConsistent := by
  unfold IsConsistent at hr hs ⊢
  rw [valid_combine, errors_combine, hr, hs]
  cases r.errors with
  | nil => simp
  | cons e errors => rfl

theorem combine_assoc (r s t : Report) : (r.combine s).combine t = r.combine (s.combine t) := by
  simp [combine, Bool.and_assoc]

theorem success_combine (r : Report) : success.combine r = r := by
  simp [combine]

theorem combine_success (r : Report) : r.combine success = r := by
  simp [combine]

theorem collect_cons (r : Report) (rs : List Report) : collect (r :: rs) = r.combine (collect rs) := by
  have hfold : ∀ (rs : List Report) (start : Report),
      rs.foldl combine start = start.combine (collect rs) := by
    intro rs
    induction rs with
    | nil => exact fun start => (combine_success start).symm
    | cons s rs ih =>
      intro start
      rw [collect, List.foldl_cons, List.foldl_cons, ih (start.combine s), ih (success.combine s),
        success_combine, combine_assoc]
  rw [collect, List.foldl_cons, success_combine, hfold]

theorem errors_collect (rs : List Report) : (collect rs).errors = rs.flatMap (·.errors) := by
  induction rs with
  | nil => rfl
  | cons r rs ih => rw [collect_cons, errors_combine, ih, List.flatMap_cons]

theorem warnings_collect (rs : List Report) : (collect rs).warnings = rs.flatMap (·.warnings) := by
  induction rs with
  | nil => rfl
  | cons r rs ih => rw [collect_cons, warnings_combine, ih, List.flatMap_cons]

theorem isConsistent_collect (h : ∀ r ∈ rs, r.IsConsistent) : (collect rs).IsConsistent := by
  induction rs with
  | nil => exact isConsistent_ofParts [] []
  | cons r rs ih =>
    obtain ⟨hr, hrs⟩ := List.forall_mem_cons.mp h
    rw [collect_cons]
    exact hr.combine (ih hrs)

theorem isConsistent_of_ofJson? {v : Json} (h : ofJson? v = some r) : r.IsConsistent := by
  unfold ofJson? at h
  simp only [bind, Option.bind_eq_some_iff, pure, Option.some.injEq] at h
  obtain ⟨fields, -, errors, -, warnings, -, rfl⟩ := h
  exact isConsistent_ofParts errors warnings

/-- What is written of a report is read as a report of the same findings. -/
theorem ofJson?_toJson (r : Report) : ofJson? r.toJson = some (ofParts r.errors r.warnings) := by
  let fields : List (String × Json) := [
    ("valid", .boolean r.isValid),
    ("errors", .array (r.errors.map (Finding.toJson ErrorKind.name))),
    ("warnings", .array (r.warnings.map (Finding.toJson WarningKind.name)))]
  have hfields : r.toJson.record? ["errors", "warnings"] = some fields := rfl
  have herrors : defaulted (Json.format.list? (Finding.ofJson? ErrorKind.named?)) [] fields "errors" =
      some r.errors :=
    Json.format.list?_map rfl (Finding.ofJson?_toJson ErrorKind.named?_name)
  have hwarnings : defaulted (Json.format.list? (Finding.ofJson? WarningKind.named?)) [] fields
      "warnings" = some r.warnings :=
    Json.format.list?_map rfl (Finding.ofJson?_toJson WarningKind.named?_name)
  simp only [ofJson?, hfields, Option.bind_eq_bind, Option.bind_some, herrors, hwarnings]
  rfl

/-- How reports come about. -/
inductive Arises : Report → Prop
  | success : Arises success
  | ofError (e : ValidationError) : Arises (ofError e)
  | ofWarning (w : ValidationWarning) : Arises (ofWarning w)
  | failure (errors : List ValidationError) : Arises (failure errors)
  | ofParts (errors : List ValidationError) (warnings : List ValidationWarning) :
    Arises (ofParts errors warnings)
  | addError {r : Report} (e : ValidationError) : Arises r → Arises (r.addError e)
  | addWarning {r : Report} (w : ValidationWarning) : Arises r → Arises (r.addWarning w)
  | combine {r s : Report} : Arises r → Arises s → Arises (r.combine s)
  | collect {rs : List Report} : (∀ r ∈ rs, Arises r) → Arises (collect rs)
  | ofParts_parts {r : Report} : Arises r → Arises (Report.ofParts r.parts.1 r.parts.2)
  | ofJson? {v : Json} {r : Report} : ofJson? v = some r → Arises r

theorem Arises.isConsistent (h : r.Arises) : r.IsConsistent := by
  induction h with
  | success => exact isConsistent_ofParts [] []
  | ofError e => exact isConsistent_ofParts [e] []
  | ofWarning w => exact isConsistent_ofParts [] [w]
  | failure errors => exact isConsistent_ofParts errors []
  | ofParts errors warnings => exact isConsistent_ofParts errors warnings
  | addError e _ _ => exact isConsistent_addError _ e
  | addWarning w _ ih => exact ih.addWarning w
  | combine _ _ ihr ihs => exact ihr.combine ihs
  | collect _ ih => exact isConsistent_collect ih
  | ofParts_parts _ _ => exact isConsistent_ofParts _ _
  | ofJson? h => exact isConsistent_of_ofJson? h

/-- However reports come about, they are valid exactly if they have no errors, and are read as they are
written. Reports form a monoid, in which both lists of findings are put together in order. -/
theorem consistent_throughout :
    (∀ r : Report, r.Arises → r.isValid = r.errors.isEmpty ∧ ofJson? r.toJson = some r) ∧
    (∀ r s t : Report, (r.combine s).combine t = r.combine (s.combine t)) ∧
    (∀ r : Report, success.combine r = r ∧ r.combine success = r) ∧
    ∀ rs : List Report, (collect rs).errors = rs.flatMap (·.errors) ∧
      (collect rs).warnings = rs.flatMap (·.warnings) := by
  refine ⟨?_, combine_assoc, fun r => ⟨success_combine r, combine_success r⟩,
    fun rs => ⟨errors_collect rs, warnings_collect rs⟩⟩
  intro r h
  have hconsistent := h.isConsistent
  refine ⟨hconsistent, ?_⟩
  rw [ofJson?_toJson]
  exact congrArg some hconsistent.ofParts_parts

/-- A report that is read as valid in spite of its error, and comes about further. -/
theorem consistent_throughout_claimed :
    let error : Json := .object [("kind", .text "NO_FILES_MATCHED"), ("message", .text "none")]
    let v : Json := .object [("valid", .boolean true), ("errors", .array [error])]
    ∃ r, ofJson? v = some r ∧ r.isValid = false ∧
      ofJson? ((ofWarning ⟨.unmatchedFiles, "", none⟩).combine r).toJson =
        some ((ofWarning ⟨.unmatchedFiles, "", none⟩).combine r) := by
  intro error v
  have hread : ofJson? v = some (ofError ⟨.noFilesMatched, "none", none⟩) := by decide
  have hr : (ofError ⟨.noFilesMatched, "none", none⟩).Arises := .ofJson? hread
  have hcombined := Arises.combine (.ofWarning ⟨.unmatchedFiles, "", none⟩) hr
  exact ⟨_, hread, (consistent_throughout.1 _ hr).1, (consistent_throughout.1 _ hcombined).2⟩

end Report

end PhotoGrouping
