import PhotoGrouping.CommandLine.Infer
import PhotoGrouping.Proofs.Config.Loading
import PhotoGrouping.Proofs.GroupPattern.Validity

namespace PhotoGrouping

open Text Validation

namespace CommandLine

/-- What a path leads to after a plan, where files can be written, and the reply. -/
def Plan.outcome (path : String) (file : ConfigFile) : Plan → ConfigFile × Reply
  | .reply r => (file, r)
  | .write target text written _ =>
    (if target = path then .bytes (Utf8.encode text) else file, written)

/-- What an inference takes its group from, and what it leaves behind at a path. -/
structure InferRequest.Saves (r : InferRequest) (c : Config) (path : String) (i : Inference)
    (after : ConfigFile) : Prop where
  /-- The token is one of those of the filenames, with the value that is asked for. -/
  token_mem : i.token ∈ Inference.pooledTokens c (ConfigFile.sampledNames c r.files)
  token_value : i.token.value = r.groupToken ∨
    (∀ t ∈ Inference.pooledTokens c (ConfigFile.sampledNames c r.files), t.value ≠ r.groupToken) ∧
      asciiLowercase i.token.value = asciiLowercase r.groupToken
  generates : GroupPattern.generate (Inference.pooledTokens c (ConfigFile.sampledNames c r.files))
    (some i.token) = .ok i.pattern
  /-- Of the configuration, nothing else changes. -/
  loads : after.load path =
    .ok { c with groupPattern := some i.pattern, groupIdToken := some i.token.value }
  /-- No error is about the group pattern, unless about its size. -/
  errors : ∀ e ∈ (patterns (i.store c).patternConfig).errors,
    e.kind ∉ [.noGroupIdSelected, .emptyGroupPattern, .noCapturingGroups, .multipleCapturingGroups] ∧
      (e.kind = .regexSyntaxError →
        e = sizeError i.pattern ∨ e ∈ roleSyntaxErrors (i.store c).patternConfig)

namespace Inference

variable {c : Config} {names : List String} {tokens : List Token} {value : String} {t : Token}

theorem findToken?_eq_none_iff :
    findToken? tokens value = none ↔
      ∀ t ∈ tokens, asciiLowercase t.value ≠ asciiLowercase value := by
  simp only [findToken?, Option.orElse_eq_orElse, Option.orElse_eq_or, Option.or_eq_none_iff,
    List.find?_eq_none, decide_eq_true_eq]
  refine and_iff_right_of_imp fun h t ht heq => h t ht ?_
  rw [heq]

theorem findToken?_spec (h : findToken? tokens value = some t) :
    t ∈ tokens ∧ (t.value = value ∨
      (∀ s ∈ tokens, s.value ≠ value) ∧ asciiLowercase t.value = asciiLowercase value) := by
  unfold findToken? at h
  cases hexact : tokens.find? (·.value = value) with
  | some s =>
    rw [hexact] at h
    obtain rfl : s = t := Option.some.inj h
    exact ⟨List.mem_of_find?_eq_some hexact, Or.inl (by simpa using List.find?_some hexact)⟩
  | none =>
    rw [hexact] at h
    have h : tokens.find? (fun t => asciiLowercase t.value = asciiLowercase value) = some t := h
    refine ⟨List.mem_of_find?_eq_some h, Or.inr ⟨?_, by simpa using List.find?_some h⟩⟩
    simpa using List.find?_eq_none.mp hexact

/-- An inference fails only where no token has the value that is asked for. -/
theorem ofNames_eq (c : Config) (names : List String) (value : String) :
    ofNames c names value =
      match findToken? (pooledTokens c names) value with
      | none => .error (.groupTokenMissing value (candidateValues (pooledTokens c names)))
      | some token =>
        .ok {
          pattern := GroupPattern.ofTokensAt (pooledTokens c names) token.position
          token := token
          samples := names.length
          pending := pendingValues c names
          typeConfidence := (TokenAnalysis.ofFiles c.customTokens names).typeConfidence } := by
  unfold ofNames
  dsimp only
  cases hfound : findToken? (pooledTokens c names) value with
  | none => rfl
  | some token =>
    dsimp only
    rw [GroupPattern.generate_eq_ok (findToken?_spec hfound).1]

theorem exists_ofNames (h : ∃ t ∈ pooledTokens c names, asciiLowercase t.value = asciiLowercase value) :
    ∃ i, ofNames c names value = .ok i := by
  obtain ⟨t, ht, hvalue⟩ := h
  rw [ofNames_eq]
  cases hfound : findToken? (pooledTokens c names) value with
  | none => exact absurd hvalue (findToken?_eq_none_iff.mp hfound t ht)
  | some token => exact ⟨_, rfl⟩

theorem ofNames_spec {i : Inference} (h : ofNames c names value = .ok i) :
    findToken? (pooledTokens c names) value = some i.token ∧
      i.pattern = GroupPattern.ofTokensAt (pooledTokens c names) i.token.position := by
  rw [ofNames_eq] at h
  split at h
  · cases h
  · rename_i token hfound
    obtain rfl := Except.ok.inj h
    exact ⟨hfound, rfl⟩

/-- A configuration with what has been inferred is read as it was saved. -/
theorem load_store (h : c.maxSampleFiles ≤ Config.maxInteger) (i : Inference) (path : String) :
    (ConfigFile.bytes (Utf8.encode (i.store c).document)).load path = .ok (i.store c) := by
  have hstore : (i.store c).maxSampleFiles ≤ Config.maxInteger := h
  simp only [ConfigFile.load, Config.ofBytes_document hstore]

/-- The errors of a configuration with what has been inferred. -/
theorem kind_of_mem_errors_store {i : Inference} (h : ofNames c names value = .ok i)
    {e : ValidationError} (he : e ∈ (patterns (i.store c).patternConfig).errors) :
    e.kind ∈ [.noRolePatterns, .noRoleRulesDefined, .invalidRuleValue] ∨
      e.kind = .regexSyntaxError ∧
        (e = sizeError i.pattern ∨ e ∈ roleSyntaxErrors (i.store c).patternConfig) := by
  obtain ⟨hfound, hpattern⟩ := ofNames_spec h
  have hmem := (findToken?_spec hfound).1
  obtain ⟨hread, hcaptures⟩ := GroupPattern.read_ofTokensAt false hmem
  have hsound := GroupPattern.sound_of_fragment (GroupPattern.toList_ofTokensAt _ i.token.position)
    hread hcaptures (GroupPattern.fragment_ofTokensAt hmem)
  rw [← hpattern] at hsound
  exact hsound.kind_of_mem_errors rfl he

end Inference

namespace InferRequest

variable {r : InferRequest} {path : String} {file : ConfigFile} {c : Config}

theorem startConfig_eq_ok (hwrite : r.write = true) (hpath : r.config = some path)
    (hfile : file = .missing ∧ c = {} ∨ file.load path = .ok c) : r.startConfig file = .ok c := by
  unfold startConfig
  obtain ⟨rfl, rfl⟩ | hload := hfile
  · rw [hwrite]
    rfl
  · have hthere : file ≠ .missing := by
      rintro rfl
      cases hload
    rw [if_neg (by simp [hthere]), hpath]
    exact hload

/-- A configuration that an inference starts from can be written again. -/
theorem maxSampleFiles_le (hfile : file = .missing ∧ c = {} ∨ file.load path = .ok c) :
    c.maxSampleFiles ≤ Config.maxInteger := by
  obtain ⟨-, rfl⟩ | hload := hfile
  · decide
  · cases file with
    | missing => cases hload
    | unreadable report => cases hload
    | bytes content =>
      simp only [ConfigFile.load] at hload
      split at hload
      · rename_i c' hbytes
        obtain rfl : c' = c := Except.ok.inj hload
        exact Config.maxSampleFiles_le_of_ofBytes hbytes
      · cases hload

theorem plan_of_missing (json : Bool) (hstart : r.startConfig file = .ok c)
    (hmissing : Inference.findToken? (Inference.pooledTokens c (ConfigFile.sampledNames c r.files))
      r.groupToken = none) :
    ∃ events, r.plan json file = .reply (.failed json (.groupTokenMissing r.groupToken
      (Inference.candidateValues (Inference.pooledTokens c (ConfigFile.sampledNames c r.files))))
      events) := by
  simp only [plan, hstart, Inference.ofNames_eq, hmissing]
  exact ⟨_, rfl⟩

theorem plan_of_found (json : Bool) (hwrite : r.write = true) (hpath : r.config = some path)
    (hstart : r.startConfig file = .ok c) (hmax : c.maxSampleFiles ≤ Config.maxInteger) {i : Inference}
    (hi : Inference.ofNames c (ConfigFile.sampledNames c r.files) r.groupToken = .ok i) :
    ∃ events refused, r.plan json file =
      .write path (i.store c).document (replyTo json i true events) refused := by
  have hsave : (i.store c).save = .ok (i.store c).document := if_pos hmax
  simp only [plan, hstart, hi, hpath, hwrite, hsave]
  exact ⟨_, _, rfl⟩

theorem saves_store {i : Inference} (hmax : c.maxSampleFiles ≤ Config.maxInteger)
    (hi : Inference.ofNames c (ConfigFile.sampledNames c r.files) r.groupToken = .ok i) :
    r.Saves c path i (.bytes (Utf8.encode (i.store c).document)) := by
  obtain ⟨hfound, hpattern⟩ := Inference.ofNames_spec hi
  obtain ⟨hmem, hvalue⟩ := Inference.findToken?_spec hfound
  have hgenerate := GroupPattern.generate_eq_ok hmem
  rw [← hpattern] at hgenerate
  refine ⟨hmem, hvalue, hgenerate, Inference.load_store hmax i path, ?_⟩
  intro e he
  have hother : ∀ k ∈ [ErrorKind.noRolePatterns, .noRoleRulesDefined, .invalidRuleValue],
      k ∉ [ErrorKind.noGroupIdSelected, .emptyGroupPattern, .noCapturingGroups,
        .multipleCapturingGroups] ∧ k ≠ .regexSyntaxError := by decide
  obtain hkind | ⟨hkind, hsyntax⟩ := Inference.kind_of_mem_errors_store hi he
  · obtain ⟨hgroup, hne⟩ := hother e.kind hkind
    exact ⟨hgroup, fun hsyntax => absurd hsyntax hne⟩
  · exact ⟨by simp [hkind], fun _ => hsyntax⟩

/-- An inference that is to be written fails if no token has the value of the group, and leaves the
file as it was; else it succeeds, and changes the pattern and the token in the configuration, and
nothing else. All confidences are numbers, so that each token equals itself. -/
theorem plan_outcome (r : InferRequest) (json : Bool) (path : String) (file : ConfigFile) (c : Config)
    (hwrite : r.write = true) (hpath : r.config = some path)
    (hfile : file = .missing ∧ c = {} ∨ file.load path = .ok c) :
    let pooled := Inference.pooledTokens c (ConfigFile.sampledNames c r.files)
    let outcome := (r.plan json file).outcome path file
    (∀ t ∈ pooled, (t.confidence.value == t.confidence.value) = true) ∧
    ((∀ t ∈ pooled, asciiLowercase t.value ≠ asciiLowercase r.groupToken) →
      outcome.1 = file ∧
      ∃ e events, outcome.2 = .failed json e events ∧
        e.advice?.map (·.message) = some ("Group token not found: '" ++ r.groupToken ++ "'")) ∧
    ((∃ t ∈ pooled, asciiLowercase t.value = asciiLowercase r.groupToken) →
      ∃ i events, outcome.2 = replyTo json i true events ∧ r.Saves c path i outcome.1) := by
  intro pooled outcome
  have hstart := startConfig_eq_ok hwrite hpath hfile
  have hmax := maxSampleFiles_le hfile
  refine ⟨fun t _ => beq_self_eq_true t.confidence, ?_, ?_⟩
  · intro hnone
    obtain ⟨events, hplan⟩ :=
      plan_of_missing json hstart (Inference.findToken?_eq_none_iff.mpr hnone)
    have houtcome : outcome = (file, _) := congrArg (Plan.outcome path file) hplan
    rw [houtcome]
    exact ⟨rfl, _, events, rfl, rfl⟩
  · intro hsome
    obtain ⟨i, hi⟩ := Inference.exists_ofNames hsome
    obtain ⟨events, refused, hplan⟩ := plan_of_found json hwrite hpath hstart hmax hi
    have houtcome : outcome = (if path = path then _ else file, _) :=
      congrArg (Plan.outcome path file) hplan
    rw [if_pos rfl] at houtcome
    rw [houtcome]
    exact ⟨i, events, rfl, saves_store hmax hi⟩

theorem splitOn_vehicle : "A1_front.jpg".splitOn "/" = ["A1_front.jpg"] := by
  rw [String.splitOn, if_neg (by decide)]
  repeat rw [String.splitOnAux, if_neg (by decide +kernel), if_neg (by decide +kernel)]
  rw [String.splitOnAux, if_pos (by decide +kernel)]
  decide +kernel

/-- A token in another case, under a configuration that is there, and one that does not occur, under one
that is not. -/
theorem plan_outcome_vehicle :
    let c : Config := { groupPattern := some "^(x)$", maxSampleFiles := 1 }
    let file : ConfigFile := .bytes (Utf8.encode c.document)
    let found : InferRequest :=
      { files := ["A1_front.jpg"], groupToken := "a1", config := some "lineup.toml", write := true }
    let lost : InferRequest := { found with groupToken := "a1_" }
    (∃ i events,
      ((found.plan false file).outcome "lineup.toml" file).2 = replyTo false i true events ∧
      found.Saves c "lineup.toml" i ((found.plan false file).outcome "lineup.toml" file).1) ∧
    ((lost.plan true .missing).outcome "lineup.toml" .missing).1 = .missing := by
  intro c file found lost
  have hload : file.load "lineup.toml" = .ok c := by
    simp only [file, ConfigFile.load, Config.ofBytes_document (show c.maxSampleFiles ≤ _ by decide)]
  have hname : ConfigFile.filename "A1_front.jpg" = "A1_front.jpg" := by
    rw [ConfigFile.filename, splitOn_vehicle]
    decide
  have hfound : ∃ t ∈ Inference.pooledTokens c (ConfigFile.sampledNames c found.files),
      asciiLowercase t.value = asciiLowercase "a1" := by
    have hnames : ConfigFile.sampledNames c found.files = ["A1_front.jpg"] :=
      congrArg (fun name => [name]) hname
    rw [hnames]
    decide +kernel
  have hlost : ∀ t ∈ Inference.pooledTokens {} (ConfigFile.sampledNames {} lost.files),
      asciiLowercase t.value ≠ asciiLowercase "a1_" := by
    have hnames : ConfigFile.sampledNames {} lost.files = ["A1_front.jpg"] :=
      congrArg (fun name => [name]) hname
    rw [hnames]
    decide +kernel
  exact ⟨(plan_outcome found false "lineup.toml" file c rfl rfl (Or.inr hload)).2.2 hfound,
    ((plan_outcome lost true "lineup.toml" .missing {} rfl rfl (Or.inl ⟨rfl, rfl⟩)).2.1 hlost).1⟩

end InferRequest

end CommandLine

end PhotoGrouping
