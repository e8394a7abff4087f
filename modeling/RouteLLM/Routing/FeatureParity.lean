import RouteLLM.Benchmarks.Runner
import RouteLLM.Lib.AssocList
import RouteLLM.Routing.CanonicalFeatures

/-!
# Feature parity of training and serving

The canonical features of a benchmark pair are obtained twice: from its row of the routing dataset
(`trainingFeatures`) and from the production request (`servingFeatures`). Both read the same data
(`Represents`) except for the allowance: training records what the provider was allowed, with the
reasoning headroom and under the experimental category name, and serving resolves the configured
visible allowance under the canonical name. `parity_iff` says for which policies the two agree.
-/

namespace RouteLLM

/-- The canonical category of a task. -/
def TaskCategory.canonical : TaskCategory → RoutingCategory
  | .qa => .qa
  | .summarization => .summarization
  | .extraction => .extraction
  | .classification => .classification
  | .json => .structuredJson
  | .reasoning => .reasoning
  | .coding => .coding

theorem canonicalizeCategory_task (c : TaskCategory) :
    canonicalizeCategory c.value = .ok c.canonical := by
  cases c <;> rfl

/-- An effort survives the string form in which a manifest freezes it. -/
theorem canonicalizeReasoningEffortText_frozen (effort : Option ReasoningEffort) :
    canonicalizeReasoningEffortText (orDefault (effort.map (·.value)) "none") =
      .ok (canonicalizeReasoningEffort effort) := by
  cases effort with
  | none => rfl
  | some e => cases e <;> rfl

section
variable (indicators : TextIndicators) (run : BenchmarkRun) (task : BenchmarkTask)
  (model : ModelConfig)

/-- The training path of one pair of a run. -/
def trainingFeatures : Except Exc CanonicalQualityFeatures := do
  let exported ← exportRow run task.taskId model.modelId
  let features ← featureValues exported
  let row ← MLExperimentRow.ofFeatures exported.candidate.internalId features
  canonicalFromTrainingRow row

/-- The serving path of the task's request and the model. -/
def servingFeatures : Except Exc CanonicalQualityFeatures := do
  let category ← canonicalizeCategory task.category.value
  let features ← extract indicators task.toInferenceRequest (some category.value)
    (task.expectedOutputType = .json || task.expectedOutputType = .code)
  canonicalFromProduction features model

/-- The features hold the data of a task and a model, under an allowance. -/
structure Represents (allowance : ℕ) (f : CanonicalQualityFeatures) : Prop where
  schemaVersion : f.schemaVersion = "1.0.0"
  category : f.category = task.category.canonical
  candidateId : f.candidateId = model.modelId
  reasoningEffort : f.reasoningEffort = canonicalizeReasoningEffort model.reasoningEffort
  promptCharacters : PyFloat.ofInt? task.prompt.length = some (.finite f.promptCharacters)
  approximateInputTokens : PyFloat.ofInt? (RouteLLM.approximateInputTokens task.toInferenceRequest) =
    some (.finite f.approximateInputTokens)
  requestedMaxOutputTokens : PyFloat.ofInt? task.maxOutputTokens.val =
    some (.finite f.requestedMaxOutputTokens)
  constraintIndicatorCount :
    PyFloat.ofInt? (indicators.constraintIndicatorCount (requestText task.toInferenceRequest)) =
      some (.finite f.constraintIndicatorCount)
  reasoningIndicatorCount :
    PyFloat.ofInt? (indicators.reasoningIndicatorCount (requestText task.toInferenceRequest)) =
      some (.finite f.reasoningIndicatorCount)
  inputCost : PyFloat.ofDecimal model.inputCostPer1mTokens.dec =
    .finite f.configuredInputCostPer1mTokens
  outputCost : PyFloat.ofDecimal model.outputCostPer1mTokens.dec =
    .finite f.configuredOutputCostPer1mTokens
  contextWindow : PyFloat.ofInt? model.contextWindow.val = some (.finite f.contextWindow)
  effectiveMaxOutputTokens : PyFloat.ofInt? allowance = some (.finite f.effectiveMaxOutputTokens)
  containsCode :
    f.containsCode = indicators.textContainsCode (requestText task.toInferenceRequest)
  requestsStructuredOutput : f.requestsStructuredOutput =
    (task.expectedOutputType = .json || task.expectedOutputType = .code)
  supportsTemperature : f.supportsTemperature = model.capabilities.supportsTemperature

/-- The conversion that both paths make of the data they share, under an allowance. -/
def canonicalUnder (allowance : ℕ) : Except Exc CanonicalQualityFeatures := do
  let text := requestText task.toInferenceRequest
  let promptCharacters ← floatOfInt task.prompt.length
  let approximateInputTokens ← floatOfInt (approximateInputTokens task.toInferenceRequest)
  let requestedMaxOutputTokens ← floatOfInt task.maxOutputTokens.val
  let constraintIndicatorCount ← floatOfInt (indicators.constraintIndicatorCount text)
  let reasoningIndicatorCount ← floatOfInt (indicators.reasoningIndicatorCount text)
  let contextWindow ← floatOfInt model.contextWindow.val
  let effectiveMaxOutputTokens ← floatOfInt allowance
  CanonicalInputs.validate {
    category := task.category.canonical
    candidateId := model.modelId
    reasoningEffort := canonicalizeReasoningEffort model.reasoningEffort
    promptCharacters
    approximateInputTokens
    requestedMaxOutputTokens
    constraintIndicatorCount
    reasoningIndicatorCount
    configuredInputCostPer1mTokens := .ofDecimal model.inputCostPer1mTokens.dec
    configuredOutputCostPer1mTokens := .ofDecimal model.outputCostPer1mTokens.dec
    contextWindow
    effectiveMaxOutputTokens
    containsCode := indicators.textContainsCode text
    requestsStructuredOutput := task.expectedOutputType = .json || task.expectedOutputType = .code
    supportsTemperature := model.capabilities.supportsTemperature }

variable {indicators run task model}

/-- The conversion represents the pair. -/
theorem canonicalUnder_eq_ok {allowance : ℕ} {f : CanonicalQualityFeatures} :
    canonicalUnder indicators task model allowance = .ok f ↔
      Represents indicators task model allowance f := by
  simp only [canonicalUnder, Except.bind_eq_ok, floatOfInt_eq_ok, CanonicalInputs.validate_eq_ok]
  constructor
  · rintro ⟨p, hp, a, ha, m, hm, k, hk, r, hr, w, hw, e, he, hinputs, hschema⟩
    cases f
    simp only [CanonicalQualityFeatures.inputs, CanonicalInputs.mk.injEq] at hinputs
    obtain ⟨rfl, rfl, rfl, rfl, rfl, rfl, rfl, rfl, hi, ho, rfl, rfl, rfl, rfl, rfl⟩ := hinputs
    exact ⟨hschema, rfl, rfl, rfl, hp, ha, hm, hk, hr, hi, ho, hw, he, rfl, rfl, rfl⟩
  · rintro ⟨hschema, h1, h2, h3, hp, ha, hm, hk, hr, hi, ho, hw, he, h4, h5, h6⟩
    refine ⟨_, hp, _, ha, _, hm, _, hk, _, hr, _, hw, _, he, ?_, hschema⟩
    rw [← h1, ← h2, ← h3, ← h4, ← h5, ← h6, hi, ho]
    rfl

/-- **The training path** represents the pair under the provider allowance of the run. -/
theorem trainingFeatures_eq {runId : Uuid} {dataset : BenchmarkDataset} {limit : Option ℕ}
    {models : List ModelConfig} {overrides : OutputTokenOverrides}
    (htask : task ∈ BenchmarkRunner.selectedTasks dataset limit) (hmodel : model ∈ models)
    (hmodels : (models.map (·.modelId)).Nodup) :
    trainingFeatures (BenchmarkRunner.manifest indicators overrides runId dataset limit models) task
        model =
      canonicalUnder indicators task model
        (BenchmarkRunner.effectiveOutputLimit overrides task model).val := by
  have hpre := BenchmarkRunner.selectedTasks_prefix dataset limit
  have hnodup : ((BenchmarkRunner.selectedTasks dataset limit).map (·.taskId)).Nodup :=
    dataset.tasks_nodup.sublist (hpre.sublist.map _)
  have hexport := AssocList.find?_of_nodup dataset.tasks_nodup (hpre.subset htask)
  have hcategory : orDefault (some task.category.value) "unknown" = task.category.value := by
    cases task.category <;> rfl
  have htemperature : ((model.capabilities.dump.lookup
      (PyStr.ofString "supports_temperature")).getD (.bool false)).truthy =
        model.capabilities.supportsTemperature := by
    rw [ModelCapabilities.dump, List.lookup_cons_self]
    rfl
  simp only [trainingFeatures, exportRow, BenchmarkRunner.manifest, BenchmarkRunner.configuration,
    hexport, AssocList.find?_of_nodup hmodels hmodel, AssocList.lookup_map_of_nodup hmodels hmodel,
    AssocList.lookup_map_of_nodup hnodup htask, Except.ok_bind, Option.getD_some,
    featureValues, extractRequestFeatures, BenchmarkRunner.frozenModel, hcategory, htemperature,
    bind_assoc, pure_bind, MLExperimentRow.ofFeatures, dite_true, canonicalFromTrainingRow,
    canonicalizeCategory_task, canonicalizeReasoningEffortText_frozen]
  rfl

/-- **The serving path** represents the pair under the only override that counts for its canonical
category. -/
theorem servingFeatures_eq_ok {f : CanonicalQualityFeatures} :
    servingFeatures indicators task model = .ok f ↔
      KnownCategories model ∧ (canonicalOverrides model task.category.canonical).length ≤ 1 ∧
        Represents indicators task model
          ((canonicalOverrides model task.category.canonical).head?.getD task.maxOutputTokens).val
          f := by
  simp only [servingFeatures, canonicalizeCategory_task, extract, categoryOfHint_value,
    canonicalFromProduction, Except.ok_bind, pure_bind, canonicalizeCategory_value,
    ← canonicalUnder_eq_ok, canonicalUnder, Except.bind_eq_ok]
  constructor
  · rintro ⟨p, hp, a, ha, m, hm, k, hk, r, hr, w, hw, n, hn, e, he, h⟩
    obtain ⟨hknown, hlen, rfl⟩ := (resolveEffectiveOutputAllowance_eq_ok rfl).mp hn
    exact ⟨hknown, hlen, p, hp, a, ha, m, hm, k, hk, r, hr, w, hw, e, he, h⟩
  · rintro ⟨hknown, hlen, p, hp, a, ha, m, hm, k, hk, r, hr, w, hw, e, he, h⟩
    refine ⟨p, hp, a, ha, m, hm, k, hk, r, hr, w, hw, _, ?_, e, he, h⟩
    exact (resolveEffectiveOutputAllowance_eq_ok rfl).mpr ⟨hknown, hlen, rfl⟩

/-! ## Where the paths agree -/

variable (indicators task model) in
/-- Every number that the two paths share has a finite float. -/
structure Convertible : Prop where
  promptCharacters : (PyFloat.ofInt? task.prompt.length).isSome
  approximateInputTokens :
    (PyFloat.ofInt? (RouteLLM.approximateInputTokens task.toInferenceRequest)).isSome
  requestedMaxOutputTokens : (PyFloat.ofInt? task.maxOutputTokens.val).isSome
  constraintIndicatorCount : (PyFloat.ofInt?
    (indicators.constraintIndicatorCount (requestText task.toInferenceRequest))).isSome
  reasoningIndicatorCount : (PyFloat.ofInt?
    (indicators.reasoningIndicatorCount (requestText task.toInferenceRequest))).isSome
  inputCost : (Binary64.ofRat? model.inputCostPer1mTokens.toRat).isSome
  outputCost : (Binary64.ofRat? model.outputCostPer1mTokens.toRat).isSome
  contextWindow : (PyFloat.ofInt? model.contextWindow.val).isSome

/-- Features exist exactly where all numbers have floats. -/
theorem exists_represents {allowance : ℕ} (hpos : 0 < allowance) :
    (∃ f, Represents indicators task model allowance f) ↔
      Convertible indicators task model ∧ (PyFloat.ofInt? allowance).isSome := by
  constructor
  · rintro ⟨f, h⟩
    have hdecimal {m : Money} {x : Binary64} (h : PyFloat.ofDecimal m.dec = .finite x) :
        (Binary64.ofRat? m.toRat).isSome :=
      Option.isSome_of_eq_some (PyFloat.ofDecimal_eq_finite.mp h)
    exact ⟨⟨Option.isSome_of_eq_some h.promptCharacters,
      Option.isSome_of_eq_some h.approximateInputTokens,
      Option.isSome_of_eq_some h.requestedMaxOutputTokens,
      Option.isSome_of_eq_some h.constraintIndicatorCount,
      Option.isSome_of_eq_some h.reasoningIndicatorCount, hdecimal h.inputCost,
      hdecimal h.outputCost, Option.isSome_of_eq_some h.contextWindow⟩,
      Option.isSome_of_eq_some h.effectiveMaxOutputTokens⟩
  · rintro ⟨h, hallowance⟩
    obtain ⟨p, hp⟩ := PyFloat.exists_ofInt?_nonneg h.promptCharacters
    obtain ⟨a, ha⟩ := PyFloat.exists_ofInt?_nonneg h.approximateInputTokens
    obtain ⟨m, hm⟩ := PyFloat.exists_ofInt?_pos task.maxOutputTokens.pos h.requestedMaxOutputTokens
    obtain ⟨k, hk⟩ := PyFloat.exists_ofInt?_nonneg h.constraintIndicatorCount
    obtain ⟨r, hr⟩ := PyFloat.exists_ofInt?_nonneg h.reasoningIndicatorCount
    obtain ⟨i, hi⟩ :=
      PyFloat.exists_ofDecimal_nonneg model.inputCostPer1mTokens.toRat_nonneg h.inputCost
    obtain ⟨o, ho⟩ :=
      PyFloat.exists_ofDecimal_nonneg model.outputCostPer1mTokens.toRat_nonneg h.outputCost
    obtain ⟨w, hw⟩ := PyFloat.exists_ofInt?_pos model.contextWindow.pos h.contextWindow
    obtain ⟨e, he⟩ := PyFloat.exists_ofInt?_pos hpos hallowance
    exact ⟨⟨"1.0.0", task.category.canonical, model.modelId,
      canonicalizeReasoningEffort model.reasoningEffort, p, a, m, k, r, i, o, w, e,
      _, _, _⟩, rfl, rfl, rfl, rfl, hp, ha, hm, hk, hr, hi, ho, hw, he, rfl, rfl, rfl⟩

/-- Only the float of the allowance matters. -/
theorem Represents.congr {a b : ℕ} {f : CanonicalQualityFeatures}
    (h : Represents indicators task model a f) (hab : PyFloat.ofInt? b = PyFloat.ofInt? a) :
    Represents indicators task model b f :=
  { h with effectiveMaxOutputTokens := hab.trans h.effectiveMaxOutputTokens }

/-- Two paths that represent the pair, the second under a condition, agree exactly where no features
exist, or both have the same allowance as a float, or neither returns. -/
theorem represents_agree_iff {p : Prop} [Decidable p] {trained served : ℕ} (ht : 0 < trained)
    (hs : 0 < served) :
    (∀ f, Represents indicators task model trained f ↔
        p ∧ Represents indicators task model served f) ↔
      ¬ Convertible indicators task model ∨
        if p then PyFloat.ofInt? served = PyFloat.ofInt? trained
        else PyFloat.ofInt? trained = none := by
  by_cases hconv : Convertible indicators task model
  swap
  · have hnone {n : ℕ} (hn : 0 < n) (f) : ¬ Represents indicators task model n f := fun h =>
      hconv ((exists_represents hn).mp ⟨f, h⟩).1
    simp [hconv, hnone ht, hnone hs]
  have hexists {n : ℕ} (hn : 0 < n) {x : PyFloat} (hx : PyFloat.ofInt? n = some x) :
      ∃ f, Represents indicators task model n f :=
    (exists_represents hn).mpr ⟨hconv, Option.isSome_of_eq_some hx⟩
  simp only [hconv, not_true_eq_false, false_or]
  split
  · rename_i hp
    simp only [hp, true_and]
    constructor
    · intro h
      cases hft : PyFloat.ofInt? trained with
      | some x =>
        obtain ⟨f, hf⟩ := hexists ht hft
        rw [((h f).mp hf).effectiveMaxOutputTokens, ← hft, hf.effectiveMaxOutputTokens]
      | none =>
        cases hfs : PyFloat.ofInt? served with
        | none => rfl
        | some x =>
          obtain ⟨f, hf⟩ := hexists hs hfs
          rw [((h f).mpr hf).effectiveMaxOutputTokens] at hft
          cases hft
    · exact fun h f => ⟨fun hf => hf.congr h, fun hf => hf.congr h.symm⟩
  · rename_i hp
    simp only [hp, false_and, iff_false]
    constructor
    · intro h
      cases hft : PyFloat.ofInt? trained with
      | some x =>
        obtain ⟨f, hf⟩ := hexists ht hft
        exact absurd hf (h f)
      | none => rfl
    · intro h f hf
      rw [hf.effectiveMaxOutputTokens] at h
      cases h

variable (task model)

/-- Serving can read the policy for the task: it knows every category, and no two overrides are for
the task's. -/
def Readable : Prop :=
  KnownCategories model ∧
    ¬ (task.category = .json ∧ (overrideOf model "json").isSome ∧
      (overrideOf model "structured_json").isSome)

instance : Decidable (Readable task model) := inferInstanceAs (Decidable (_ ∧ ¬ (_ ∧ _ ∧ _)))

/-- The `structured_json` override of a `json` task that has no `json` override. Training does not
find it. -/
def structuredOverride : Option PositiveTokenCount :=
  if task.category = .json ∧ overrideOf model "json" = none then
    overrideOf model "structured_json"
  else none

/-- The visible requirement: the override of exactly the task's category, else the task's limit. -/
def visibleRequirement : PositiveTokenCount :=
  (overrideOf model task.category.value).getD task.maxOutputTokens

/-- The override that only serving finds equals the task's limit with the headroom, and without such
an override the headroom adds nothing, as floats. -/
def AllowancesAgree : Prop :=
  let headroom := model.outputTokenPolicy.reasoningHeadroomTokens
  match structuredOverride task model with
  | some served =>
    PyFloat.ofInt? served.val = PyFloat.ofInt? (task.maxOutputTokens.val + headroom : ℕ)
  | none => PyFloat.ofInt? (visibleRequirement task model).val =
    PyFloat.ofInt? ((visibleRequirement task model).val + headroom : ℕ)

variable {task model}

/-- The readable policies are those that serving resolves. -/
theorem readable_iff : Readable task model ↔
    KnownCategories model ∧ (canonicalOverrides model task.category.canonical).length ≤ 1 := by
  refine and_congr_right fun _ => ?_
  by_cases hjson : task.category = .json
  · simp only [hjson, TaskCategory.canonical, true_and]
    cases hj : overrideOf model "json" with
    | none => simp [canonicalOverrides_of_json_none hj, length_matchingOverrides_le]
    | some a =>
      cases hs : overrideOf model "structured_json" with
      | none => simp [canonicalOverrides_of_structured_none hs, length_matchingOverrides_le]
      | some b => simpa using one_lt_canonicalOverrides hj hs
  · have hne : task.category.canonical ≠ .structuredJson := by
      revert hjson
      cases task.category <;> decide
    simp [hjson, canonicalOverrides_of_ne hne, length_matchingOverrides_le]

/-- What a readable policy resolves to. -/
theorem head_canonicalOverrides (h : Readable task model) :
    (canonicalOverrides model task.category.canonical).head?.getD task.maxOutputTokens =
      (structuredOverride task model).getD (visibleRequirement task model) := by
  by_cases hjson : task.category = .json
  · simp only [structuredOverride, visibleRequirement, hjson, TaskCategory.canonical,
      TaskCategory.value, true_and]
    cases hj : overrideOf model "json" with
    | none =>
      rw [canonicalOverrides_of_json_none hj]
      rfl
    | some a =>
      cases hs : overrideOf model "structured_json" with
      | none =>
        rw [canonicalOverrides_of_structured_none hs]
        simp [← hj, overrideOf]
      | some b => exact absurd ⟨hjson, by simp [hj], by simp [hs]⟩ h.2
  · have hne : task.category.canonical ≠ .structuredJson ∧
        task.category.canonical.value = task.category.value := by
      revert hjson
      cases task.category <;> decide
    rw [canonicalOverrides_of_ne hne.1, hne.2]
    simp [structuredOverride, visibleRequirement, hjson, overrideOf]

/-- Where only serving finds an override, training takes the task's limit. -/
theorem visibleRequirement_of_structured {served : PositiveTokenCount}
    (h : structuredOverride task model = some served) :
    visibleRequirement task model = task.maxOutputTokens := by
  rw [structuredOverride] at h
  split at h
  · rename_i hjson
    rw [visibleRequirement, hjson.1, TaskCategory.value, hjson.2]
    rfl
  · cases h

/-- **Training and serving agree** in the runs without overrides exactly where a shared number has no
float, or serving can read the policy and the allowances agree, or it cannot and training has no
features either. -/
theorem parity_iff {runId : Uuid} {dataset : BenchmarkDataset} {limit : Option ℕ}
    {models : List ModelConfig} (htask : task ∈ BenchmarkRunner.selectedTasks dataset limit)
    (hmodel : model ∈ models) (hmodels : (models.map (·.modelId)).Nodup) :
    (∀ f, trainingFeatures (BenchmarkRunner.manifest indicators [] runId dataset limit models) task
        model = .ok f ↔ servingFeatures indicators task model = .ok f) ↔
      ¬ Convertible indicators task model ∨
        if Readable task model then AllowancesAgree task model
        else PyFloat.ofInt? ((visibleRequirement task model).val +
          model.outputTokenPolicy.reasoningHeadroomTokens : ℕ) = none := by
  have htrained : (BenchmarkRunner.effectiveOutputLimit [] task model).val =
      (visibleRequirement task model).val + model.outputTokenPolicy.reasoningHeadroomTokens :=
    model.val_providerOutputAllowance _ _
  simp only [trainingFeatures_eq htask hmodel hmodels, canonicalUnder_eq_ok,
    servingFeatures_eq_ok, ← and_assoc, ← readable_iff]
  rw [represents_agree_iff (PositiveTokenCount.pos _) (PositiveTokenCount.pos _), htrained]
  refine or_congr_right ?_
  split
  · rename_i h
    rw [head_canonicalOverrides h, AllowancesAgree]
    cases hs : structuredOverride task model with
    | none => rfl
    | some served => rw [visibleRequirement_of_structured hs, Option.getD_some]
  · rfl

end

/-! ## A divergence -/

/-- A model whose upstream limit counts 64 tokens of reasoning too. -/
def ModelConfig.reasoningSample : ModelConfig :=
  { ModelConfig.sample with
    capabilities := { reasoning := .adaptive, outputTokenAccounting := .reasoningAndVisible }
    outputTokenPolicy :=
      { OutputTokenPolicy.default with
        reasoningHeadroomTokens := 64
        headroom_le := by decide
        expected_le_headroom := by decide }
    effort_supported := by decide
    visible_no_headroom := by decide }

/-- With a headroom, training records 320 tokens where serving predicts on 256. -/
theorem parity_fails_with_headroom :
    (trainingFeatures (BenchmarkRunner.manifest .sample [] .sample .sample none
      [.reasoningSample]) .sample .reasoningSample).toOption.map
        (·.effectiveMaxOutputTokens.val.val) = some 320 ∧
    (servingFeatures .sample .sample .reasoningSample).toOption.map
        (·.effectiveMaxOutputTokens.val.val) = some 256 := by
  decide +kernel

/-- The condition decides the two sample models. -/
theorem parity_iff_sample :
    ((∀ f, trainingFeatures (BenchmarkRunner.manifest .sample [] .sample .sample none
        [.sample]) .sample .sample = .ok f ↔ servingFeatures .sample .sample .sample = .ok f) ↔
      ¬ Convertible .sample .sample .sample ∨
        if Readable .sample .sample then AllowancesAgree .sample .sample
        else PyFloat.ofInt? ((visibleRequirement .sample .sample).val + 0 : ℕ) = none) :=
  parity_iff (.head _) (.head _) (by decide)

end RouteLLM
