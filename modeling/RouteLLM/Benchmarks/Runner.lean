import RouteLLM.Application.Inference
import RouteLLM.Benchmarks.Features
import RouteLLM.Benchmarks.ProtocolAudit
import RouteLLM.Providers.Vercel

/-!
# The benchmark runner

`benchmarks/runner.py`. A run freezes its configuration, stores the manifest, calls every selected
model on every selected task and records one result after each call. The calls to the inference
service and to the repository are recorded with their outcomes, so that what a run has recorded, and
what has failed on the way, is read off its calls.
-/

namespace RouteLLM

/-- `output_token_overrides`: visible limits by model and task. -/
abbrev OutputTokenOverrides := List (Identifier × List (TaskId × PositiveTokenCount))

namespace BenchmarkRunner

/-! ## The frozen configuration -/

/-- The provider allowance of one pair. -/
def effectiveOutputLimit (overrides : OutputTokenOverrides) (task : BenchmarkTask)
    (model : ModelConfig) : PositiveTokenCount :=
  model.providerOutputAllowance
    ((((overrides.lookup model.modelId).getD []).lookup task.taskId).getD task.maxOutputTokens)
    task.category.value

/-- The entry of a model in `frozen_model_configuration`. -/
def frozenModel (model : ModelConfig) : FrozenModelConfiguration where
  upstreamProviderPin := upstreamProviders.lookup model.providerModelName.value
  serviceTier := "standard"
  region := "provider_default"
  reasoningEffort := model.reasoningEffort.map (·.value)

/-- The configuration that `run` freezes before the first call. -/
def configuration (indicators : TextIndicators) (overrides : OutputTokenOverrides)
    (tasks : List BenchmarkTask) (models : List ModelConfig) : RunConfiguration where
  requestFeatures := tasks.map fun task => (task.taskId, extractRequestFeatures indicators task)
  effectiveMaxOutputTokens := tasks.map fun task =>
    (task.taskId, models.map fun model => (model.modelId, effectiveOutputLimit overrides task model))
  frozenModelConfiguration := models.map fun model => (model.modelId, frozenModel model)

/-- The tasks that a limit selects. -/
def selectedTasks (dataset : BenchmarkDataset) (limit : Option ℕ) : List BenchmarkTask :=
  match limit with
  | none => dataset.tasks
  | some n => dataset.tasks.take n

/-- The manifest that `run` stores before the first call. -/
def manifest (indicators : TextIndicators) (overrides : OutputTokenOverrides) (runId : Uuid)
    (dataset : BenchmarkDataset) (limit : Option ℕ) (models : List ModelConfig) : BenchmarkRun where
  runId
  dataset
  selectedTaskIds := (selectedTasks dataset limit).map (·.taskId)
  models
  configuration := configuration indicators overrides (selectedTasks dataset limit) models

/-- Selected tasks are tasks of the dataset, in its order. -/
theorem selectedTasks_prefix (dataset : BenchmarkDataset) (limit : Option ℕ) :
    selectedTasks dataset limit <+: dataset.tasks := by
  cases limit with
  | none => exact List.prefix_rfl
  | some n => exact List.take_prefix n dataset.tasks

end BenchmarkRunner

/-! ## The run -/

inductive RunStatus
  | completed | aborted
  deriving DecidableEq

/-- `BenchmarkRepository`. -/
structure BenchmarkRepository (σ : Type) where
  start : BenchmarkRun → σ → Except Exc Unit × σ
  record : BenchmarkResult → σ → Except Exc Unit × σ
  finish : Uuid → RunStatus → σ → Except Exc Unit × σ

/-- A call of the inference service for one pair, with its outcome. -/
structure PairCall where
  task : BenchmarkTask
  model : ModelConfig
  request : InferenceRequest
  outcome : Except Exc InferenceResponse

/-- A call to a collaborator of the runner, with its outcome. -/
inductive RunnerCall
  | start (run : BenchmarkRun) (outcome : Except Exc Unit)
  | inference (call : InferenceCall)
  | generate (call : PairCall)
  | record (result : BenchmarkResult) (outcome : Except Exc Unit)
  | finish (runId : Uuid) (status : RunStatus) (outcome : Except Exc Unit)

/-- `self.model_configurations.get(model.model_id, model)`. -/
def configuredModel (modelConfigurations : List (Identifier × ModelConfig)) (model : ModelConfig) :
    ModelConfig :=
  (modelConfigurations.lookup model.modelId).getD model

/-- The runner and its environment, with what its constructor checks: an override has an entry, and
the execution registry accepts every configured model. -/
structure BenchmarkRunner (σ : Type) where
  inference : InferenceService σ
  repository : BenchmarkRepository σ
  indicators : TextIndicators
  outputTokenOverrides : OutputTokenOverrides := []
  modelConfigurations : List (Identifier × ModelConfig) := []
  overrides_nonempty : ∀ entry ∈ outputTokenOverrides, entry.2 ≠ []
  execution_nodup : ((inference.registry.models.map (configuredModel modelConfigurations)).map
    (·.modelId.value)).Nodup

namespace BenchmarkRunner

/-- A program of the runner. -/
abbrev Act (σ α : Type) := Traced Exc σ RunnerCall α

variable {σ : Type} (runner : BenchmarkRunner σ)

/-- The model that the runner executes for a registered one. -/
def configured (model : ModelConfig) : ModelConfig := configuredModel runner.modelConfigurations model

/-- The registry of the execution service. -/
def executionRegistry : ModelRegistry :=
  ⟨runner.inference.registry.models.map runner.configured, runner.execution_nodup⟩

/-- The execution service, deliberately without a telemetry sink and with the default deadline. -/
def service : InferenceService σ where
  registry := runner.executionRegistry
  resolver := runner.inference.resolver
  clock := runner.inference.clock
  durationSeconds := runner.inference.durationSeconds
  newUuid := runner.inference.newUuid
  deadline_pos := defaultDeadline_pos

/-- The fields that an execution configuration may not change. Prices compare as numbers. -/
def sameIdentity (registered model : ModelConfig) : Bool :=
  model.modelId = registered.modelId && model.provider = registered.provider &&
    model.providerModelName = registered.providerModelName &&
    model.inputCostPer1mTokens.toRat = registered.inputCostPer1mTokens.toRat &&
    model.outputCostPer1mTokens.toRat = registered.outputCostPer1mTokens.toRat

def invalid (message : String) : Exc := .raised .valueError message

/-- The checks of a selected model. -/
def checkModel (registered : ModelConfig) : Except Exc Unit :=
  let model := runner.configured registered
  if ¬ sameIdentity registered model then
    .error (invalid ("Execution model configuration may only change reasoning effort " ++
      "and output capability policy"))
  else if ¬ model.enabled then
    .error (.raised .modelDisabledError "Selected benchmark model is disabled")
  else if ¬ runner.service.resolver.supports model.provider then
    .error (.raised .providerUnavailableError "Selected benchmark adapter is unavailable")
  else return ()

/-- The output-token overrides target registered models and tasks of the data set. -/
def overridesTarget (dataset : BenchmarkDataset) : Bool :=
  runner.outputTokenOverrides.all fun entry =>
    runner.executionRegistry.models.any (·.modelId = entry.1) &&
      entry.2.all fun limit => dataset.tasks.any (·.taskId = limit.1)

/-- What `run` checks before it freezes the configuration. It returns the selected models. -/
def prepare (dataset : BenchmarkDataset) (modelIds : List String) (limit : Option ℤ) :
    Except Exc (List ModelConfig) :=
  if modelIds = [] ∨ ¬ modelIds.Nodup then .error (invalid "Select one or more distinct models")
  else if limit.any (· ≤ 0) then .error (invalid "Task limit must be positive")
  else do
    let registered ← modelIds.mapM runner.inference.registry.get
    if ¬ runner.modelConfigurations.all fun entry => modelIds.contains entry.1.value then
      .error (invalid "Execution model configurations must target selected models")
    else do
      let _ ← registered.mapM runner.checkModel
      if ¬ runner.overridesTarget dataset then
        .error (invalid "Output-token overrides must target selected models and tasks")
      else return registered.map runner.configured

/-- The categories of the handler. Every caught exception has one of the classes. -/
def failureCategories : List (ExcClass × String) :=
  [(.contextLimitError, "context_limit_exceeded"), (.modelDisabledError, "model_disabled"),
    (.providerUnavailableError, "provider_unavailable"), (.providerFailureError, "provider_failure")]

/-- The classes that the handler catches. -/
def caughtErrors : List ExcClass :=
  [.contextLimitError, .modelDisabledError, .providerUnavailableError, .providerFailureError]

/-- `str()` of an amount as JSON data. -/
def moneyJson (amount : Money) : PyJson := .str (amount.dec.str.map Char.toNat)

/-- The details of a response that exhausted its output budget. -/
def exhaustionDetails (response : InferenceResponse) (limit : PositiveTokenCount) :
    List (PyStr × PyJson) :=
  [(.ofString "termination_reason", .str (.ofString response.terminationReason.value)),
    (.ofString "provider_termination_reason",
      (response.providerTerminationReason.map fun reason => .str (.ofString reason)).getD .null),
    (.ofString "output_token_limit", .int limit.val),
    (.ofString "output_tokens", .int response.outputTokens),
    (.ofString "estimated_cost_usd", moneyJson response.estimatedCostUsd),
    (.ofString "fallback_heuristic", .bool true)]

/-- The result of a failed call. -/
def failureResult (resultId runId : Uuid) (requestId : String) (task : BenchmarkTask)
    (model : ModelConfig) (category : String) (details : List (PyStr × PyJson)) (latencyMs : ℚ≥0) :
    BenchmarkResult where
  resultId
  runId
  requestId
  taskId := task.taskId
  modelId := model.modelId
  success := false
  errorCategory := some category
  errorDetails := details
  latencyMs
  response_iff := rfl
  category_iff := rfl
  response_model := by simp
  success_details := by simp

/-- The result of a call that returned a response. The last branch is the check of the result model. -/
def responseResult (resultId runId : Uuid) (requestId : String) (task : BenchmarkTask)
    (model : ModelConfig) (limit : PositiveTokenCount) (response : InferenceResponse) :
    Except Exc BenchmarkResult :=
  if responseOutputBudgetExhaustion response limit then
    .ok (failureResult resultId runId requestId task model "output_budget_exhaustion"
      (exhaustionDetails response limit) response.latencyMs)
  else if hmodel : response.modelId = model.modelId then
    .ok {
      resultId
      runId
      requestId
      taskId := task.taskId
      modelId := model.modelId
      success := true
      response := some response
      latencyMs := response.latencyMs
      response_iff := rfl
      category_iff := rfl
      response_model := fun _ h => Option.some.inj h ▸ hmodel
      success_details := fun _ => rfl }
  else .error (.raised .validationError "BenchmarkResult")

/-- The request of a pair, with its effective output limit. -/
def pairRequest (task : BenchmarkTask) (model : ModelConfig) : InferenceRequest :=
  { task.toInferenceRequest with
    maxOutputTokens := effectiveOutputLimit runner.outputTokenOverrides task model }

/-- `repository.start`, `record` and `finish`: a call that fails raises. -/
def store (call : Except Exc Unit → RunnerCall) (operation : σ → Except Exc Unit × σ) :
    Act σ Unit := do
  let outcome ← .query operation
  .tell [call outcome]
  .ofExcept outcome

/-- One iteration of the nested loop: call the model, record the result. -/
def runPair (runId : Uuid) (task : BenchmarkTask) (model : ModelConfig) : Act σ Unit := do
  let requestId ← .query runner.inference.newUuid
  let request := runner.pairRequest task model
  let outcome ← .attempt (.embed .inference
    (runner.service.generate model.modelId.value request (some requestId.text) none .explicit))
  .tell [.generate ⟨task, model, request, outcome⟩]
  let resultId ← .query runner.inference.newUuid
  match outcome with
  | .error e =>
    if e.isInstanceOf caughtErrors then do
      let duration ← .query runner.inference.durationSeconds
      let result := failureResult resultId runId requestId.text task model
        (e.categoryIn failureCategories) e.diagnostics (milliseconds duration)
      store (.record result) (runner.repository.record result)
    else .raise e
  | .ok response => do
    let result ← .ofExcept
      (responseResult resultId runId requestId.text task model request.maxOutputTokens response)
    store (.record result) (runner.repository.record result)

/-- The nested loop, task then model, over the pairs that are left. -/
def runPairs (runId : Uuid) : List (BenchmarkTask × ModelConfig) → Act σ Unit
  | [] => pure ()
  | (task, model) :: rest => do
    runner.runPair runId task model
    runPairs runId rest

/-- The pairs of a run, task then model. -/
def pairs (tasks : List BenchmarkTask) (models : List ModelConfig) :
    List (BenchmarkTask × ModelConfig) :=
  tasks.flatMap fun task => models.map fun model => (task, model)

/-- `run`. -/
def run (dataset : BenchmarkDataset) (modelIds : List String) (limit : Option ℤ) :
    Act σ BenchmarkRun := do
  let models ← .ofExcept (runner.prepare dataset modelIds limit)
  let runId ← .query runner.inference.newUuid
  let taskLimit := limit.map Int.toNat
  let run := manifest runner.indicators runner.outputTokenOverrides runId dataset taskLimit models
  store (.start run) (runner.repository.start run)
  let outcome ← .attempt do
    runner.runPairs runId (pairs (selectedTasks dataset taskLimit) models)
    store (.finish runId .completed) (runner.repository.finish runId .completed)
  match outcome with
  | .ok () => return run
  | .error e => do
    store (.finish runId .aborted) (runner.repository.finish runId .aborted)
    .raise e

end BenchmarkRunner

end RouteLLM
