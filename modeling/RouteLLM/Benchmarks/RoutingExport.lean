import RouteLLM.Benchmarks.Models
import RouteLLM.Errors

/-!
# The routing dataset

`benchmarks/routing_export.py`: the part of a row that lies inside the feature boundary, that is the
request features, the candidate and its effective allowance. They are read back from the manifest of
the run, so that they depend on the task and the model of a result only.
-/

namespace RouteLLM

/-- `RoutingCandidateSnapshot` of `benchmarks/routing_export.py`. -/
structure ExportedCandidate where
  internalId : Identifier
  provider : Identifier
  upstreamModelSlug : Identifier
  upstreamProviderPin : String
  serviceTier : String
  region : String
  inputCostPer1mTokens : Money
  outputCostPer1mTokens : Money
  contextWindow : PositiveTokenCount
  capabilities : List (PyStr × PyJson)
  reasoningEffort : Option String

/-- The part of `RoutingDatasetRow` inside the feature boundary. -/
structure RoutingDatasetRow where
  taskId : TaskId
  requestFeatures : RequestFeatures
  candidate : ExportedCandidate
  effectiveMaxOutputTokens : PositiveTokenCount

/-- `capabilities.model_dump(mode="json")`. -/
def ModelCapabilities.dump (capabilities : ModelCapabilities) : List (PyStr × PyJson) :=
  [(PyStr.ofString "supports_temperature", .bool capabilities.supportsTemperature),
   (PyStr.ofString "supports_structured_output", .bool capabilities.supportsStructuredOutput),
   (PyStr.ofString "reasoning", .str (PyStr.ofString capabilities.reasoning.value)),
   (PyStr.ofString "output_token_accounting",
     .str (PyStr.ofString capabilities.outputTokenAccounting.value))]

/-- The row of one result of `export_routing_dataset`: the task and the model are looked up in the
run, everything else in its manifest. -/
def exportRow (run : BenchmarkRun) (taskId : TaskId) (modelId : Identifier) :
    Except Exc RoutingDatasetRow :=
  match run.dataset.tasks.find? (·.taskId = taskId), run.models.find? (·.modelId = modelId) with
  | some task, some model =>
    match run.configuration.frozenModelConfiguration.lookup modelId,
      run.configuration.requestFeatures.lookup taskId with
    | some snapshot, some features =>
      .ok {
        taskId
        requestFeatures := features
        candidate := {
          internalId := model.modelId
          provider := model.provider
          upstreamModelSlug := model.providerModelName
          upstreamProviderPin := snapshot.upstreamProviderPin.getD "None"
          serviceTier := snapshot.serviceTier
          region := snapshot.region
          inputCostPer1mTokens := model.inputCostPer1mTokens
          outputCostPer1mTokens := model.outputCostPer1mTokens
          contextWindow := model.contextWindow
          capabilities := model.capabilities.dump
          reasoningEffort := snapshot.reasoningEffort }
        effectiveMaxOutputTokens :=
          (((run.configuration.effectiveMaxOutputTokens.lookup taskId).getD []).lookup
            modelId).getD task.maxOutputTokens }
    | _, _ => .error (.raised .valueError "Run manifest snapshot is incomplete")
  | _, _ => .error (.raised .keyError "")

end RouteLLM
