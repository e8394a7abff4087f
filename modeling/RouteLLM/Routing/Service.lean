import Mathlib.Data.List.Sort
import RouteLLM.Pricing
import RouteLLM.Routing.Policy
import RouteLLM.Routing.QualityFeatures

/-!
# The routing decision service

`routing/service.py`: filter, predict, price and select, without executing a model. The predictor
and the eligibility filter are parameters. `routeFeaturesWithSnapshot_eq_ok` says what a returned
result records: one priced candidate for each eligible model, and a decision on them; their ids are
distinct (`routeFeaturesWithSnapshot_nodup`) and one of them is selected
(`routeFeaturesWithSnapshot_selected`).
-/

namespace RouteLLM

structure RoutingCandidateSnapshot extends CandidatePrediction where
  qualifies : Bool
  deriving DecidableEq

structure RoutingResult where
  decision : RoutingDecision
  candidates : List RoutingCandidateSnapshot
  deriving DecidableEq

/-- The collaborators of the service. -/
structure RoutingDecisionService where
  predict : RoutingRequestFeatures → List ModelConfig →
    Except Exc (List ModelAcceptabilityPrediction)
  indicators : TextIndicators
  eligibilityFilter :
    Option (RoutingRequestFeatures → List ModelConfig → Except Exc (List ModelConfig)) := none

namespace RoutingDecisionService

variable (service : RoutingDecisionService)

/-- The candidates that the optional filter leaves. -/
def eligibleCandidates (features : RoutingRequestFeatures) (candidates : List ModelConfig) :
    Except Exc (List ModelConfig) :=
  match service.eligibilityFilter with
  | none => .ok candidates
  | some filter => filter features candidates

/-- The ids that occur more than once, sorted. -/
def duplicateIds (ids : List Identifier) : List String :=
  ((ids.map (·.value)).dedup.filter fun id => 1 < (ids.map (·.value)).count id).insertionSort
    (· ≤ ·)

/-- The priced prediction of one eligible candidate. -/
def price (features : RoutingRequestFeatures) (predictions : List ModelAcceptabilityPrediction)
    (candidate : ModelConfig) : Except Exc CandidatePrediction := do
  let some prediction := predictions.find? (·.modelId = candidate.modelId)
    | .error (.raised .keyError candidate.modelId.value)
  let allowance ← resolveEffectiveOutputAllowance features candidate
  return {
    modelId := candidate.modelId
    predictedAcceptability := prediction.predictedAcceptability
    projectedCostUsd :=
      calculateProjectedCost features.approximateInputTokens allowance.val candidate }

/-- The snapshot of a priced candidate under a decision. -/
def snapshot (decision : RoutingDecision) (c : CandidatePrediction) : RoutingCandidateSnapshot :=
  { c with qualifies := decision.qualityThreshold ≤ c.predictedAcceptability }

/-- `route_features_with_snapshot`. -/
def routeFeaturesWithSnapshot (features : RoutingRequestFeatures) (candidates : List ModelConfig)
    (qualityThreshold : ThresholdValue) : Except Exc RoutingResult := do
  let eligible ← service.eligibleCandidates features candidates
  let eligibleIds := eligible.map (·.modelId)
  if ¬ eligibleIds.Nodup then
    .error (.raised .duplicateCandidatePredictionError
      "eligible candidate model identifiers must be unique")
  else do
    let predictions ← service.predict features eligible
    let predictedIds := predictions.map (·.modelId)
    if ¬ predictedIds.Nodup then
      .error (.raised .duplicateCandidatePredictionError
        ("predictor returned duplicate candidate identifiers: " ++
          ", ".intercalate (duplicateIds predictedIds)))
    else if ¬ (predictedIds ⊆ eligibleIds ∧ eligibleIds ⊆ predictedIds ∧
        predictedIds.length = eligibleIds.length) then
      .error (.raised .predictorInputCompatibilityError
        "predictor output must correspond exactly to eligible candidates")
    else do
      let priced ← eligible.mapM (price features predictions)
      let decision ← CostAwareRoutingPolicy.route priced qualityThreshold
      return { decision, candidates := priced.map (snapshot decision) }

/-- `route_with_snapshot`. -/
def routeWithSnapshot (request : InferenceRequest) (candidates : List ModelConfig)
    (qualityThreshold : ThresholdValue) (categoryHint : Option String)
    (structuredOutputRequired : Bool) : Except Exc RoutingResult := do
  let features ← extract service.indicators request categoryHint structuredOutputRequired
  service.routeFeaturesWithSnapshot features candidates qualityThreshold

/-- What pricing one candidate has computed. -/
theorem price_eq_ok {features : RoutingRequestFeatures}
    {predictions : List ModelAcceptabilityPrediction} {candidate : ModelConfig}
    {priced : CandidatePrediction} (h : price features predictions candidate = .ok priced) :
    priced.modelId = candidate.modelId ∧
      ∃ allowance, resolveEffectiveOutputAllowance features candidate = .ok allowance ∧
        priced.projectedCostUsd =
          calculateProjectedCost features.approximateInputTokens allowance.val candidate := by
  unfold price at h
  split at h
  · obtain ⟨allowance, hres, h⟩ := Except.bind_eq_ok.mp h
    cases h
    exact ⟨rfl, allowance, hres, rfl⟩
  · cases h

variable {service} {features : RoutingRequestFeatures} {models : List ModelConfig}
  {threshold : ThresholdValue} {routing : RoutingResult}

/-- A returned result comes from priced candidates, one for each eligible model, and a decision on
them. -/
theorem routeFeaturesWithSnapshot_eq_ok
    (h : service.routeFeaturesWithSnapshot features models threshold = .ok routing) :
    ∃ eligible predictions priced,
      service.eligibleCandidates features models = .ok eligible ∧
      service.predict features eligible = .ok predictions ∧
      List.Forall₂ (fun m c => price features predictions m = .ok c) eligible priced ∧
      CostAwareRoutingPolicy.route priced threshold = .ok routing.decision ∧
      routing.candidates = priced.map (snapshot routing.decision) := by
  obtain ⟨eligible, helig, h⟩ := Except.bind_eq_ok.mp h
  obtain ⟨-, h⟩ := Except.guard_eq_ok.mp h
  obtain ⟨predictions, hpred, h⟩ := Except.bind_eq_ok.mp h
  obtain ⟨-, h⟩ := Except.guard_eq_ok.mp h
  obtain ⟨-, h⟩ := Except.guard_eq_ok.mp h
  obtain ⟨priced, hpriced, h⟩ := Except.bind_eq_ok.mp h
  obtain ⟨decision, hdec, h⟩ := Except.bind_eq_ok.mp h
  cases h
  exact ⟨eligible, predictions, priced, helig, hpred, List.mapM_eq_ok.mp hpriced, hdec, rfl⟩

@[simp] theorem map_modelId_snapshot (decision : RoutingDecision)
    (priced : List CandidatePrediction) :
    (priced.map (snapshot decision)).map (·.modelId) = priced.map (·.modelId) := by
  simp [Function.comp_def, snapshot]

/-- The snapshot candidates have distinct ids. -/
theorem routeFeaturesWithSnapshot_nodup
    (h : service.routeFeaturesWithSnapshot features models threshold = .ok routing) :
    (routing.candidates.map (·.modelId)).Nodup := by
  obtain ⟨_, _, priced, -, -, -, hroute, hcand⟩ := routeFeaturesWithSnapshot_eq_ok h
  rw [hcand, map_modelId_snapshot]
  exact (CostAwareRoutingPolicy.route_eq_ok hroute).1

/-- The selected id is a snapshot candidate's, which qualifies unless the fallback selected it. -/
theorem routeFeaturesWithSnapshot_selected
    (h : service.routeFeaturesWithSnapshot features models threshold = .ok routing) :
    ∃ c ∈ routing.candidates, c.modelId = routing.decision.selectedModelId ∧
      (routing.decision.fallbackUsed = false → c.qualifies = true) := by
  obtain ⟨_, _, priced, -, -, -, hroute, hcand⟩ := routeFeaturesWithSnapshot_eq_ok h
  obtain ⟨-, selected, hmem, hne, threshold, fallback, hdec, hmet, -⟩ :=
    CostAwareRoutingPolicy.route_eq_ok hroute
  refine ⟨snapshot routing.decision selected, ?_, ?_, ?_⟩
  · rw [hcand]
    exact List.mem_map_of_mem hmem
  · rw [hdec]
    rfl
  · intro hfb
    rw [hdec] at hfb ⊢
    exact decide_eq_true (hmet hfb)

end RoutingDecisionService

end RouteLLM
