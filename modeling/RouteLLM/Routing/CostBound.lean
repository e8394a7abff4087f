import RouteLLM.Providers.Vercel
import RouteLLM.Routing.Service

/-!
# The projected cost as a bound

Routing prices a candidate with the allowance that its policy resolves for the category, and the
gateway sends the request's own limit. The projected cost is an upper bound of the realized one for
exactly the pairs where the resolved allowance covers the limit, or where output is free
(`projected_bound_iff`).
-/

namespace RouteLLM

namespace RoutingDecisionService

variable {service : RoutingDecisionService} {features : RoutingRequestFeatures}
  {models eligible : List ModelConfig} {threshold : ThresholdValue} {routing : RoutingResult}

/-- The candidate with the id of an eligible model was priced for that model. -/
theorem routeFeaturesWithSnapshot_priced
    (h : service.routeFeaturesWithSnapshot features models threshold = .ok routing)
    (heligible : service.eligibleCandidates features models = .ok eligible) {model : ModelConfig}
    (hmodel : model ∈ eligible) {c : RoutingCandidateSnapshot} (hc : c ∈ routing.candidates)
    (hid : c.modelId = model.modelId) :
    ∃ allowance, resolveEffectiveOutputAllowance features model = .ok allowance ∧
      c.projectedCostUsd =
        calculateProjectedCost features.approximateInputTokens allowance.val model := by
  have hnodup := routeFeaturesWithSnapshot_nodup h
  obtain ⟨eligible', predictions, priced, helig, -, hpriced, -, hcand⟩ :=
    routeFeaturesWithSnapshot_eq_ok h
  cases heligible.symm.trans helig
  rw [hcand, map_modelId_snapshot] at hnodup
  rw [hcand] at hc
  obtain ⟨p, hp, rfl⟩ := List.mem_map.mp hc
  -- The model is priced to a candidate with its id, and `p` is the only one.
  obtain ⟨p', hp', hprice⟩ := List.Forall₂.exists_of_mem hpriced hmodel
  obtain ⟨hid', allowance, hres, hcost⟩ := price_eq_ok hprice
  obtain rfl : p = p' := List.inj_on_of_nodup_map hnodup hp hp' (hid.trans hid'.symm)
  exact ⟨allowance, hres, hcost⟩

/-- **The projected cost is an upper bound** of the cost of every completion within the estimated
input and the limit on the wire exactly when output is free, or no override that counts for the
category is below the request's limit. -/
theorem projected_bound_iff {provider : VercelGatewayProvider} {request : InferenceRequest}
    {category : RoutingCategory} {structuredOutputRequired : Bool} {body : GatewayPayload}
    (hfeatures : extract service.indicators request (some category.value) structuredOutputRequired =
      .ok features)
    (heligible : service.eligibleCandidates features models = .ok eligible)
    (hmodel : provider.model ∈ eligible)
    (hroute : service.routeFeaturesWithSnapshot features models threshold = .ok routing)
    {c : RoutingCandidateSnapshot} (hc : c ∈ routing.candidates)
    (hid : c.modelId = provider.model.modelId) (hbody : provider.payload request = .ok body) :
    (∀ inputs outputs, inputs ≤ approximateInputTokens request → outputs ≤ body.maxTokens →
        (calculateCost inputs outputs provider.model).toRat ≤ c.projectedCostUsd.toRat) ↔
      provider.model.outputCostPer1mTokens.toRat = 0 ∨
        ∀ n ∈ canonicalOverrides provider.model category, request.maxOutputTokens.val ≤ n.val := by
  obtain ⟨hcategory, hinput, hmax⟩ : features.category = some category ∧
      features.approximateInputTokens = approximateInputTokens request ∧
      features.maxOutputTokens = request.maxOutputTokens := by
    rw [extract, categoryOfHint_value] at hfeatures
    cases hfeatures
    exact ⟨rfl, rfl, rfl⟩
  obtain ⟨allowance, hres, hcost⟩ :=
    routeFeaturesWithSnapshot_priced hroute heligible hmodel hc hid
  obtain ⟨-, hlen, rfl⟩ := (resolveEffectiveOutputAllowance_eq_ok hcategory).mp hres
  rw [hcost, hinput, VercelGatewayProvider.maxTokens_payload hbody, calculateProjectedCost,
    calculateCost_bound_iff, hmax]
  refine or_congr_right ?_
  -- At most one override counts, and without one the request's own limit is the allowance.
  generalize canonicalOverrides provider.model category = overrides at hlen
  match overrides with
  | [] => simp
  | [n] => simp
  | _ :: _ :: _ => simp at hlen

/-! ## A cost above the projection -/

/-- A gateway model whose policy allows 100 tokens for questions. -/
def sampleProvider : VercelGatewayProvider where
  model :=
    { ModelConfig.sample with
      provider := ⟨"vercel", by decide, by decide⟩
      providerModelName := ⟨"openai/gpt-4.1-nano", by decide, by decide⟩
      inputCostPer1mTokens := ⟨⟨10, -2⟩, by decide⟩
      outputCostPer1mTokens := ⟨⟨40, -2⟩, by decide⟩
      outputTokenPolicy :=
        { OutputTokenPolicy.default with
          categoryOverrides := [⟨⟨"qa", by decide, by decide⟩, ⟨100, by decide⟩⟩]
          categories_nodup := by decide }
      native_is_google := by decide }
  apiKey := some "key"
  upstream := "openai"
  provider_vercel := rfl
  upstream_known := rfl

/-- A service whose predictor is certain of every model. -/
def sampleRouting : RoutingDecisionService where
  predict _ models := .ok (models.map fun m => ⟨m.modelId, .one⟩)
  indicators := ⟨fun _ => false, fun _ => 0, fun _ => 0⟩

/-- The routing of the sample request. -/
def sampleRouted : Except Exc RoutingResult :=
  sampleRouting.routeWithSnapshot .sample [sampleProvider.model] (.int 0) (some "qa") false

/-- Routing projects 100 output tokens, the gateway is sent 256, and an answer of that length costs
more than projected. -/
theorem cost_above_projection :
    sampleRouted.toOption.map (·.candidates.map (·.projectedCostUsd.toRat)) = some [401 / 10 ^ 7] ∧
      (sampleProvider.payload .sample).toOption.map (·.maxTokens) = some 256 ∧
      approximateInputTokens .sample = 1 ∧
      401 / 10 ^ 7 < (calculateCost 1 256 sampleProvider.model).toRat := by
  decide +kernel

/-- The condition decides the routing of the sample request. -/
theorem projected_bound_iff_sample :
    ∃ features routing c body,
      extract sampleRouting.indicators .sample (some "qa") false = .ok features ∧
      sampleRouting.routeFeaturesWithSnapshot features [sampleProvider.model] (.int 0) =
        .ok routing ∧ c ∈ routing.candidates ∧ sampleProvider.payload .sample = .ok body ∧
      ((∀ inputs outputs, inputs ≤ approximateInputTokens .sample → outputs ≤ body.maxTokens →
          (calculateCost inputs outputs sampleProvider.model).toRat ≤ c.projectedCostUsd.toRat) ↔
        sampleProvider.model.outputCostPer1mTokens.toRat = 0 ∨
          ∀ n ∈ canonicalOverrides sampleProvider.model .qa,
            InferenceRequest.sample.maxOutputTokens.val ≤ n.val) := by
  obtain ⟨routing, hrouted⟩ := Except.exists_eq_ok (x := sampleRouted) (by decide +kernel)
  obtain ⟨body, hbody⟩ := Except.exists_eq_ok (x := sampleProvider.payload .sample)
    (by decide +kernel)
  obtain ⟨features, hfeatures, hroute⟩ := Except.bind_eq_ok.mp hrouted
  have hids : sampleRouted.toOption.map (·.candidates.map (·.modelId)) =
      some [sampleProvider.model.modelId] := by decide +kernel
  rw [hrouted] at hids
  obtain ⟨c, hc⟩ := List.map_eq_singleton_iff.mp (Option.some.inj hids)
  have hmem : c ∈ routing.candidates := hc.1 ▸ .head _
  have hqa : extract sampleRouting.indicators .sample (some RoutingCategory.qa.value) false =
      .ok features := hfeatures
  exact ⟨features, routing, c, body, hfeatures, hroute, hmem, hbody,
    projected_bound_iff hqa rfl (.head _) hroute hmem hc.2 hbody⟩

end RoutingDecisionService

end RouteLLM
