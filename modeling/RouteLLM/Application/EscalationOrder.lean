import RouteLLM.Application.Adaptive
import RouteLLM.Lib.KeySort
import RouteLLM.Routing.Outcome

/-!
# The escalation order refines the routing policy

The policy selects by an argmin; the escalation sorts the other qualifying candidates. Both orders
are the one that `routeSequence` gives: route, take the selected candidate away, and route again,
until the policy falls back or has no candidate left. `escalation_refines_policy` assembles this with
what follows from it, for every set of priced candidates and every order of them.
-/

namespace RouteLLM

open KeySort

namespace CostAwareRoutingPolicy

variable {candidates : List CandidatePrediction} {value : ThresholdValue} {threshold : Probability}
  {decision : RoutingDecision}

/-- The candidates of other ids. -/
def remaining (candidates : List CandidatePrediction) (modelId : Identifier) :
    List CandidatePrediction :=
  candidates.filter (·.modelId ≠ modelId)

/-- Candidates of distinct ids have distinct cost keys. -/
theorem nodup_costKey (h : (candidates.map (·.modelId)).Nodup) : (candidates.map costKey).Nodup := by
  refine List.Nodup.of_map (fun k => (ofLex k).2) ?_
  have hids : (candidates.map costKey).map (fun k => (ofLex k).2) =
      (candidates.map (·.modelId)).map (·.value) := by
    rw [List.map_map, List.map_map]
    rfl
  rw [hids]
  exact h.map fun _ _ => Identifier.ext

/-- The selected candidate of a list is the cheapest of those that qualify. -/
theorem route_of_argmin (hthreshold : validateQualityThreshold value = .ok threshold)
    (hnodup : (candidates.map (·.modelId)).Nodup) {selected : CandidatePrediction}
    (hmin : (qualifying candidates threshold).argmin costKey = some selected) :
    ∃ hne, route candidates value = .ok (decisionOf candidates threshold selected false hne) := by
  have hne : candidates ≠ [] :=
    List.ne_nil_of_mem (List.mem_of_mem_filter (List.argmin_mem hmin))
  refine ⟨hne, ?_⟩
  rw [route, dif_neg hne, hthreshold, Except.ok_bind, if_neg (not_not.mpr hnodup), hmin]

/-- Where no candidate qualifies, a decision falls back. -/
theorem fallback_of_argmin_none (hthreshold : validateQualityThreshold value = .ok threshold)
    (hmin : (qualifying candidates threshold).argmin costKey = none)
    (hroute : route candidates value = .ok decision) : decision.fallbackUsed = true := by
  unfold route at hroute
  split at hroute
  · cases hroute
  rw [hthreshold, Except.ok_bind] at hroute
  obtain ⟨_, hroute⟩ := Except.guard_eq_ok.mp hroute
  rw [hmin] at hroute
  dsimp only at hroute
  split at hroute
  · cases hroute
    rfl
  · cases hroute

/-- A decision that does not fall back has selected the cheapest qualifying candidate. -/
theorem route_selected (hroute : route candidates value = .ok decision)
    (hfallback : decision.fallbackUsed = false) :
    (candidates.map (·.modelId)).Nodup ∧
      validateQualityThreshold value = .ok decision.qualityThreshold ∧
      ∃ selected, (qualifying candidates decision.qualityThreshold).argmin costKey = some selected ∧
        decision.selectedModelId = selected.modelId := by
  have hnodup := (route_eq_ok hroute).1
  obtain ⟨threshold, hthreshold⟩ : ∃ t, validateQualityThreshold value = .ok t := by
    unfold route at hroute
    split at hroute
    · cases hroute
    · obtain ⟨t, ht, _⟩ := Except.bind_eq_ok.mp hroute
      exact ⟨t, ht⟩
  cases hmin : (qualifying candidates threshold).argmin costKey with
  | none =>
    rw [fallback_of_argmin_none hthreshold hmin hroute] at hfallback
    cases hfallback
  | some selected =>
    obtain ⟨hne, hselected⟩ := route_of_argmin hthreshold hnodup hmin
    rw [hroute] at hselected
    cases hselected
    exact ⟨hnodup, hthreshold, selected, hmin, rfl⟩

/-- What is left of the list is shorter. -/
theorem length_remaining_lt (hroute : route candidates value = .ok decision) :
    (remaining candidates decision.selectedModelId).length < candidates.length := by
  obtain ⟨_, selected, hmem, _, _, _, rfl, _⟩ := route_eq_ok hroute
  exact List.length_filter_lt_length_iff_exists.mpr ⟨selected, hmem, by simp [decisionOf]⟩

/-- Repeated routing: the ids that the policy selects one after the other, until it falls back or no
candidate is left. -/
def routeSequence (value : ThresholdValue) (candidates : List CandidatePrediction) :
    List Identifier :=
  match _hroute : route candidates value with
  | .error _ => []
  | .ok decision =>
    if decision.fallbackUsed then []
    else
      decision.selectedModelId ::
        routeSequence value (remaining candidates decision.selectedModelId)
  termination_by candidates.length
  decreasing_by exact length_remaining_lt _hroute

/-- The qualifying candidates of what is left. -/
theorem qualifying_remaining (candidates : List CandidatePrediction) (threshold : Probability)
    (modelId : Identifier) :
    qualifying (remaining candidates modelId) threshold =
      (qualifying candidates threshold).filter (·.modelId ≠ modelId) := by
  rw [qualifying, qualifying, remaining, List.filter_comm]

/-- Repeated routing is sorting, by induction on the number of candidates. -/
theorem routeSequence_eq (hthreshold : validateQualityThreshold value = .ok threshold)
    (hnodup : (candidates.map (·.modelId)).Nodup) :
    routeSequence value candidates =
      (sortBy costKey (qualifying candidates threshold)).map (·.modelId) := by
  induction hlength : candidates.length using Nat.strong_induction_on generalizing candidates with
  | h n ih =>
    have hqualifying : ((qualifying candidates threshold).map (·.modelId)).Nodup :=
      hnodup.sublist (List.filter_sublist.map _)
    cases hmin : (qualifying candidates threshold).argmin costKey with
    | none =>
      rw [List.argmin_eq_none.mp hmin]
      rw [routeSequence]
      split
      · rfl
      · rename_i decision hroute
        rw [if_pos (fallback_of_argmin_none hthreshold hmin hroute)]
        rfl
    | some selected =>
      obtain ⟨hne, hroute⟩ := route_of_argmin hthreshold hnodup hmin
      have hremaining : ((remaining candidates selected.modelId).map (·.modelId)).Nodup :=
        hnodup.sublist (List.filter_sublist.map _)
      have hrest := ih _ (hlength ▸ length_remaining_lt hroute) hremaining rfl
      have hperm := perm_cons_filter_ne hqualifying (List.argmin_mem hmin)
      rw [sortBy_eq_cons (nodup_costKey hqualifying) hmin hperm, List.map_cons,
        ← qualifying_remaining, ← hrest, routeSequence]
      split
      · rename_i e herror
        rw [hroute] at herror
        cases herror
      · rename_i decision hok
        rw [hroute] at hok
        cases hok
        rfl

end CostAwareRoutingPolicy

/-! ## The order of the escalation -/

open CostAwareRoutingPolicy RoutingDecisionService

namespace AdaptiveInferenceService

/-- The ids to execute before they are truncated to the attempt limit. -/
def orderedIds (routing : RoutingResult) : List Identifier :=
  routing.decision.selectedModelId ::
    if routing.decision.fallbackUsed then [] else (otherCandidates routing).map (·.modelId)

/-- The ids to execute are a prefix of these. -/
theorem candidateIds_eq_take (routing : RoutingResult) (maxAttempts : ℕ) :
    candidateIds routing maxAttempts = (orderedIds routing).take maxAttempts := rfl

variable {priced : List CandidatePrediction} {value : ThresholdValue} {decision : RoutingDecision}

/-- The priced candidates of the other snapshots: the sorted other qualifying candidates. -/
theorem map_otherCandidates (priced : List CandidatePrediction) (decision : RoutingDecision) :
    (otherCandidates (.of priced decision)).map (·.modelId) =
      (sortBy costKey ((qualifying priced decision.qualityThreshold).filter
        (·.modelId ≠ decision.selectedModelId))).map (·.modelId) := by
  have hfilter : ((RoutingResult.of priced decision).candidates.filter fun c =>
      c.qualifies && c.modelId ≠ decision.selectedModelId).map (·.toCandidatePrediction) =
        (qualifying priced decision.qualityThreshold).filter
          (·.modelId ≠ decision.selectedModelId) := by
    rw [RoutingResult.of, List.filter_map, List.map_map, qualifying, List.filter_filter]
    refine Eq.trans (List.map_id _) (List.filter_congr fun c _ => ?_)
    exact Bool.and_comm _ _
  rw [← hfilter, ← map_sortBy, List.map_map]
  rfl

/-- Unless the decision falls back, the ids to execute are the sorted qualifying candidates. -/
theorem orderedIds_eq (hroute : route priced value = .ok decision)
    (hfallback : decision.fallbackUsed = false) :
    orderedIds (.of priced decision) =
      (sortBy costKey (qualifying priced decision.qualityThreshold)).map (·.modelId) := by
  obtain ⟨hnodup, _, selected, hmin, hselected⟩ := route_selected hroute hfallback
  have hqualifying : ((qualifying priced decision.qualityThreshold).map (·.modelId)).Nodup :=
    hnodup.sublist (List.filter_sublist.map _)
  have hperm := perm_cons_filter_ne hqualifying (List.argmin_mem hmin)
  have hothers := map_otherCandidates priced decision
  rw [hselected] at hothers
  rw [sortBy_eq_cons (nodup_costKey hqualifying) hmin hperm, List.map_cons, ← hothers, orderedIds,
    ← hselected]
  change _ :: (if decision.fallbackUsed = true then [] else _) = _
  rw [if_neg (by rw [hfallback]; exact Bool.false_ne_true)]
  rfl

/-- Reordered candidates are routed to the same candidate and executed in the same order. -/
theorem orderedIds_perm (hroute : route priced value = .ok decision)
    (hfallback : decision.fallbackUsed = false) {priced' : List CandidatePrediction}
    (hperm : priced'.Perm priced) :
    ∃ decision', route priced' value = .ok decision' ∧
      orderedIds (.of priced' decision') = orderedIds (.of priced decision) := by
  obtain ⟨hnodup, hthreshold, selected, hmin, _⟩ := route_selected hroute hfallback
  have hnodup' : (priced'.map (·.modelId)).Nodup := (hperm.map _).nodup_iff.mpr hnodup
  have hqualifying : (qualifying priced' decision.qualityThreshold).Perm
      (qualifying priced decision.qualityThreshold) := hperm.filter _
  have hkeys : ((qualifying priced decision.qualityThreshold).map costKey).Nodup :=
    nodup_costKey (hnodup.sublist (List.filter_sublist.map _))
  have hmem := hqualifying.mem_iff.mpr (List.argmin_mem hmin)
  obtain ⟨selected', hmin'⟩ : ∃ c, (qualifying priced' decision.qualityThreshold).argmin costKey =
      some c :=
    Option.ne_none_iff_exists'.mp fun h => List.ne_nil_of_mem hmem (List.argmin_eq_none.mp h)
  obtain ⟨hne, hroute'⟩ := route_of_argmin hthreshold hnodup' hmin'
  refine ⟨_, hroute', ?_⟩
  rw [orderedIds_eq hroute' rfl, orderedIds_eq hroute hfallback]
  exact congrArg (List.map _) (sortBy_congr hkeys hqualifying)

/-- Two routings of one request whose eligible models and predictions differ in their order only. -/
def Reordered (service service' : RoutingDecisionService) (features : RoutingRequestFeatures)
    (models models' : List ModelConfig) : Prop :=
  ∃ eligible eligible', service.eligibleCandidates features models = .ok eligible ∧
    service'.eligibleCandidates features models' = .ok eligible' ∧ eligible'.Perm eligible ∧
    ∃ predictions predictions', service.predict features eligible = .ok predictions ∧
      service'.predict features eligible' = .ok predictions' ∧ predictions'.Perm predictions

/-- The routing service executes the same ids in the same order, whatever the order of the candidates
and of the predictor's output. -/
theorem orderedIds_reordered {service service' : RoutingDecisionService}
    {features : RoutingRequestFeatures} {models models' : List ModelConfig} {routing : RoutingResult}
    (h : Reordered service service' features models models')
    (hrouting : service.routeFeaturesWithSnapshot features models value = .ok routing)
    (hfallback : routing.decision.fallbackUsed = false) :
    ∃ routing', service'.routeFeaturesWithSnapshot features models' value = .ok routing' ∧
      orderedIds routing' = orderedIds routing := by
  obtain ⟨eligible, eligible', helig, helig', heligible, predictions, predictions', hpred, hpred',
    hpredictions⟩ := h
  obtain ⟨hpredicted, priced, decision, hpriced, hroute, rfl⟩ :=
    (service.routeFeaturesWithSnapshot_eq_ok_iff helig hpred).mp hrouting
  obtain ⟨priced', hpriced', hperm⟩ := price_perm hpredicted heligible hpredictions hpriced
  obtain ⟨decision', hroute', hids⟩ := orderedIds_perm hroute hfallback hperm
  refine ⟨.of priced' decision', ?_, hids⟩
  exact (service'.routeFeaturesWithSnapshot_eq_ok_iff helig' hpred').mpr
    ⟨hpredicted.perm heligible hpredictions, priced', decision', hpriced', hroute', rfl⟩

/-- The escalation order refines the routing policy: for priced candidates that the policy routes
without a fallback, the ids to execute are those of repeated routing; they are the ids of the
qualifying candidates, each once, by nondecreasing cost; and no order of the candidates or of the
predictor's output changes them. -/
theorem escalation_refines_policy (hroute : route priced value = .ok decision)
    (hfallback : decision.fallbackUsed = false) :
    orderedIds (.of priced decision) = routeSequence value priced ∧
      (∀ maxAttempts, candidateIds (.of priced decision) maxAttempts =
        (routeSequence value priced).take maxAttempts) ∧
      (orderedIds (.of priced decision)).Nodup ∧
      (∃ chosen : List CandidatePrediction,
        chosen.map (·.modelId) = orderedIds (.of priced decision) ∧
        chosen.Perm (qualifying priced decision.qualityThreshold) ∧
        chosen.Pairwise fun a b => a.projectedCostUsd.toRat ≤ b.projectedCostUsd.toRat) ∧
      (∀ priced' : List CandidatePrediction, priced'.Perm priced →
        ∃ decision', route priced' value = .ok decision' ∧
          orderedIds (.of priced' decision') = orderedIds (.of priced decision)) ∧
      ∀ (service service' : RoutingDecisionService) (features : RoutingRequestFeatures)
        (models models' : List ModelConfig), Reordered service service' features models models' →
        service.routeFeaturesWithSnapshot features models value = .ok (.of priced decision) →
        ∃ routing', service'.routeFeaturesWithSnapshot features models' value = .ok routing' ∧
          orderedIds routing' = orderedIds (.of priced decision) := by
  obtain ⟨hnodup, hthreshold, _⟩ := route_selected hroute hfallback
  have hids := orderedIds_eq hroute hfallback
  have hsequence : orderedIds (.of priced decision) = routeSequence value priced := by
    rw [hids, routeSequence_eq hthreshold hnodup]
  refine ⟨hsequence, ?_, ?_, ?_, ?_, ?_⟩
  · intro maxAttempts
    rw [candidateIds_eq_take, hsequence]
  · rw [hids]
    have hperm := (sortBy_perm costKey (qualifying priced decision.qualityThreshold)).map (·.modelId)
    exact hperm.nodup_iff.mpr (hnodup.sublist (List.filter_sublist.map _))
  · refine ⟨_, hids.symm, sortBy_perm _ _, (sortBy_pairwise _ _).imp fun {a b} h => ?_⟩
    exact Prod.Lex.monotone_fst (costKey a) (costKey b) h
  · exact fun priced' hperm => orderedIds_perm hroute hfallback hperm
  · exact fun _ _ _ _ _ h hrouting => orderedIds_reordered h hrouting hfallback

/-- Two candidates that meet every threshold. -/
def pricedSample : List CandidatePrediction :=
  [⟨⟨ModelConfig.sample.modelId, .one⟩, .zero⟩,
    ⟨⟨⟨"large", by decide, by decide⟩, .one⟩, ⟨⟨1, 0⟩, Int.one_nonneg⟩⟩]

/-- Both sample candidates qualify: the free one comes first. -/
theorem escalation_refines_policy_sample :
    ∃ decision, route pricedSample (.int 1) = .ok decision ∧
      orderedIds (.of pricedSample decision) = routeSequence (.int 1) pricedSample := by
  obtain ⟨decision, hroute⟩ := Except.exists_eq_ok
    (show (route pricedSample (.int 1)).isOk = true by decide +kernel)
  refine ⟨decision, hroute, (escalation_refines_policy hroute ?_).1⟩
  have hfallback : ((route pricedSample (.int 1)).toOption.map (·.fallbackUsed)) = some false := by
    decide +kernel
  rw [hroute] at hfallback
  exact Option.some.inj hfallback

end AdaptiveInferenceService

end RouteLLM
