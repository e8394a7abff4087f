import RouteLLM.Lib.AssocList
import RouteLLM.Routing.PolicyOrder
import RouteLLM.Routing.Service

/-!
# The outcome of the routing service

What `route_features_with_snapshot` makes of the eligible models and the predictions for them. It is
decided by their ids and the category (`refusal`): which errors are raised when, and otherwise what the
result records (`Sound`), whatever the order of the models and of the predictions
(`routeFeaturesWithSnapshot_outcome`).
-/

namespace RouteLLM

/-- The result of routing priced candidates. -/
def RoutingResult.of (priced : List CandidatePrediction) (decision : RoutingDecision) :
    RoutingResult :=
  ⟨decision, priced.map (RoutingDecisionService.snapshot decision)⟩

namespace RoutingDecisionService

/-- The eligible models and their predictions, as the service requires them: distinct ids, and one
prediction for each model. -/
structure Predicted (eligible : List ModelConfig)
    (predictions : List ModelAcceptabilityPrediction) : Prop where
  eligible_nodup : (eligible.map (·.modelId)).Nodup
  predictions_nodup : (predictions.map (·.modelId)).Nodup
  predicted_eligible : predictions.map (·.modelId) ⊆ eligible.map (·.modelId)
  eligible_predicted : eligible.map (·.modelId) ⊆ predictions.map (·.modelId)
  length_eq : (predictions.map (·.modelId)).length = (eligible.map (·.modelId)).length

variable {features : RoutingRequestFeatures} {eligible eligible' : List ModelConfig}
  {predictions predictions' : List ModelAcceptabilityPrediction}

/-- The requirements do not depend on the order. -/
theorem Predicted.perm (h : Predicted eligible predictions) (heligible : eligible'.Perm eligible)
    (hpredictions : predictions'.Perm predictions) : Predicted eligible' predictions' := by
  have hids := heligible.map (·.modelId)
  have hpredicted := hpredictions.map (·.modelId)
  refine ⟨hids.nodup_iff.mpr h.eligible_nodup, hpredicted.nodup_iff.mpr h.predictions_nodup, ?_, ?_, ?_⟩
  · exact fun id hid => hids.mem_iff.mpr (h.predicted_eligible (hpredicted.mem_iff.mp hid))
  · exact fun id hid => hpredicted.mem_iff.mpr (h.eligible_predicted (hids.mem_iff.mp hid))
  · rw [hpredicted.length_eq, h.length_eq, hids.length_eq]

/-- The service returns exactly the routed prices of predicted eligible models. -/
theorem routeFeaturesWithSnapshot_eq_ok_iff (service : RoutingDecisionService)
    {models : List ModelConfig} {value : ThresholdValue} {routing : RoutingResult}
    (heligible : service.eligibleCandidates features models = .ok eligible)
    (hpredict : service.predict features eligible = .ok predictions) :
    service.routeFeaturesWithSnapshot features models value = .ok routing ↔
      Predicted eligible predictions ∧ ∃ priced decision,
        List.Forall₂ (fun m c => price features predictions m = .ok c) eligible priced ∧
        CostAwareRoutingPolicy.route priced value = .ok decision ∧ routing = .of priced decision := by
  rw [routeFeaturesWithSnapshot, heligible, Except.ok_bind]
  constructor
  · intro h
    obtain ⟨hids, h⟩ := Except.guard_eq_ok.mp h
    rw [hpredict, Except.ok_bind] at h
    obtain ⟨hpredicted, h⟩ := Except.guard_eq_ok.mp h
    obtain ⟨hsame, h⟩ := Except.guard_eq_ok.mp h
    rw [not_not] at hids hpredicted hsame
    obtain ⟨priced, hpriced, h⟩ := Except.bind_eq_ok.mp h
    obtain ⟨decision, hroute, h⟩ := Except.bind_eq_ok.mp h
    cases h
    exact ⟨⟨hids, hpredicted, hsame.1, hsame.2.1, hsame.2.2⟩, priced, decision,
      List.mapM_eq_ok.mp hpriced, hroute, rfl⟩
  · rintro ⟨h, priced, decision, hpriced, hroute, rfl⟩
    refine Except.guard_eq_ok.mpr ⟨not_not.mpr h.eligible_nodup, ?_⟩
    rw [hpredict, Except.ok_bind]
    refine Except.guard_eq_ok.mpr ⟨not_not.mpr h.predictions_nodup, ?_⟩
    refine Except.guard_eq_ok.mpr
      ⟨not_not.mpr ⟨h.predicted_eligible, h.eligible_predicted, h.length_eq⟩, ?_⟩
    rw [List.mapM_eq_ok.mpr hpriced, Except.ok_bind, hroute]
    rfl

/-- Prices of reordered models by reordered predictions are reordered prices. -/
theorem price_perm {priced : List CandidatePrediction} (h : Predicted eligible predictions)
    (heligible : eligible'.Perm eligible) (hpredictions : predictions'.Perm predictions)
    (hpriced : List.Forall₂ (fun m c => price features predictions m = .ok c) eligible priced) :
    ∃ priced', List.Forall₂ (fun m c => price features predictions' m = .ok c) eligible' priced' ∧
      priced'.Perm priced := by
  have hprice : ∀ m, price features predictions' m = price features predictions m := by
    intro m
    rw [price, price, AssocList.find?_perm h.predictions_nodup hpredictions]
  obtain ⟨priced', hpriced', hperm⟩ := List.perm_comp_forall₂ heligible hpriced
  exact ⟨priced', hpriced'.imp fun m c hc => (hprice m).trans hc, hperm⟩

/-! ## Pricing -/

/-- A model whose output policy can be resolved for a category. -/
def Resolvable (category : RoutingCategory) (model : ModelConfig) : Prop :=
  KnownCategories model ∧ (canonicalOverrides model category).length ≤ 1

/-- The allowance of a model whose policy can be resolved. -/
theorem resolve_of_resolvable {category : RoutingCategory} {model : ModelConfig}
    (hcategory : features.category = some category) (h : Resolvable category model) :
    ∃ allowance, resolveEffectiveOutputAllowance features model = .ok allowance :=
  ⟨_, (resolveEffectiveOutputAllowance_eq_ok hcategory).mpr ⟨h.1, h.2, rfl⟩⟩

/-- Without a category no allowance is resolved. -/
theorem resolve_of_category_none {model : ModelConfig} (hcategory : features.category = none) :
    resolveEffectiveOutputAllowance features model =
      .error (.raised .missingRoutingCategoryError
        "quality prediction requires an explicit routing category") := by
  rw [resolveEffectiveOutputAllowance, hcategory]

/-- With a category only a policy that cannot be resolved raises, and it raises a `ValueError`. -/
theorem resolve_eq_error {category : RoutingCategory} {model : ModelConfig} {e : Exc}
    (hcategory : features.category = some category)
    (h : resolveEffectiveOutputAllowance features model = .error e) :
    e.cls = .valueError ∧ ¬ Resolvable category model := by
  constructor
  · rw [resolveEffectiveOutputAllowance, hcategory] at h
    rcases Except.bind_eq_error.mp h with hmap | ⟨canonical, -, h⟩
    · obtain ⟨item, -, hitem⟩ := List.exists_of_mapM_eq_error hmap
      rcases Except.bind_eq_error.mp hitem with hname | ⟨_, -, h⟩
      · unfold canonicalizeCategory at hname
        dsimp only at hname
        split at hname
        · cases hname
        · cases hname
          rfl
      · cases h
    · dsimp only at h
      split at h
      · cases h
        rfl
      · cases h
  · intro hres
    obtain ⟨allowance, hok⟩ := resolve_of_resolvable hcategory hres
    rw [hok] at h
    cases h

/-- The price of a model by its own prediction. -/
theorem price_of_mem {prediction : ModelAcceptabilityPrediction} {model : ModelConfig}
    (hnodup : (predictions.map (·.modelId)).Nodup) (hmem : prediction ∈ predictions)
    (hid : prediction.modelId = model.modelId) :
    price features predictions model = (resolveEffectiveOutputAllowance features model).map
      fun allowance =>
        { modelId := model.modelId
          predictedAcceptability := prediction.predictedAcceptability
          projectedCostUsd :=
            calculateProjectedCost features.approximateInputTokens allowance.val model } := by
  have hfind := AssocList.find?_of_nodup hnodup hmem
  rw [hid] at hfind
  rw [price, hfind]
  cases resolveEffectiveOutputAllowance features model <;> rfl

/-- An eligible model has its prediction. -/
theorem Predicted.exists_prediction (h : Predicted eligible predictions) {model : ModelConfig}
    (hmodel : model ∈ eligible) : ∃ prediction ∈ predictions, prediction.modelId = model.modelId := by
  obtain ⟨p, hp, hid⟩ := List.mem_map.mp (h.eligible_predicted (List.mem_map_of_mem hmodel))
  exact ⟨p, hp, hid⟩

/-! ## The result -/

/-- The snapshot entry of a model: its own probability and price, and whether it meets the threshold of
the decision. -/
structure EntryOf (features : RoutingRequestFeatures)
    (predictions : List ModelAcceptabilityPrediction) (decision : RoutingDecision)
    (model : ModelConfig) (entry : RoutingCandidateSnapshot) : Prop where
  modelId : entry.modelId = model.modelId
  probability : ∃ p ∈ predictions, p.modelId = model.modelId ∧
    entry.predictedAcceptability = p.predictedAcceptability
  price : ∃ allowance, resolveEffectiveOutputAllowance features model = .ok allowance ∧
    entry.projectedCostUsd =
      calculateProjectedCost features.approximateInputTokens allowance.val model
  qualifies : entry.qualifies = true ↔ decision.qualityThreshold ≤ entry.predictedAcceptability

/-- A result that records one entry for each eligible model, counts those that qualify, and selects one
of them that qualifies exactly when the decision is no fallback. -/
structure Sound (features : RoutingRequestFeatures) (eligible : List ModelConfig)
    (predictions : List ModelAcceptabilityPrediction) (routing : RoutingResult) : Prop where
  entries : List.Forall₂ (EntryOf features predictions routing.decision) eligible routing.candidates
  count : routing.decision.qualifyingCandidateCount = (routing.candidates.filter (·.qualifies)).length
  selected : ∃ entry ∈ routing.candidates,
    routing.decision.selectedModelId = entry.modelId ∧
    routing.decision.selectedPredictedAcceptability = entry.predictedAcceptability ∧
    routing.decision.selectedProjectedCostUsd = entry.projectedCostUsd ∧
    (entry.qualifies = true ↔ routing.decision.fallbackUsed = false)

section outcome
variable {service : RoutingDecisionService} {models : List ModelConfig} {value : ThresholdValue}
  {priced : List CandidatePrediction} {decision : RoutingDecision}

/-- The entries of priced models. -/
theorem entries_of_priced (hnodup : (predictions.map (·.modelId)).Nodup)
    (hpredicted : eligible.map (·.modelId) ⊆ predictions.map (·.modelId))
    (hpriced : List.Forall₂ (fun m c => price features predictions m = .ok c) eligible priced)
    (decision : RoutingDecision) :
    List.Forall₂ (EntryOf features predictions decision) eligible
      (priced.map (snapshot decision)) := by
  induction hpriced with
  | nil => exact .nil
  | @cons model c eligible priced hprice _ ih =>
    rw [List.map_cons, List.cons_subset] at hpredicted
    refine .cons ?_ (ih hpredicted.2)
    obtain ⟨p, hp, hid⟩ := List.mem_map.mp hpredicted.1
    rw [price_of_mem hnodup hp hid] at hprice
    obtain ⟨allowance, hallowance, rfl⟩ := Except.map_eq_ok.mp hprice
    exact ⟨rfl, ⟨p, hp, hid, rfl⟩, ⟨allowance, hallowance, rfl⟩, decide_eq_true_iff⟩

/-- What the service returns for predicted models is sound. -/
theorem sound_of_priced (h : Predicted eligible predictions)
    (hpriced : List.Forall₂ (fun m c => price features predictions m = .ok c) eligible priced)
    (hroute : CostAwareRoutingPolicy.route priced value = .ok decision) :
    Sound features eligible predictions (.of priced decision) := by
  obtain ⟨-, selected, hmem, hne, threshold, fallback, rfl, hmet, hnone⟩ :=
    CostAwareRoutingPolicy.route_eq_ok hroute
  refine ⟨entries_of_priced h.predictions_nodup h.eligible_predicted hpriced _, ?_, ?_⟩
  · rw [RoutingResult.of, List.filter_map, List.length_map]
    rfl
  · refine ⟨_, List.mem_map_of_mem hmem, rfl, rfl, rfl, ?_⟩
    show decide (threshold ≤ selected.predictedAcceptability) = true ↔ fallback = false
    rw [decide_eq_true_iff]
    cases fallback with
    | false => exact iff_of_true (hmet rfl) rfl
    | true => exact iff_of_false (hnone rfl selected hmem).not_ge (by decide)

/-! ## When it is refused -/

/-- The error of a request for these models and predictions: the ids repeat, or do not correspond, or
there are none, or the request has no category. -/
def refusal (eligible : List ModelConfig) (predictions : List ModelAcceptabilityPrediction)
    (category : Option RoutingCategory) : Option ExcClass :=
  if ¬ (eligible.map (·.modelId)).Nodup ∨ ¬ (predictions.map (·.modelId)).Nodup then
    some .duplicateCandidatePredictionError
  else if ¬ (predictions.map (·.modelId)).Perm (eligible.map (·.modelId)) then
    some .predictorInputCompatibilityError
  else if eligible = [] then some .noEligibleCandidatesError
  else if category = none then some .missingRoutingCategoryError
  else none

/-- Predictions of distinct ids correspond to the models exactly when their ids are a permutation. -/
theorem predicted_iff_perm : Predicted eligible predictions ↔
    (eligible.map (·.modelId)).Nodup ∧ (predictions.map (·.modelId)).Nodup ∧
      (predictions.map (·.modelId)).Perm (eligible.map (·.modelId)) := by
  constructor
  · intro h
    refine ⟨h.eligible_nodup, h.predictions_nodup, ?_⟩
    refine (List.perm_ext_iff_of_nodup h.predictions_nodup h.eligible_nodup).mpr fun id => ?_
    exact ⟨fun hid => h.predicted_eligible hid, fun hid => h.eligible_predicted hid⟩
  · rintro ⟨heligible, hpredictions, hperm⟩
    exact ⟨heligible, hpredictions, hperm.subset, hperm.symm.subset, hperm.length_eq⟩

/-- A request that is not refused is for predicted models, at least one, and has a category. -/
theorem refusal_eq_none {category : Option RoutingCategory} :
    refusal eligible predictions category = none ↔
      Predicted eligible predictions ∧ eligible ≠ [] ∧ ∃ c, category = some c := by
  rw [predicted_iff_perm, refusal]
  split_ifs with hids hperm hempty hcategory
  · refine iff_of_false not_false ?_
    rintro ⟨⟨h, h', -⟩, -⟩
    exact hids.elim (· h) (· h')
  · exact iff_of_false not_false fun h => h.2.1 hempty
  · refine iff_of_false not_false ?_
    rintro ⟨-, -, c, hc⟩
    rw [hcategory] at hc
    cases hc
  · push Not at hids
    exact iff_of_true rfl
      ⟨⟨hids.1, hids.2, hperm⟩, hempty, Option.ne_none_iff_exists'.mp hcategory⟩
  · exact iff_of_false not_false fun h => hperm h.1.2.2

theorem refusal_eq_duplicate {category : Option RoutingCategory} :
    refusal eligible predictions category = some .duplicateCandidatePredictionError ↔
      ¬ (eligible.map (·.modelId)).Nodup ∨ ¬ (predictions.map (·.modelId)).Nodup := by
  rw [refusal]
  split_ifs with hids hperm hempty hcategory
  · exact iff_of_true rfl hids
  all_goals exact iff_of_false (by simp) hids

theorem refusal_eq_incompatible {category : Option RoutingCategory} :
    refusal eligible predictions category = some .predictorInputCompatibilityError ↔
      ((eligible.map (·.modelId)).Nodup ∧ (predictions.map (·.modelId)).Nodup) ∧
        ¬ (predictions.map (·.modelId)).Perm (eligible.map (·.modelId)) := by
  rw [refusal]
  split_ifs with hids hperm hempty hcategory
  · refine iff_of_false (by simp) ?_
    rintro ⟨⟨h, h'⟩, -⟩
    exact hids.elim (· h) (· h')
  · exact iff_of_false (by simp) fun h => h.2 hperm
  · exact iff_of_false (by simp) fun h => h.2 hperm
  · exact iff_of_false (by simp) fun h => h.2 hperm
  · push Not at hids
    exact iff_of_true rfl ⟨hids, hperm⟩

theorem refusal_eq_noEligible {category : Option RoutingCategory} :
    refusal eligible predictions category = some .noEligibleCandidatesError ↔
      eligible = [] ∧ predictions = [] := by
  rw [refusal]
  split_ifs with hids hperm hempty hcategory
  · refine iff_of_false (by simp) ?_
    rintro ⟨rfl, rfl⟩
    exact hids.elim (· List.nodup_nil) (· List.nodup_nil)
  · subst hempty
    exact iff_of_true rfl ⟨rfl, List.map_eq_nil_iff.mp hperm.eq_nil⟩
  · exact iff_of_false (by simp) fun h => hempty h.1
  · exact iff_of_false (by simp) fun h => hempty h.1
  · refine iff_of_false (by simp) ?_
    rintro ⟨rfl, rfl⟩
    exact hperm (List.Perm.refl _)

theorem refusal_eq_missingCategory {category : Option RoutingCategory} :
    refusal eligible predictions category = some .missingRoutingCategoryError ↔
      Predicted eligible predictions ∧ eligible ≠ [] ∧ category = none := by
  rw [predicted_iff_perm, refusal]
  split_ifs with hids hperm hempty hcategory
  · refine iff_of_false (by simp) ?_
    rintro ⟨⟨h, h', -⟩, -⟩
    exact hids.elim (· h) (· h')
  · exact iff_of_false (by simp) fun h => h.2.1 hempty
  · push Not at hids
    exact iff_of_true rfl ⟨⟨hids.1, hids.2, hperm⟩, hempty, hcategory⟩
  · exact iff_of_false (by simp) fun h => hcategory h.2.2
  · exact iff_of_false (by simp) fun h => hperm h.1.2.2

/-- The service is given these models and these predictions. -/
structure Given (service : RoutingDecisionService) (features : RoutingRequestFeatures)
    (models eligible : List ModelConfig) (predictions : List ModelAcceptabilityPrediction) :
    Prop where
  eligible_eq : service.eligibleCandidates features models = .ok eligible
  predictions_eq : service.predict features eligible = .ok predictions

/-- What the service does with predicted models: price them and select. -/
theorem routeFeaturesWithSnapshot_of_predicted
    (h : Given service features models eligible predictions) (hp : Predicted eligible predictions) :
    service.routeFeaturesWithSnapshot features models value = do
      let priced ← eligible.mapM (price features predictions)
      let decision ← CostAwareRoutingPolicy.route priced value
      return .of priced decision := by
  rw [routeFeaturesWithSnapshot, h.eligible_eq, Except.ok_bind,
    if_neg (not_not.mpr hp.eligible_nodup), h.predictions_eq, Except.ok_bind,
    if_neg (not_not.mpr hp.predictions_nodup),
    if_neg (not_not.mpr ⟨hp.predicted_eligible, hp.eligible_predicted, hp.length_eq⟩)]
  rfl

/-- A refused request raises its error. -/
theorem raises_of_refusal (h : Given service features models eligible predictions) {cls : ExcClass}
    (hrefusal : refusal eligible predictions features.category = some cls) :
    ∃ message,
      service.routeFeaturesWithSnapshot features models value = .error (.raised cls message) := by
  rw [refusal] at hrefusal
  split_ifs at hrefusal with hids hperm hempty hcategory
  · obtain rfl := Option.some.inj hrefusal
    rw [routeFeaturesWithSnapshot, h.eligible_eq, Except.ok_bind]
    by_cases heligible : (eligible.map (·.modelId)).Nodup
    · have hpredictions := hids.resolve_left (not_not.mpr heligible)
      rw [if_neg (not_not.mpr heligible), h.predictions_eq, Except.ok_bind]
      exact ⟨_, if_pos hpredictions⟩
    · exact ⟨_, if_pos heligible⟩
  · obtain rfl := Option.some.inj hrefusal
    subst hempty
    have hp : Predicted [] predictions :=
      predicted_iff_perm.mpr ⟨List.nodup_nil, by push Not at hids; exact hids.2, hperm⟩
    rw [routeFeaturesWithSnapshot_of_predicted h hp]
    exact ⟨_, rfl⟩
  · obtain rfl := Option.some.inj hrefusal
    push Not at hids
    have hp : Predicted eligible predictions := predicted_iff_perm.mpr ⟨hids.1, hids.2, hperm⟩
    rw [routeFeaturesWithSnapshot_of_predicted h hp]
    cases eligible with
    | nil => exact absurd rfl hempty
    | cons model rest =>
      obtain ⟨p, hmem, hid⟩ := hp.exists_prediction (.head rest)
      have hprice : price features predictions model = _ := price_of_mem hids.2 hmem hid
      rw [resolve_of_category_none hcategory] at hprice
      rw [List.mapM_cons, hprice]
      exact ⟨_, rfl⟩
  · obtain rfl := Option.some.inj hrefusal
    push Not at hids
    rw [routeFeaturesWithSnapshot, h.eligible_eq, Except.ok_bind, if_neg (not_not.mpr hids.1),
      h.predictions_eq, Except.ok_bind, if_neg (not_not.mpr hids.2)]
    refine ⟨_, if_pos ?_⟩
    rintro ⟨hsub, hsub', hlen⟩
    exact hperm (predicted_iff_perm.mp ⟨hids.1, hids.2, hsub, hsub', hlen⟩).2.2

/-- Priced models keep their ids. -/
theorem map_modelId_of_priced
    (hpriced : List.Forall₂ (fun m c => price features predictions m = .ok c) eligible priced) :
    priced.map (·.modelId) = eligible.map (·.modelId) := by
  induction hpriced with
  | nil => rfl
  | cons hprice _ ih => rw [List.map_cons, List.map_cons, (price_eq_ok hprice).1, ih]

/-- A request that is not refused returns a sound result, unless a policy cannot be resolved: then it
raises a `ValueError`. -/
theorem sound_of_not_refused (h : Given service features models eligible predictions) {q : ℚ}
    (hvalue : value.rational? = some q) (h0 : 0 ≤ q) (h1 : q ≤ 1)
    (hrefusal : refusal eligible predictions features.category = none) :
    (∃ routing, service.routeFeaturesWithSnapshot features models value = .ok routing ∧
      Sound features eligible predictions routing) ∨
    ∃ e, service.routeFeaturesWithSnapshot features models value = .error e ∧ e.cls = .valueError ∧
      ∃ c, features.category = some c ∧ ∃ m ∈ eligible, ¬ Resolvable c m := by
  obtain ⟨hp, hne, category, hcategory⟩ := refusal_eq_none.mp hrefusal
  rw [routeFeaturesWithSnapshot_of_predicted h hp]
  cases hmap : eligible.mapM (price features predictions) with
  | error e =>
    refine .inr ⟨e, rfl, ?_⟩
    obtain ⟨model, hmodel, hprice⟩ := List.exists_of_mapM_eq_error hmap
    obtain ⟨p, hmem, hid⟩ := hp.exists_prediction hmodel
    rw [price_of_mem hp.predictions_nodup hmem hid] at hprice
    obtain ⟨hcls, hres⟩ := resolve_eq_error hcategory (Except.map_eq_error.mp hprice)
    exact ⟨hcls, category, hcategory, model, hmodel, hres⟩
  | ok priced =>
    have hpriced := List.mapM_eq_ok.mp hmap
    have hids := map_modelId_of_priced hpriced
    have hne' : priced ≠ [] := by
      rintro rfl
      exact hne (List.map_eq_nil_iff.mp hids.symm)
    have hnd : (priced.map (·.modelId)).Nodup := by
      rw [hids]
      exact hp.eligible_nodup
    obtain ⟨_, hvalid, -⟩ := validateQualityThreshold_of_exact hvalue h0 h1
    obtain ⟨_, _, -, hroute⟩ := CostAwareRoutingPolicy.route_eq_choose hne' hnd hvalid
    rw [Except.ok_bind, hroute]
    exact .inl ⟨_, rfl, sound_of_priced hp hpriced hroute⟩

/-- Exactly a refused request raises an error that is no `ValueError`. -/
theorem raises_iff_refusal (h : Given service features models eligible predictions) {q : ℚ}
    (hvalue : value.rational? = some q) (h0 : 0 ≤ q) (h1 : q ≤ 1) {cls : ExcClass}
    (hcls : cls ≠ .valueError) :
    (∃ message,
      service.routeFeaturesWithSnapshot features models value = .error (.raised cls message)) ↔
      refusal eligible predictions features.category = some cls := by
  constructor
  · rintro ⟨message, hraised⟩
    cases hrefusal : refusal eligible predictions features.category with
    | some cls' =>
      obtain ⟨message', hraised'⟩ : ∃ message', service.routeFeaturesWithSnapshot features models
          value = .error (.raised cls' message') := raises_of_refusal h hrefusal
      rw [hraised] at hraised'
      cases hraised'
      rfl
    | none =>
      rcases sound_of_not_refused h hvalue h0 h1 hrefusal with ⟨_, hok, -⟩ | ⟨e, he, hvalueError, -⟩
      · rw [hok] at hraised
        cases hraised
      · rw [hraised] at he
        cases he
        exact absurd hvalueError hcls
  · exact raises_of_refusal h

/-- The same decision for reordered models and predictions. -/
theorem decision_reordered {service' : RoutingDecisionService} {models' : List ModelConfig}
    {routing : RoutingResult} (h : Given service features models eligible predictions)
    (h' : Given service' features models' eligible' predictions')
    (heligible : eligible'.Perm eligible) (hpredictions : predictions'.Perm predictions)
    (hrouting : service.routeFeaturesWithSnapshot features models value = .ok routing) :
    ∃ routing', service'.routeFeaturesWithSnapshot features models' value = .ok routing' ∧
      routing'.decision = routing.decision := by
  obtain ⟨hp, priced, decision, hpriced, hroute, rfl⟩ :=
    (service.routeFeaturesWithSnapshot_eq_ok_iff h.eligible_eq h.predictions_eq).mp hrouting
  obtain ⟨priced', hpriced', hperm⟩ := price_perm hp heligible hpredictions hpriced
  refine ⟨.of priced' decision, ?_, rfl⟩
  exact (service'.routeFeaturesWithSnapshot_eq_ok_iff h'.eligible_eq h'.predictions_eq).mpr
    ⟨hp.perm heligible hpredictions, priced', decision, hpriced',
      CostAwareRoutingPolicy.route_perm hperm hroute, rfl⟩

/-- One certain prediction, for the sample model. -/
def samplePredictions : List ModelAcceptabilityPrediction := [⟨ModelConfig.sample.modelId, .one⟩]

/-- A service whose predictor returns the sample prediction. -/
def sampleService : RoutingDecisionService where
  predict _ _ := .ok samplePredictions
  indicators := .sample

theorem sampleService_given (features : RoutingRequestFeatures) :
    Given sampleService features [.sample] [.sample] samplePredictions := ⟨rfl, rfl⟩

theorem sample_predicted : Predicted [.sample] samplePredictions :=
  predicted_iff_perm.mpr ⟨List.nodup_singleton _, List.nodup_singleton _, List.Perm.refl _⟩

end outcome

end RoutingDecisionService

end RouteLLM
