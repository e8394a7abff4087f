import RouteLLM.Routing.OfflineSelection
import RouteLLM.Routing.Outcome
import RouteLLM.Routing.PolicyOrder

/-!
# Offline evidence and production routing

The offline selections and the routing service over the same candidates, with the same probabilities,
threshold and allowances. Both are the choice by a cost and an id (`Choice.choose`); the costs are
rounded offline, prices first to floats and then everything to 50 digits, and are exact in production.
`offline_agrees_iff` says for which candidates the selections are always the same.
-/

namespace RouteLLM

/-- A candidate of a request with the row that the export recorded for it, under the allowance that
the service resolves. -/
structure Exported (features : RoutingRequestFeatures) where
  model : ModelConfig
  row : RoutingDatasetRow
  candidateId_eq : row.candidate.internalId = model.modelId
  inputCost_eq : row.candidate.inputCostPer1mTokens = model.inputCostPer1mTokens
  outputCost_eq : row.candidate.outputCostPer1mTokens = model.outputCostPer1mTokens
  inputTokens_eq : row.requestFeatures.approximateInputTokens = features.approximateInputTokens
  allowance_eq : resolveEffectiveOutputAllowance features model = .ok row.effectiveMaxOutputTokens

namespace Exported

variable {features : RoutingRequestFeatures}

/-- The id of the candidate. -/
def id (c : Exported features) : Identifier := c.model.modelId

/-- The training row of the candidate. -/
def mlRow (c : Exported features) : Except Exc MLExperimentRow := do
  let values ← featureValues c.row
  MLExperimentRow.ofFeatures c.row.candidate.internalId values

/-- The option of the candidate. -/
def option (c : Exported features) : CandidateOption where
  candidateId := c.row.candidate.internalId
  inputCostPer1mTokens := c.row.candidate.inputCostPer1mTokens
  outputCostPer1mTokens := c.row.candidate.outputCostPer1mTokens
  effectiveMaxOutputTokens := c.row.effectiveMaxOutputTokens

/-! ## The three orders -/

/-- The exact projected cost. -/
def exactCost (c : Exported features) : ℚ :=
  (features.approximateInputTokens * c.model.inputCostPer1mTokens.toRat +
    c.row.effectiveMaxOutputTokens.val * c.model.outputCostPer1mTokens.toRat) / 10 ^ 6

/-- The projected cost of 50 digits. -/
def roundedCost (c : Exported features) : Decimal :=
  costOfFifty (.ofInt features.approximateInputTokens) c.model.inputCostPer1mTokens.dec
    (.ofInt c.row.effectiveMaxOutputTokens.val) c.model.outputCostPer1mTokens.dec

/-- A number after the round trip through a float of its value. -/
def reread (q : ℚ) : Decimal := ((Binary64.ofRat? q).map Binary64.shortest).getD (.ofInt 0)

/-- The projected cost of 50 digits of the numbers that were floats. -/
def rereadCost (c : Exported features) : Decimal :=
  costOfFifty (reread features.approximateInputTokens) (reread c.model.inputCostPer1mTokens.toRat)
    (reread c.row.effectiveMaxOutputTokens.val) (reread c.model.outputCostPer1mTokens.toRat)

/-- The order by a cost and the id. -/
def keyOf (cost : Exported features → ℚ) (c : Exported features) : ℚ ×ₗ String :=
  toLex (cost c, c.id.value)

/-- Rounding leaves the two candidates in the order of their exact costs and ids. -/
def OrderKept (a b : Exported features) : Prop :=
  (keyOf exactCost a ≤ keyOf exactCost b ↔
      keyOf (·.rereadCost.toRat) a ≤ keyOf (·.rereadCost.toRat) b) ∧
    (keyOf exactCost a ≤ keyOf exactCost b ↔
      keyOf (·.roundedCost.toRat) a ≤ keyOf (·.roundedCost.toRat) b)

/-- The numbers of the row are in the range of the floats. -/
structure InFloatRange (c : Exported features) : Prop where
  counts : ∀ n ∈ [c.row.requestFeatures.promptCharacters,
      c.row.requestFeatures.approximateInputTokens, c.row.requestFeatures.maxOutputTokens.val,
      c.row.requestFeatures.constraintIndicatorCount,
      c.row.requestFeatures.reasoningIndicatorCount, c.row.candidate.contextWindow.val,
      c.row.effectiveMaxOutputTokens.val], (Binary64.ofRat? (n : ℚ)).isSome
  inputCost : (Binary64.ofRat? c.model.inputCostPer1mTokens.toRat).isSome
  outputCost : (Binary64.ofRat? c.model.outputCostPer1mTokens.toRat).isSome

/-! ## The training row -/

/-- A count in the range of the floats is converted and reread. -/
theorem floatOfInt_of_isSome {n : ℕ} (h : (Binary64.ofRat? (n : ℚ)).isSome) :
    ∃ x : Binary64, floatOfInt n = .ok (.finite x) ∧ x.shortest = reread n := by
  obtain ⟨x, hx⟩ := Option.isSome_iff_exists.mp h
  refine ⟨x, ?_, ?_⟩
  · rw [floatOfInt_eq_ok, PyFloat.ofInt?_eq_some]
    exact ⟨x, by rwa [Int.cast_natCast], rfl⟩
  · rw [reread, hx]
    rfl

/-- A count that is converted is in the range of the floats. -/
theorem isSome_of_floatOfInt {n : ℕ} {x : PyFloat} (h : floatOfInt n = .ok x) :
    (Binary64.ofRat? (n : ℚ)).isSome := by
  obtain ⟨b, hb, -⟩ := PyFloat.ofInt?_eq_some.mp (floatOfInt_eq_ok.mp h)
  rw [Int.cast_natCast] at hb
  exact Option.isSome_iff_exists.mpr ⟨b, hb⟩

/-- A price in the range of the floats is converted and reread. -/
theorem ofDecimal_of_isSome {d : Decimal} (h : (Binary64.ofRat? d.toRat).isSome) :
    (PyFloat.ofDecimal d).reread = .finite (reread d.toRat) := by
  obtain ⟨x, hx⟩ := Option.isSome_iff_exists.mp h
  rw [PyFloat.ofDecimal_eq_finite.mpr hx, reread, hx]
  rfl

/-- The row of a candidate in range, and its projected cost. -/
theorem mlRow_of_inRange {c : Exported features} (h : c.InFloatRange) :
    ∃ row, c.mlRow = .ok row ∧ row.candidateId = c.id ∧
      row.projectedCostUsd = .ok (.finite c.rereadCost) := by
  have hcounts := h.counts
  simp only [List.mem_cons, List.not_mem_nil, or_false, forall_eq_or_imp, forall_eq] at hcounts
  obtain ⟨hprompt, hinput, hmax, hconstraint, hreasoning, hwindow, hallowance⟩ := hcounts
  obtain ⟨prompt, hprompt, -⟩ := floatOfInt_of_isSome hprompt
  obtain ⟨input, hinput, hinputs⟩ := floatOfInt_of_isSome hinput
  obtain ⟨max, hmax, -⟩ := floatOfInt_of_isSome hmax
  obtain ⟨constraint, hconstraint, -⟩ := floatOfInt_of_isSome hconstraint
  obtain ⟨reasoning, hreasoning, -⟩ := floatOfInt_of_isSome hreasoning
  obtain ⟨window, hwindow, -⟩ := floatOfInt_of_isSome hwindow
  obtain ⟨allowance, hallowance, hallowances⟩ := floatOfInt_of_isSome hallowance
  have hp := ofDecimal_of_isSome h.inputCost
  have hq := ofDecimal_of_isSome h.outputCost
  rw [c.inputTokens_eq] at hinputs
  simp only [mlRow, featureValues, hprompt, hinput, hmax, hconstraint, hreasoning, hwindow,
    hallowance, Except.ok_bind, pure_bind, MLExperimentRow.ofFeatures, dite_true]
  refine ⟨_, rfl, c.candidateId_eq, ?_⟩
  simp only [MLExperimentRow.projectedCostUsd, c.inputCost_eq, c.outputCost_eq]
  rw [rereadProduct, rereadProduct, PyFloat.reread, PyFloat.reread, hinputs, hallowances, hp, hq]
  rfl

/-- A candidate whose row has a finite projected cost is in range. -/
theorem inRange_of_finite {c : Exported features} {row : MLExperimentRow} {d : Decimal}
    (hrow : c.mlRow = .ok row) (hcost : row.projectedCostUsd = .ok (.finite d)) : c.InFloatRange := by
  obtain ⟨values, hvalues, hrow⟩ := Except.bind_eq_ok.mp hrow
  simp only [featureValues, Except.bind_eq_ok, Except.pure_eq_ok] at hvalues
  obtain ⟨prompt, hprompt, input, hinput, max, hmax, constraint, hconstraint, reasoning, hreasoning,
    window, hwindow, allowance, hallowance, rfl⟩ := hvalues
  rw [MLExperimentRow.ofFeatures, dif_pos rfl] at hrow
  cases hrow
  obtain ⟨⟨p, hp⟩, q, hq⟩ := MLExperimentRow.finite_of_projectedCostUsd hcost
  refine ⟨?_, c.inputCost_eq ▸ PyFloat.isSome_of_reread hp,
    c.outputCost_eq ▸ PyFloat.isSome_of_reread hq⟩
  simp only [List.mem_cons, List.not_mem_nil, or_false, forall_eq_or_imp, forall_eq]
  exact ⟨isSome_of_floatOfInt hprompt, isSome_of_floatOfInt hinput, isSome_of_floatOfInt hmax,
    isSome_of_floatOfInt hconstraint, isSome_of_floatOfInt hreasoning,
    isSome_of_floatOfInt hwindow, isSome_of_floatOfInt hallowance⟩

/-! ## The choice by a cost -/

section
variable (cost : Exported features → ℚ) (probability : Identifier → Probability)
  (threshold : Probability)

/-- The order of the fallback by a cost. -/
def fallbackOf (c : Exported features) : ℚ ×ₗ (ℚ ×ₗ String) :=
  toLex (-(probability c.id).float.val, keyOf cost c)

/-- The choice by a cost, with whether it fell back. -/
def pick (candidates : List (Exported features)) : Option (Exported features × Bool) :=
  Choice.choose (keyOf cost) (fallbackOf cost probability)
    (fun c => threshold ≤ probability c.id) candidates

end

variable {candidates : List (Exported features)} {cost cost' : Exported features → ℚ}
  {probability : Identifier → Probability} {threshold : Probability}

/-- The id tells the candidates apart. -/
theorem untied_keyOf (hnd : (candidates.map id).Nodup) (cost : Exported features → ℚ) :
    Choice.Untied (keyOf cost) candidates := by
  intro a ha b hb hkey
  have hid : a.id.value = b.id.value := congrArg (fun k => (ofLex k).2) hkey
  exact List.inj_on_of_nodup_map hnd ha hb (Identifier.ext hid)

theorem untied_fallbackOf (hnd : (candidates.map id).Nodup) (cost : Exported features → ℚ)
    (probability : Identifier → Probability) :
    Choice.Untied (fallbackOf cost probability) candidates := by
  intro a ha b hb hkey
  have hcost : keyOf cost a = keyOf cost b := congrArg (fun k => (ofLex k).2) hkey
  exact untied_keyOf hnd cost a ha b hb hcost

/-- The order of the fallback is that of the costs where the probabilities are equal. -/
theorem sameOrder_fallbackOf (h : Choice.SameOrder (keyOf cost) (keyOf cost') candidates) :
    Choice.SameOrder (fallbackOf cost probability) (fallbackOf cost' probability) candidates := by
  intro a ha b hb
  rw [fallbackOf, fallbackOf, fallbackOf, fallbackOf, Prod.Lex.toLex_le_toLex,
    Prod.Lex.toLex_le_toLex]
  exact or_congr_right (and_congr_right fun _ => h a ha b hb)

/-- Costs that order the candidates alike pick alike. -/
theorem pick_congr (hnd : (candidates.map id).Nodup)
    (h : Choice.SameOrder (keyOf cost) (keyOf cost') candidates) :
    pick cost probability threshold candidates = pick cost' probability threshold candidates :=
  Choice.choose_congr (untied_keyOf hnd cost) (untied_fallbackOf hnd cost probability) h
    (sameOrder_fallbackOf h) fun _ _ => Iff.rfl

/-- Where every candidate qualifies, the pick is the least by the cost and the id. -/
theorem least_of_pick (hnd : (candidates.map id).Nodup) (hqualifies : ∀ id, threshold ≤ probability id)
    {c : Exported features} {fallback : Bool}
    (h : pick cost probability threshold candidates = some (c, fallback)) :
    fallback = false ∧ c ∈ candidates ∧ ∀ b ∈ candidates, keyOf cost c ≤ keyOf cost b := by
  have huntied := untied_keyOf hnd cost
  have hfallback := untied_fallbackOf hnd cost probability
  have hfirst : fallback = false := (Choice.choose_first_iff huntied hfallback h).mpr
    ⟨c, Choice.mem_of_choose huntied hfallback h, hqualifies _⟩
  subst hfirst
  obtain ⟨hmem, -, hle⟩ := (Choice.choose_eq_first huntied).mp h
  exact ⟨rfl, hmem, fun b hb => hle b hb (hqualifies _)⟩

/-- Two candidates that are picked alike by two costs are ordered alike by them. -/
theorem key_le_iff_of_pick {a b c c' : Exported features} {fallback fallback' : Bool}
    (hnd : ([a, b].map id).Nodup) (hqualifies : ∀ id, threshold ≤ probability id)
    (h : pick cost probability threshold [a, b] = some (c, fallback))
    (h' : pick cost' probability threshold [a, b] = some (c', fallback')) (hid : c'.id = c.id) :
    keyOf cost a ≤ keyOf cost b ↔ keyOf cost' a ≤ keyOf cost' b := by
  obtain ⟨-, hmem, hle⟩ := least_of_pick hnd hqualifies h
  obtain ⟨-, hmem', hle'⟩ := least_of_pick hnd hqualifies h'
  have hsame : c' = c := List.inj_on_of_nodup_map hnd hmem' hmem hid
  subst hsame
  have hne : a ≠ b := by
    rintro rfl
    exact absurd hnd (by simp)
  rcases List.mem_pair.mp hmem with rfl | rfl
  · exact iff_of_true (hle b (by simp)) (hle' b (by simp))
  · -- The second one is picked, so that it is below the first one by both.
    have hlt : ¬ keyOf cost a ≤ keyOf cost c' := fun hac =>
      hne (untied_keyOf hnd cost a (by simp) c' (by simp) (le_antisymm hac (hle a (by simp))))
    have hlt' : ¬ keyOf cost' a ≤ keyOf cost' c' := fun hac =>
      hne (untied_keyOf hnd cost' a (by simp) c' (by simp) (le_antisymm hac (hle' a (by simp))))
    exact iff_of_false hlt hlt'

variable (threshold) in
/-- The policy decides by the choice. -/
theorem route_eq_pick {prediction : Exported features → CandidatePrediction}
    (hid : ∀ c, (prediction c).modelId = c.id)
    (hprobability : ∀ c, (prediction c).predictedAcceptability = probability c.id)
    (hcost : ∀ c, (prediction c).projectedCostUsd.toRat = cost c) (hne : candidates ≠ [])
    (hnd : (candidates.map id).Nodup) :
    ∃ c decision, pick cost probability threshold candidates = some (c, decision.fallbackUsed) ∧
      CostAwareRoutingPolicy.route (candidates.map prediction) (.float (.finite threshold.float)) =
        .ok decision ∧ decision.selectedModelId = c.id := by
  have hids : ((candidates.map prediction).map (·.modelId)).Nodup := by
    rw [List.map_map, show ((·.modelId) ∘ prediction) = id from funext hid]
    exact hnd
  have hexact : (ThresholdValue.float (.finite threshold.float)).rational? =
      some threshold.float.val := rfl
  obtain ⟨accepted, hvalid, hval⟩ :=
    validateQualityThreshold_of_exact hexact threshold.nonneg threshold.le_one
  have haccepted : accepted = threshold :=
    Probability.float_injective (Binary64.ext (hval.trans threshold.float.round_val))
  rw [haccepted] at hvalid
  have hkey : CostAwareRoutingPolicy.costKey ∘ prediction = keyOf cost := by
    funext c
    rw [Function.comp_apply, CostAwareRoutingPolicy.costKey, hcost, hid]
    rfl
  have hfallback : CostAwareRoutingPolicy.fallbackKey ∘ prediction = fallbackOf cost probability := by
    funext c
    rw [Function.comp_apply, CostAwareRoutingPolicy.fallbackKey, hprobability]
    exact congrArg (fun k => toLex (_, k)) (congrFun hkey c)
  have hne' : candidates.map prediction ≠ [] := fun h => hne (List.map_eq_nil_iff.mp h)
  obtain ⟨selected, fallback, hchosen, hroute⟩ :=
    CostAwareRoutingPolicy.route_eq_choose hne' hids hvalid
  rw [CostAwareRoutingPolicy.chosen, Choice.choose_map, hkey, hfallback] at hchosen
  simp only [hprobability] at hchosen
  obtain ⟨⟨c, second⟩, hpick, heq⟩ := Option.map_eq_some_iff.mp hchosen
  cases heq
  exact ⟨c, CostAwareRoutingPolicy.decisionOf (candidates.map prediction) threshold (prediction c)
    second hne', hpick, hroute, hid c⟩

end Exported

/-! ## The selections are choices -/

/-- The service whose predictor assigns the given probabilities. -/
def assigning (indicators : TextIndicators) (probability : Identifier → Probability) :
    RoutingDecisionService where
  predict _ models := .ok (models.map fun model => ⟨model.modelId, probability model.modelId⟩)
  indicators

namespace Exported

variable {features : RoutingRequestFeatures} {candidates : List (Exported features)}
  {indicators : TextIndicators} {probability : Identifier → Probability} {threshold : Probability}

/-- The prediction that the service prices for a candidate. -/
def predictionOf (probability : Identifier → Probability) (c : Exported features) :
    CandidatePrediction where
  modelId := c.id
  predictedAcceptability := probability c.id
  projectedCostUsd := calculateProjectedCost features.approximateInputTokens
    c.row.effectiveMaxOutputTokens.val c.model

variable (probability) in
/-- The service predicts what is assigned. -/
theorem predicted_assigned (hnd : (candidates.map id).Nodup) :
    RoutingDecisionService.Predicted (candidates.map (·.model))
      ((candidates.map (·.model)).map fun model => ⟨model.modelId, probability model.modelId⟩) := by
  have hids : (candidates.map (·.model)).map (·.modelId) = candidates.map id := by
    rw [List.map_map]
    rfl
  have hpredicted : ((candidates.map (·.model)).map fun model =>
      (⟨model.modelId, probability model.modelId⟩ : ModelAcceptabilityPrediction)).map (·.modelId) =
        candidates.map id := by
    rw [List.map_map]
    exact hids
  refine ⟨?_, ?_, ?_, ?_, ?_⟩
  · rw [hids]
    exact hnd
  · rw [hpredicted]
    exact hnd
  · rw [hpredicted, hids]
    exact List.Subset.refl _
  · rw [hpredicted, hids]
    exact List.Subset.refl _
  · rw [hpredicted, hids]

variable (indicators probability threshold) in
/-- The service picks by the exact cost. -/
theorem routed_eq_pick (hne : candidates ≠ []) (hnd : (candidates.map id).Nodup) :
    ∃ c decision,
      pick exactCost probability threshold candidates = some (c, decision.fallbackUsed) ∧
      ((assigning indicators probability).routeFeaturesWithSnapshot features
        (candidates.map (·.model)) (.float (.finite threshold.float))).map (·.decision) =
          .ok decision ∧ decision.selectedModelId = c.id := by
  have hcost (c : Exported features) :
      (predictionOf probability c).projectedCostUsd.toRat = exactCost c :=
    toRat_calculateCost _ _ c.model
  obtain ⟨c, decision, hpick, hroute, hid⟩ :=
    route_eq_pick threshold (fun _ => rfl) (fun _ => rfl) hcost hne hnd
  refine ⟨c, decision, hpick, ?_, hid⟩
  have hpredicted := predicted_assigned probability hnd
  have hprice : List.Forall₂ (fun m c => RoutingDecisionService.price features
      ((candidates.map (·.model)).map fun model => ⟨model.modelId, probability model.modelId⟩) m =
        .ok c) (candidates.map (·.model)) (candidates.map (predictionOf probability)) := by
    rw [List.forall₂_map_left_iff, List.forall₂_map_right_iff, List.forall₂_same]
    intro c hc
    rw [RoutingDecisionService.price_of_mem hpredicted.predictions_nodup
      (List.mem_map_of_mem (List.mem_map_of_mem hc)) rfl, c.allowance_eq]
    rfl
  rw [((assigning indicators probability).routeFeaturesWithSnapshot_eq_ok_iff rfl rfl).mpr
    ⟨hpredicted, _, decision, hprice, hroute, rfl⟩]
  rfl

/-- A row with the probability of its candidate. -/
def recordOf (probability : Identifier → Probability) (row : MLExperimentRow) : OutOfFoldRecord :=
  ⟨row, probability row.candidateId⟩

/-- The rows of candidates in range. -/
theorem exists_rows (hrange : ∀ c ∈ candidates, c.InFloatRange) :
    ∃ rows, candidates.mapM mlRow = .ok rows ∧
      List.Forall₂ (fun c row => row.candidateId = c.id ∧
        row.projectedCostUsd = .ok (.finite c.rereadCost)) candidates rows := by
  induction candidates with
  | nil => exact ⟨[], rfl, .nil⟩
  | cons c rest ih =>
    obtain ⟨row, hrow, hspec⟩ := mlRow_of_inRange (hrange c (.head _))
    obtain ⟨rows, hrows, hrest⟩ := ih fun d hd => hrange d (.tail _ hd)
    exact ⟨row :: rows, List.mapM_eq_ok.mpr (.cons hrow (List.mapM_eq_ok.mp hrows)),
      .cons hspec hrest⟩

/-- The record of a candidate and its row with the projected cost. -/
def itemOf (probability : Identifier → Probability) (pair : Exported features × MLExperimentRow) :
    OutOfFoldRecord × ExtDecimal :=
  (recordOf probability pair.2, .finite pair.1.rereadCost)

/-- An infinite cost aside, the keys of the records are those of the candidates. -/
theorem costKey_le_iff {p q : Exported features × MLExperimentRow}
    (hp : p.2.candidateId = p.1.id) (hq : q.2.candidateId = q.1.id) :
    keyOf (·.rereadCost.toRat) p.1 ≤ keyOf (·.rereadCost.toRat) q.1 ↔
      OutOfFoldRecord.costKey (itemOf probability p) ≤
        OutOfFoldRecord.costKey (itemOf probability q) := by
  simp only [keyOf, OutOfFoldRecord.costKey, itemOf, recordOf, ExtDecimal.value, hp, hq,
    Prod.Lex.toLex_le_toLex, WithTop.coe_lt_coe, WithTop.coe_inj]

/-- The selection from rows picks by the reread cost. -/
theorem selected_eq_pick {rows : List MLExperimentRow} {c : Exported features} {fallback : Bool}
    (hnd : (candidates.map id).Nodup)
    (hrows : List.Forall₂ (fun c row => row.candidateId = c.id ∧
      row.projectedCostUsd = .ok (.finite c.rereadCost)) candidates rows)
    (h : pick (·.rereadCost.toRat) probability threshold candidates = some (c, fallback)) :
    (selectCostAwareCandidate (rows.map (recordOf probability)) threshold).map
      (fun selection => (selection.1.row.candidateId, selection.2)) = .ok (c.id, fallback) := by
  obtain ⟨pairs, rfl, rfl, hpairs⟩ := hrows.exists_pairs
  have hitems : ((pairs.map Prod.snd).map (recordOf probability)).mapM OutOfFoldRecord.priced =
      .ok (pairs.map (itemOf probability)) := by
    rw [List.mapM_eq_ok, List.map_map, List.forall₂_map_left_iff, List.forall₂_map_right_iff,
      List.forall₂_same]
    intro pair hpair
    show OutOfFoldRecord.priced (recordOf probability pair.2) = .ok (itemOf probability pair)
    rw [OutOfFoldRecord.priced, recordOf, (hpairs pair hpair).2]
    rfl
  rw [pick, Choice.choose_map] at h
  obtain ⟨⟨pair, second⟩, hchosen, heq⟩ := Option.map_eq_some_iff.mp h
  cases heq
  have huntied {β : Type} {key : Exported features → β}
      (hkey : Choice.Untied key (pairs.map Prod.fst)) : Choice.Untied (key ∘ Prod.fst) pairs := by
    intro p hp q hq heq
    have hfst := hkey _ (List.mem_map_of_mem hp) _ (List.mem_map_of_mem hq) heq
    rw [List.map_map] at hnd
    exact List.inj_on_of_nodup_map hnd hp hq (congrArg id hfst)
  have hprobability : ∀ p ∈ pairs,
      (itemOf probability p).1.predictedProbability = probability p.1.id :=
    fun p hp => congrArg probability (hpairs p hp).1
  have hcost : Choice.SameOrder (keyOf (·.rereadCost.toRat) ∘ Prod.fst)
      (OutOfFoldRecord.costKey ∘ itemOf probability) pairs :=
    fun p hp q hq => costKey_le_iff (hpairs p hp).1 (hpairs q hq).1
  have hfallback : Choice.SameOrder (fallbackOf (·.rereadCost.toRat) probability ∘ Prod.fst)
      (OutOfFoldRecord.fallbackKey ∘ itemOf probability) pairs := by
    intro p hp q hq
    rw [Function.comp_apply, Function.comp_apply, Function.comp_apply, Function.comp_apply,
      fallbackOf, fallbackOf, OutOfFoldRecord.fallbackKey, OutOfFoldRecord.fallbackKey,
      hprobability p hp, hprobability q hq, Prod.Lex.toLex_le_toLex, Prod.Lex.toLex_le_toLex]
    exact or_congr_right (and_congr_right fun _ => hcost p hp q hq)
  have hqualifies : ∀ p ∈ pairs, threshold ≤ probability p.1.id ↔
      threshold ≤ (itemOf probability p).1.predictedProbability := by
    intro p hp
    rw [hprobability p hp]
  rw [Choice.choose_congr (huntied (untied_keyOf hnd _)) (huntied (untied_fallbackOf hnd _ _)) hcost
    hfallback hqualifies] at hchosen
  have hitem : Choice.choose OutOfFoldRecord.costKey OutOfFoldRecord.fallbackKey
      (threshold ≤ ·.1.predictedProbability) (pairs.map (itemOf probability)) =
        some (itemOf probability pair, second) := by
    rw [Choice.choose_map, hchosen]
    rfl
  have hmem : pair ∈ pairs := Choice.mem_of_choose
    (hcost.untied (huntied (untied_keyOf hnd _)))
    (hfallback.untied (huntied (untied_fallbackOf hnd _ _))) hchosen
  rw [selectCostAwareCandidate_eq_choose hitems hitem]
  show Except.ok (pair.2.candidateId, second) = .ok (pair.1.id, second)
  rw [(hpairs pair hmem).1]

/-- A number that is not negative is reread without a sign. -/
theorem reread_nonneg {q : ℚ} (h : 0 ≤ q) : 0 ≤ (reread q).coeff := by
  rw [reread]
  cases hx : Binary64.ofRat? q with
  | none => exact le_rfl
  | some x =>
    refine Binary64.shortest_nonneg ?_
    rw [Binary64.val_of_ofRat? hx]
    exact Binary64.round_nonneg h

theorem rereadCost_nonneg (c : Exported features) : 0 ≤ c.rereadCost.coeff :=
  costOfFifty_nonneg (reread_nonneg (Nat.cast_nonneg _)) (reread_nonneg (Money.toRat_nonneg _))
    (reread_nonneg (Nat.cast_nonneg _)) (reread_nonneg (Money.toRat_nonneg _))

/-- The prediction that the offline routing hands to the policy. -/
def offlinePredictionOf (probability : Identifier → Probability) (c : Exported features) :
    CandidatePrediction where
  modelId := c.id
  predictedAcceptability := probability c.id
  projectedCostUsd := ⟨c.rereadCost, c.rereadCost_nonneg⟩

variable (probability threshold) in
/-- The offline routing picks by the reread cost. -/
theorem routedOffline_eq_pick {rows : List MLExperimentRow} (hne : candidates ≠ [])
    (hnd : (candidates.map id).Nodup)
    (hrows : List.Forall₂ (fun c row => row.candidateId = c.id ∧
      row.projectedCostUsd = .ok (.finite c.rereadCost)) candidates rows) :
    ∃ c fallback, pick (·.rereadCost.toRat) probability threshold candidates = some (c, fallback) ∧
      (routeAtThreshold (rows.map (recordOf probability)) threshold).map
        (fun offline => (offline.selectedModelId, offline.fallbackUsed)) = .ok (c.id, fallback) := by
  have hcost (c : Exported features) :
      (offlinePredictionOf probability c).projectedCostUsd.toRat = c.rereadCost.toRat := rfl
  obtain ⟨c, decision, hpick, hroute, hid⟩ :=
    route_eq_pick threshold (fun _ => rfl) (fun _ => rfl) hcost hne hnd
  have hpredictions : (rows.map (recordOf probability)).mapM OutOfFoldRecord.prediction =
      .ok (candidates.map (offlinePredictionOf probability)) := by
    rw [List.mapM_eq_ok, List.forall₂_map_left_iff, List.forall₂_map_right_iff]
    refine hrows.flip.imp fun row c hrow => ?_
    rw [OutOfFoldRecord.prediction, recordOf, hrow.2, Except.ok_bind, offlinePredictionOf]
    simp only [dif_pos c.rereadCost_nonneg, hrow.1]
    rfl
  refine ⟨c, decision.fallbackUsed, hpick, ?_⟩
  rw [routeAtThreshold, hpredictions, Except.ok_bind, hroute]
  show Except.ok (decision.selectedModelId, decision.fallbackUsed) = _
  rw [hid]

/-- The cheapest candidate is the pick by the rounded cost where every candidate qualifies. -/
theorem cheapest_eq_pick (hnd : (candidates.map id).Nodup) (hzero : threshold.float = 0)
    {request : PolicyRequest} (hrequest : request.candidates = candidates.map (·.option))
    (htokens : request.features.approximateInputTokens = features.approximateInputTokens)
    {c : Exported features} {fallback : Bool}
    (h : pick (·.roundedCost.toRat) probability threshold candidates = some (c, fallback)) :
    AlwaysCheapestPolicy.select request = some c.id ∧ fallback = false := by
  have hqualifies (id : Identifier) : threshold ≤ probability id := by
    show threshold.float ≤ (probability id).float
    rw [hzero]
    exact (probability id).nonneg
  obtain ⟨hfirst, hmem, hle⟩ := least_of_pick hnd hqualifies h
  have hkey : (fun item : CandidateOption =>
      (toLex ((item.projectedMaxCost request.features.approximateInputTokens).toRat,
        item.candidateId.value) : ℚ ×ₗ String)) ∘ option =
      keyOf (fun c : Exported features => c.roundedCost.toRat) := by
    funext b
    show toLex ((b.option.projectedMaxCost request.features.approximateInputTokens).toRat,
      b.row.candidate.internalId.value) = toLex (b.roundedCost.toRat, b.id.value)
    rw [CandidateOption.projectedMaxCost, option, htokens, b.inputCost_eq, b.outputCost_eq,
      b.candidateId_eq]
    rfl
  have hargmin : candidates.argmin (keyOf (·.roundedCost.toRat)) = some c :=
    (Choice.argmin_eq_some_iff (untied_keyOf hnd _)).mpr ⟨hmem, hle⟩
  refine ⟨?_, hfirst⟩
  rw [AlwaysCheapestPolicy.select, hrequest, Choice.argmin_map, hkey, hargmin]
  exact congrArg some c.candidateId_eq

end Exported

/-! ## Agreement -/

/-- The offline selections pick what the service picks: the same id, with the same fallback flag. -/
structure Agrees (indicators : TextIndicators) {features : RoutingRequestFeatures}
    (candidates : List (Exported features)) (probability : Identifier → Probability)
    (threshold : Probability) (decision : RoutingDecision) (rows : List MLExperimentRow) : Prop where
  routed : ((assigning indicators probability).routeFeaturesWithSnapshot features
    (candidates.map (·.model)) (.float (.finite threshold.float))).map (·.decision) = .ok decision
  exported : candidates.mapM Exported.mlRow = .ok rows
  selected : (selectCostAwareCandidate (rows.map (Exported.recordOf probability)) threshold).map
    (fun selection => (selection.1.row.candidateId, selection.2)) =
      .ok (decision.selectedModelId, decision.fallbackUsed)
  routedOffline : (routeAtThreshold (rows.map (Exported.recordOf probability)) threshold).map
    (fun offline => (offline.selectedModelId, offline.fallbackUsed)) =
      .ok (decision.selectedModelId, decision.fallbackUsed)
  cheapest : threshold.float = 0 → ∀ request : PolicyRequest,
    request.candidates = candidates.map (·.option) →
    request.features.approximateInputTokens = features.approximateInputTokens →
      AlwaysCheapestPolicy.select request = some decision.selectedModelId ∧
        decision.fallbackUsed = false

namespace Exported

variable {features : RoutingRequestFeatures} {catalogue candidates : List (Exported features)}
  {indicators : TextIndicators} {probability : Identifier → Probability} {threshold : Probability}

/-- Candidates in range whose order rounding keeps are picked alike. -/
theorem agrees_of_orderKept (hne : candidates ≠ []) (hnd : (candidates.map id).Nodup)
    (hrange : ∀ c ∈ candidates, c.InFloatRange)
    (hkept : ∀ a ∈ candidates, ∀ b ∈ candidates, OrderKept a b) :
    ∃ decision rows, Agrees indicators candidates probability threshold decision rows := by
  obtain ⟨c, decision, hpick, hrouted, hid⟩ :=
    routed_eq_pick indicators probability threshold hne hnd
  obtain ⟨rows, hexported, hrows⟩ := exists_rows hrange
  have hreread : pick (·.rereadCost.toRat) probability threshold candidates =
      some (c, decision.fallbackUsed) :=
    (pick_congr hnd fun a ha b hb => (hkept a ha b hb).1).symm.trans hpick
  have hrounded : pick (·.roundedCost.toRat) probability threshold candidates =
      some (c, decision.fallbackUsed) :=
    (pick_congr hnd fun a ha b hb => (hkept a ha b hb).2).symm.trans hpick
  refine ⟨decision, rows, hrouted, hexported, ?_, ?_, ?_⟩
  · rw [hid]
    exact selected_eq_pick hnd hrows hreread
  · obtain ⟨d, fallback, hoffline, heq⟩ :=
      routedOffline_eq_pick probability threshold hne hnd hrows
    rw [hreread] at hoffline
    cases hoffline
    rw [heq, hid]
  · intro hzero request hrequest htokens
    rw [hid]
    exact cheapest_eq_pick hnd hzero hrequest htokens hrounded

/-- A candidate whose cost the policy accepts is in range. -/
theorem inRange_of_prediction {c : Exported features} {row : MLExperimentRow}
    {prediction : CandidatePrediction} (hrow : c.mlRow = .ok row)
    (h : (recordOf probability row).prediction = .ok prediction) : c.InFloatRange := by
  obtain ⟨cost, hcost, h⟩ := Except.bind_eq_ok.mp h
  cases cost with
  | finite d => exact inRange_of_finite hrow hcost
  | infinity => cases h

/-- Candidates that are picked alike are in range. -/
theorem inRange_of_agrees {decision : RoutingDecision} {rows : List MLExperimentRow}
    (h : Agrees indicators candidates probability threshold decision rows) :
    ∀ c ∈ candidates, c.InFloatRange := by
  intro c hc
  obtain ⟨row, hrowmem, hrow⟩ := (List.mapM_eq_ok.mp h.exported).exists_of_mem hc
  have hoffline := h.routedOffline
  cases hroute : routeAtThreshold (rows.map (recordOf probability)) threshold with
  | error e =>
    rw [hroute] at hoffline
    cases hoffline
  | ok offline =>
    obtain ⟨predictions, hpredictions, -⟩ := Except.bind_eq_ok.mp hroute
    obtain ⟨prediction, -, hprediction⟩ := (List.mapM_eq_ok.mp hpredictions).exists_of_mem
      (List.mem_map_of_mem (f := recordOf probability) hrowmem)
    exact inRange_of_prediction hrow hprediction

/-- Two candidates that are picked alike, where both qualify, are kept in order. -/
theorem orderKept_of_agrees {a b : Exported features} (hnd : ([a, b].map id).Nodup)
    (hzero : threshold.float = 0) {decision : RoutingDecision} {rows : List MLExperimentRow}
    (h : Agrees indicators [a, b] probability threshold decision rows) : OrderKept a b := by
  have hne : [a, b] ≠ [] := List.cons_ne_nil _ _
  have hqualifies (id : Identifier) : threshold ≤ probability id := by
    show threshold.float ≤ (probability id).float
    rw [hzero]
    exact (probability id).nonneg
  obtain ⟨c, routed, hpick, hrouted, hid⟩ :=
    routed_eq_pick indicators probability threshold hne hnd
  obtain rfl : routed = decision := Except.ok.inj (hrouted.symm.trans h.routed)
  obtain ⟨rows', hexported, hrows⟩ := exists_rows (inRange_of_agrees h)
  obtain rfl : rows' = rows := Except.ok.inj (hexported.symm.trans h.exported)
  constructor
  · obtain ⟨d, fallback, hoffline, heq⟩ :=
      routedOffline_eq_pick probability threshold hne hnd hrows
    have hsame := Except.ok.inj (heq.symm.trans h.routedOffline)
    have hd : d.id = c.id := ((Prod.mk.inj hsame).1).trans hid
    exact key_le_iff_of_pick hnd hqualifies hpick hoffline hd
  · obtain ⟨d, fallback, hrounded⟩ := Choice.exists_choose (keyOf (·.roundedCost.toRat))
      (fallbackOf (·.roundedCost.toRat) probability) (fun c => threshold ≤ probability c.id) hne
    have hids : ([a, b].map (·.option) |>.map (·.candidateId)).Nodup := by
      have hoption : ((·.candidateId) ∘ option : Exported features → Identifier) = id :=
        funext candidateId_eq
      rw [List.map_map, hoption]
      exact hnd
    let request : PolicyRequest :=
      ⟨a.row.taskId, a.row.requestFeatures, [a, b].map (·.option), List.cons_ne_nil _ _, hids⟩
    have hcheapest := (h.cheapest hzero request rfl a.inputTokens_eq).1
    have hrequest : request.candidates = [a, b].map (·.option) := rfl
    have hselected := (cheapest_eq_pick hnd hzero hrequest a.inputTokens_eq hrounded).1
    have hd : d.id = c.id := (Option.some.inj (hselected.symm.trans hcheapest)).trans hid
    exact key_le_iff_of_pick hnd hqualifies hpick hrounded hd

/-- **The offline selections are production's** for every choice of candidates of a request, every
assignment of probabilities and every threshold, exactly if the numbers of the exported rows are in
the range of the floats and rounding keeps every two candidates in the order of their exact costs and
ids. -/
theorem offline_agrees_iff (indicators : TextIndicators) (hnd : (catalogue.map id).Nodup) :
    (∀ candidates ⊆ catalogue, candidates ≠ [] → (candidates.map id).Nodup →
        ∀ probability threshold, ∃ decision rows,
          Agrees indicators candidates probability threshold decision rows) ↔
      (∀ c ∈ catalogue, c.InFloatRange) ∧ ∀ a ∈ catalogue, ∀ b ∈ catalogue, OrderKept a b := by
  constructor
  · intro h
    have hpair (xs : List (Exported features)) (hsub : xs ⊆ catalogue) (hne : xs ≠ [])
        (hxs : (xs.map id).Nodup) := h xs hsub hne hxs (fun _ => .one) ⟨0, le_rfl, zero_le_one⟩
    constructor
    · intro c hc
      obtain ⟨decision, rows, hagrees⟩ := hpair [c] (by simpa using hc) (by simp) (by simp)
      exact inRange_of_agrees hagrees c (by simp)
    · intro a ha b hb
      by_cases hid : a.id = b.id
      · have hab : a = b := List.inj_on_of_nodup_map hnd ha hb hid
        subst hab
        exact ⟨iff_of_true le_rfl le_rfl, iff_of_true le_rfl le_rfl⟩
      · have hids : ([a, b].map id).Nodup := by simpa using hid
        obtain ⟨decision, rows, hagrees⟩ := hpair [a, b]
          (List.cons_subset.mpr ⟨ha, List.cons_subset.mpr ⟨hb, List.nil_subset _⟩⟩) (by simp) hids
        exact orderKept_of_agrees hids rfl hagrees
  · rintro ⟨hrange, hkept⟩ candidates hsub hne hids probability threshold
    exact agrees_of_orderKept hne hids (fun c hc => hrange c (hsub hc))
      (fun a ha b hb => hkept a (hsub ha) b (hsub hb))

/-! ## Prices that share a float -/

/-- A model under an id with an input price. -/
def samplePriced (id : Identifier) (inputCost : Money) : ModelConfig :=
  { ModelConfig.sample with modelId := id, inputCostPer1mTokens := inputCost }

/-- The export of such a model for the sample request. -/
def sampleExported (id : Identifier) (inputCost : Money) : Exported (.sample (some .qa)) where
  model := samplePriced id inputCost
  row := {
    taskId := BenchmarkTask.sample.taskId
    requestFeatures := {
      category := some "qa"
      promptCharacters := 5
      systemPromptCharacters := 0
      approximateInputTokens := 1
      containsCode := false
      requestsStructuredOutput := false
      maxOutputTokens := InferenceRequest.sample.maxOutputTokens
      constraintIndicatorCount := 0
      reasoningIndicatorCount := 0 }
    candidate := {
      internalId := id
      provider := (samplePriced id inputCost).provider
      upstreamModelSlug := (samplePriced id inputCost).providerModelName
      upstreamProviderPin := "None"
      serviceTier := "default"
      region := "global"
      inputCostPer1mTokens := inputCost
      outputCostPer1mTokens := (samplePriced id inputCost).outputCostPer1mTokens
      contextWindow := (samplePriced id inputCost).contextWindow
      capabilities := (samplePriced id inputCost).capabilities.dump
      reasoningEffort := none }
    effectiveMaxOutputTokens := InferenceRequest.sample.maxOutputTokens }
  candidateId_eq := rfl
  inputCost_eq := rfl
  outputCost_eq := rfl
  inputTokens_eq := rfl
  allowance_eq := rfl

/-- A price of 0.1 under the id `b`. -/
def tenth : Exported (.sample (some .qa)) :=
  sampleExported ⟨"b", by decide, by decide⟩ ⟨⟨1, -1⟩, by decide⟩

/-- A price above 0.1 with the same float under the id `a`. -/
def aboveTenth : Exported (.sample (some .qa)) :=
  sampleExported ⟨"a", by decide, by decide⟩ ⟨⟨10 ^ 19 + 1, -20⟩, by decide⟩

/-- Indicators that find nothing. -/
def sampleIndicators : TextIndicators := ⟨fun _ => false, fun _ => 0, fun _ => 0⟩

theorem offline_agrees_iff_sample : ∃ decision rows,
    Agrees sampleIndicators [tenth] (fun _ => .one) ⟨0, le_rfl, zero_le_one⟩ decision rows := by
  have hnd : ([tenth].map id).Nodup := by decide
  refine (offline_agrees_iff sampleIndicators hnd).mpr ⟨?_, ?_⟩ [tenth] (List.Subset.refl _)
    (List.cons_ne_nil _ _) hnd _ _
  · intro c hc
    rw [List.mem_singleton.mp hc]
    exact ⟨by decide +kernel, by decide +kernel, by decide +kernel⟩
  · intro a ha b hb
    rw [List.mem_singleton.mp ha, List.mem_singleton.mp hb]
    exact ⟨iff_of_true le_rfl le_rfl, iff_of_true le_rfl le_rfl⟩

/-- Two prices with one float: production picks the cheaper one, the selection from floats the one of
the smaller id. -/
theorem shared_float_not_agreed : ¬ ∃ decision rows,
    Agrees sampleIndicators [aboveTenth, tenth] (fun _ => .one) ⟨0, le_rfl, zero_le_one⟩ decision
      rows := by
  rintro ⟨decision, rows, h⟩
  have hnd : ([aboveTenth, tenth].map id).Nodup := by decide
  have hkept := (orderKept_of_agrees hnd rfl h).1
  have hreread : keyOf (·.rereadCost.toRat) aboveTenth ≤ keyOf (·.rereadCost.toRat) tenth := by
    decide +kernel
  have hexact : ¬ keyOf exactCost aboveTenth ≤ keyOf exactCost tenth := by decide +kernel
  exact hexact (hkept.mpr hreread)

end Exported

end RouteLLM
