import RouteLLM.Lib.Choice
import RouteLLM.Lib.FloatRepr
import RouteLLM.Routing.MlFeatures
import RouteLLM.Routing.Policy

/-!
# Offline selection

The selections of the offline analyses: `AlwaysCheapestPolicy` of `routing/analysis.py`,
`select_cost_aware_candidate` of `routing/ml_experiment.py` and `route_at_threshold` of
`routing/calibration_analysis.py`. Their projected costs are computed with 50 digits, the first from
the exported prices and token counts, the others from the floats of the training row.
-/

namespace RouteLLM

/-- The projected cost of 50 digits: `(a * p + b * q) / 1_000_000`. -/
def costOfFifty (a p b q : Decimal) : Decimal :=
  Decimal.div 50 (Decimal.add 50 (Decimal.mul 50 a p) (Decimal.mul 50 b q)) ⟨10 ^ 6, 0⟩

/-- A cost of nonnegative numbers is not negative. -/
theorem costOfFifty_nonneg {a p b q : Decimal} (ha : 0 ≤ a.coeff) (hp : 0 ≤ p.coeff)
    (hb : 0 ≤ b.coeff) (hq : 0 ≤ q.coeff) : 0 ≤ (costOfFifty a p b q).coeff :=
  Decimal.div_nonneg (Decimal.add_nonneg (Decimal.fix_nonneg (mul_nonneg ha hp))
    (Decimal.fix_nonneg (mul_nonneg hb hq))) (by positivity)

/-! ## The cheapest candidate -/

structure CandidateOption where
  candidateId : Identifier
  inputCostPer1mTokens : Money
  outputCostPer1mTokens : Money
  effectiveMaxOutputTokens : PositiveTokenCount

/-- `projected_max_cost`. -/
def CandidateOption.projectedMaxCost (option : CandidateOption) (approximateInputTokens : ℕ) :
    Decimal :=
  costOfFifty (.ofInt approximateInputTokens) option.inputCostPer1mTokens.dec
    (.ofInt option.effectiveMaxOutputTokens.val) option.outputCostPer1mTokens.dec

/-- `PolicyRequest`, with its checks. -/
structure PolicyRequest where
  taskId : TaskId
  features : RequestFeatures
  candidates : List CandidateOption
  candidates_ne : candidates ≠ []
  ids_nodup : (candidates.map (·.candidateId)).Nodup

/-- The candidate id of the decision of `AlwaysCheapestPolicy.select`. -/
def AlwaysCheapestPolicy.select (request : PolicyRequest) : Option Identifier :=
  (request.candidates.argmin fun item =>
    (toLex ((item.projectedMaxCost request.features.approximateInputTokens).toRat,
      item.candidateId.value) : ℚ ×ₗ String)).map (·.candidateId)

/-! ## Selection from training rows -/

/-- The product of a count and a price, read back from the texts of their floats. -/
def rereadProduct (tokens price : PyFloat) : Except Exc ExtDecimal :=
  match ExtDecimal.mul? 50 tokens.reread price.reread with
  | some cost => .ok cost
  | none => .error (.raised .arithmeticError "InvalidOperation")

theorem rereadProduct_eq_ok {tokens price : PyFloat} {cost : ExtDecimal} :
    rereadProduct tokens price = .ok cost ↔
      ExtDecimal.mul? 50 tokens.reread price.reread = some cost := by
  unfold rereadProduct
  split <;> simp_all

/-- `projected_cost_usd`. -/
def MLExperimentRow.projectedCostUsd (row : MLExperimentRow) : Except Exc ExtDecimal := do
  let input ← rereadProduct row.features.approximateInputTokens
    row.features.configuredInputCostPer1mTokens
  let output ← rereadProduct row.features.effectiveMaxOutputTokens
    row.features.configuredOutputCostPer1mTokens
  return ExtDecimal.div 50 (ExtDecimal.add 50 input output) ⟨10 ^ 6, 0⟩

/-- A finite projected cost is one of finite prices. -/
theorem MLExperimentRow.finite_of_projectedCostUsd {row : MLExperimentRow} {d : Decimal}
    (h : row.projectedCostUsd = .ok (.finite d)) :
    (∃ p, row.features.configuredInputCostPer1mTokens.reread = .finite p) ∧
      ∃ q, row.features.configuredOutputCostPer1mTokens.reread = .finite q := by
  obtain ⟨input, hinput, h⟩ := Except.bind_eq_ok.mp h
  obtain ⟨output, houtput, h⟩ := Except.bind_eq_ok.mp h
  obtain ⟨⟨a, rfl⟩, b, rfl⟩ := ExtDecimal.finite_of_div_add (Except.pure_eq_ok.mp h)
  exact ⟨(ExtDecimal.finite_of_mul? (rereadProduct_eq_ok.mp hinput)).2,
    (ExtDecimal.finite_of_mul? (rereadProduct_eq_ok.mp houtput)).2⟩

/-- An out-of-fold record of a candidate, with the row that the index holds for it. -/
structure OutOfFoldRecord where
  row : MLExperimentRow
  predictedProbability : Probability

namespace OutOfFoldRecord

/-- The order of the qualified candidates: the cost, then the id. -/
def costKey (item : OutOfFoldRecord × ExtDecimal) : WithTop ℚ ×ₗ String :=
  toLex (item.2.value, item.1.row.candidateId.value)

/-- The order of the fallback: the highest probability, then the cost, then the id. -/
def fallbackKey (item : OutOfFoldRecord × ExtDecimal) : ℚ ×ₗ (WithTop ℚ ×ₗ String) :=
  toLex (-item.1.predictedProbability.float.val, costKey item)

/-- A record with its projected cost. -/
def priced (record : OutOfFoldRecord) : Except Exc (OutOfFoldRecord × ExtDecimal) := do
  let cost ← record.row.projectedCostUsd
  return (record, cost)

end OutOfFoldRecord

/-- `select_cost_aware_candidate`, with whether it fell back. `min` raises on no candidate. -/
def selectCostAwareCandidate (candidates : List OutOfFoldRecord) (threshold : Probability) :
    Except Exc (OutOfFoldRecord × Bool) := do
  let qualified := candidates.filter (threshold ≤ ·.predictedProbability)
  let items ← (if qualified ≠ [] then qualified else candidates).mapM OutOfFoldRecord.priced
  let least :=
    if qualified ≠ [] then items.argmin OutOfFoldRecord.costKey
    else items.argmin OutOfFoldRecord.fallbackKey
  match least with
  | some item => return (item.1, qualified = [])
  | none => .error (.raised .valueError "min() arg is an empty sequence")

/-- The selection is a choice where every record has a projected cost. -/
theorem selectCostAwareCandidate_eq_choose {candidates : List OutOfFoldRecord}
    {items : List (OutOfFoldRecord × ExtDecimal)} {threshold : Probability}
    {item : OutOfFoldRecord × ExtDecimal} {fallback : Bool}
    (hitems : candidates.mapM OutOfFoldRecord.priced = .ok items)
    (h : Choice.choose OutOfFoldRecord.costKey OutOfFoldRecord.fallbackKey
      (threshold ≤ ·.1.predictedProbability) items = some (item, fallback)) :
    selectCostAwareCandidate candidates threshold = .ok (item.1, fallback) := by
  have hrel := List.mapM_eq_ok.mp hitems
  have hqualified : (candidates.filter (threshold ≤ ·.predictedProbability)).mapM
      OutOfFoldRecord.priced = .ok (items.filter (threshold ≤ ·.1.predictedProbability)) := by
    refine List.mapM_eq_ok.mpr (List.rel_filter ?_ hrel)
    intro record priced hpriced
    obtain ⟨cost, -, hpriced⟩ := Except.bind_eq_ok.mp hpriced
    cases hpriced
    exact Iff.rfl
  have hempty : candidates.filter (threshold ≤ ·.predictedProbability) = [] ↔
      items.filter (threshold ≤ ·.1.predictedProbability) = [] := by
    rw [← List.length_eq_zero_iff, (List.mapM_eq_ok.mp hqualified).length_eq,
      List.length_eq_zero_iff]
  rw [selectCostAwareCandidate]
  by_cases hq : candidates.filter (threshold ≤ ·.predictedProbability) = []
  · rw [Choice.choose_of_argmin_eq_none (by rw [hempty.mp hq]; rfl)] at h
    obtain ⟨least, hleast, heq⟩ := Option.map_eq_some_iff.mp h
    cases heq
    simp only [hq, ne_eq, not_true_eq_false, if_false, hitems, Except.ok_bind, hleast]
    rfl
  · cases hleast : (items.filter (threshold ≤ ·.1.predictedProbability)).argmin
        OutOfFoldRecord.costKey with
    | none => exact absurd (hempty.mpr (List.argmin_eq_none.mp hleast)) hq
    | some least =>
      rw [Choice.choose_of_argmin_eq_some hleast] at h
      cases h
      simp only [hq, ne_eq, not_false_eq_true, if_true, hqualified, Except.ok_bind, hleast]
      rfl

/-- The prediction that `route_at_threshold` hands to the policy: a cost has to be a finite amount. -/
def OutOfFoldRecord.prediction (record : OutOfFoldRecord) : Except Exc CandidatePrediction := do
  match ← record.row.projectedCostUsd with
  | .finite cost =>
    if h : 0 ≤ cost.coeff then
      return {
        modelId := record.row.candidateId
        predictedAcceptability := record.predictedProbability
        projectedCostUsd := ⟨cost, h⟩ }
    else .error (.raised .validationError
      "projected_cost_usd: Input should be greater than or equal to 0")
  | .infinity => .error (.raised .validationError
      "projected_cost_usd: Input should be a finite number")

/-- The decision of `route_at_threshold` for one task. -/
def routeAtThreshold (records : List OutOfFoldRecord) (threshold : Probability) :
    Except Exc RoutingDecision := do
  let candidates ← records.mapM OutOfFoldRecord.prediction
  CostAwareRoutingPolicy.route candidates (.float (.finite threshold.float))

end RouteLLM
