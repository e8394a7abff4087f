import Mathlib.Algebra.Order.Floor.Semifield
import RouteLLM.Benchmarks.CostEstimate

/-!
# The worst case of a cost estimate

Every figure of an estimate is a sum over the calls. The output of a candidate is capped by its allowance, and the
visible output that the judge reads is not, so that the worst case bounds the expected figures exactly where the
summaries are covered by the allowances. The decimals of an estimate that was returned are exact sums, since they
could not be quantized otherwise.
-/

namespace RouteLLM.RoutingBenchmark

variable {str : PyJson → PyStr} {tasks : List BenchmarkTask}

/-! ## Sums over the calls -/

/-- The canonical tokens of a task that has them. -/
def canonicalOf (str : PyJson → PyStr) (task : BenchmarkTask) : ℕ := (canonicalTokens str task).getD 0

def inputsOf (task : BenchmarkTask) : ℕ := approximateInputTokens task.toInferenceRequest

/-- The sum of a figure over the calls of the tasks. -/
def callSum {M : Type} [AddCommMonoid M] (figure : BenchmarkTask → ModelConfig → M) (tasks : List BenchmarkTask) : M :=
  (tasks.map fun task => (routingBenchmarkModels.map (figure task)).sum).sum

section CallSum

variable {M : Type} [AddCommMonoid M] {figure figure' : BenchmarkTask → ModelConfig → M}

theorem callSum_cons (task : BenchmarkTask) : callSum figure (task :: tasks) =
    (routingBenchmarkModels.map (figure task)).sum + callSum figure tasks := by
  rw [callSum, List.map_cons, List.sum_cons, callSum]

theorem callSum_perm {tasks' : List BenchmarkTask} (h : tasks.Perm tasks') :
    callSum figure tasks = callSum figure tasks' :=
  (h.map _).sum_eq

variable [PartialOrder M] [IsOrderedAddMonoid M]

theorem callSum_mono (h : ∀ task ∈ tasks, ∀ model ∈ routingBenchmarkModels, figure task model ≤ figure' task model) :
    callSum figure tasks ≤ callSum figure' tasks :=
  List.sum_le_sum fun task htask => List.sum_le_sum fun model hmodel => h task htask model hmodel

/-- Calls of some of the tasks are calls of the tasks. -/
theorem callSum_filter_le (p : BenchmarkTask → Bool) (h : ∀ task model, 0 ≤ figure task model) :
    callSum figure (tasks.filter p) ≤ callSum figure tasks := by
  induction tasks with
  | nil => exact le_rfl
  | cons task tasks ih =>
    have hnonneg : 0 ≤ (routingBenchmarkModels.map (figure task)).sum := by
      refine List.sum_nonneg fun x hx => ?_
      obtain ⟨model, _, rfl⟩ := List.mem_map.mp hx
      exact h task model
    rw [List.filter_cons]
    split
    · rw [callSum_cons, callSum_cons]
      exact add_le_add_right ih _
    · rw [callSum_cons]
      exact ih.trans (le_add_of_nonneg_left hnonneg)

end CallSum

/-- What a round of the inner loop keeps, a run of both loops keeps. -/
theorem foldlM_addTask {M : Type} [AddCommMonoid M] {figure : BenchmarkTask → ModelConfig → M}
    (P : Totals → M → Prop) (hstep : ∀ task totals q, ∀ model ∈ routingBenchmarkModels, P totals q →
      P (Totals.addCall task (inputsOf task) (canonicalOf str task) totals model) (q + figure task model))
    {totals totals' : Totals} {q : M} (hstart : P totals q)
    (h : tasks.foldlM (Totals.addTask str) totals = some totals') : P totals' (q + callSum figure tasks) := by
  have hinner : ∀ (task : BenchmarkTask) (models : List ModelConfig), models ⊆ routingBenchmarkModels →
      ∀ totals q, P totals q →
        P (models.foldl (Totals.addCall task (inputsOf task) (canonicalOf str task)) totals)
          (q + (models.map (figure task)).sum) := by
    intro task models
    induction models with
    | nil =>
      intro _ totals q hP
      rw [List.foldl_nil, List.map_nil, List.sum_nil, add_zero]
      exact hP
    | cons model models ih =>
      intro hsub totals q hP
      rw [List.foldl_cons, List.map_cons, List.sum_cons, ← add_assoc]
      exact ih (fun m hm => hsub (List.mem_cons_of_mem _ hm)) _ _
        (hstep task totals q model (hsub List.mem_cons_self) hP)
  induction tasks generalizing totals q with
  | nil =>
    cases h
    rw [callSum, List.map_nil, List.sum_nil, add_zero]
    exact hstart
  | cons task tasks ih =>
    rw [List.foldlM_cons] at h
    obtain ⟨middle, htask, hrest⟩ := Option.bind_eq_some_iff.mp h
    obtain ⟨canonical, hcanonical, rfl⟩ := Option.map_eq_some_iff.mp htask
    rw [callSum_cons, ← add_assoc]
    refine ih ?_ hrest
    have hround := hinner task routingBenchmarkModels (List.Subset.refl _) totals q hstart
    rw [canonicalOf, hcanonical] at hround
    exact hround

/-- A counter of the loops is a sum over the calls. -/
theorem counter_eq {figure : BenchmarkTask → ModelConfig → ℕ} (counter : Totals → ℕ)
    (hzero : counter Totals.zero = 0)
    (hstep : ∀ task totals model, counter (Totals.addCall task (inputsOf task) (canonicalOf str task) totals model) =
      counter totals + figure task model) {totals : Totals}
    (h : tasks.foldlM (Totals.addTask str) Totals.zero = some totals) : counter totals = callSum figure tasks := by
  have hrun : counter totals = 0 + callSum figure tasks :=
    foldlM_addTask (fun totals n => counter totals = n) (fun task totals q model _ hq => by rw [hstep, hq]) hzero h
  rw [hrun, zero_add]

/-- A figure of the calls that the judge makes. -/
def judged (figure : BenchmarkTask → ModelConfig → ℕ) (task : BenchmarkTask) (model : ModelConfig) : ℕ :=
  if task.category = .summarization then figure task model else 0

/-! ## The totals as sums -/

theorem defaultPrecision_pos : 0 < defaultPrecision := by decide

/-- The exact cost of a number of tokens, at prices in hundredths. -/
def exactTokenCost (inputTokens outputTokens inputPrice outputPrice : ℕ) : ℚ :=
  (inputTokens * (inputPrice * 10 ^ (-2 : ℤ)) + outputTokens * (outputPrice * 10 ^ (-2 : ℤ))) / 10 ^ 6

theorem exactTokenCost_mono {i i' o o' c c' : ℕ} (hi : i ≤ i') (ho : o ≤ o') :
    exactTokenCost i o c c' ≤ exactTokenCost i' o' c c' := by
  have hi' : (i : ℚ) ≤ i' := by exact_mod_cast hi
  have ho' : (o : ℚ) ≤ o' := by exact_mod_cast ho
  rw [exactTokenCost, exactTokenCost]
  gcongr

theorem tokenCost_follows (inputTokens outputTokens inputPrice outputPrice : ℕ) :
    Decimal.Follows defaultPrecision (-8) (tokenCost inputTokens outputTokens ⟨inputPrice, -2⟩ ⟨outputPrice, -2⟩)
      (exactTokenCost inputTokens outputTokens inputPrice outputPrice) := by
  have hsum := (Decimal.Follows.mul_natCast (e := -2) defaultPrecision_pos inputTokens inputPrice).add
    defaultPrecision_pos (Decimal.Follows.mul_natCast defaultPrecision_pos outputTokens outputPrice)
  have hnonneg : 0 ≤ (Decimal.addExact (Decimal.mul defaultPrecision (.ofInt inputTokens) ⟨inputPrice, -2⟩)
      (Decimal.mul defaultPrecision (.ofInt outputTokens) ⟨outputPrice, -2⟩)).coeff := by
    have hl : 0 ≤ (Decimal.mul defaultPrecision (.ofInt inputTokens) ⟨inputPrice, -2⟩).coeff :=
      (Decimal.Follows.mul_natCast (e := -2) defaultPrecision_pos inputTokens inputPrice).nonneg
    have hr : 0 ≤ (Decimal.mul defaultPrecision (.ofInt outputTokens) ⟨outputPrice, -2⟩).coeff :=
      (Decimal.Follows.mul_natCast (e := -2) defaultPrecision_pos outputTokens outputPrice).nonneg
    simp only [Decimal.addExact]
    positivity
  exact hsum.div_pow (k := 6) (Decimal.digits_fix_le defaultPrecision_pos hnonneg)

/-- The price of a model in hundredths. -/
def cents (price : Money) : ℕ := price.dec.coeff.toNat

theorem price_eq : ∀ model ∈ routingBenchmarkModels,
    model.inputCostPer1mTokens.dec = ⟨cents model.inputCostPer1mTokens, -2⟩ ∧
      model.outputCostPer1mTokens.dec = ⟨cents model.outputCostPer1mTokens, -2⟩ := by
  simp only [routingBenchmarkModels, List.forall_mem_cons]
  exact ⟨⟨rfl, rfl⟩, ⟨rfl, rfl⟩, ⟨rfl, rfl⟩, ⟨rfl, rfl⟩, fun _ h => absurd h List.not_mem_nil⟩

/-- The exact cost of a call. -/
def exactCost (model : ModelConfig) (inputTokens outputTokens : ℕ) : ℚ :=
  exactTokenCost inputTokens outputTokens (cents model.inputCostPer1mTokens) (cents model.outputCostPer1mTokens)

theorem candidateCost_follows {model : ModelConfig} (hmodel : model ∈ routingBenchmarkModels) (i o : ℕ) :
    Decimal.Follows defaultPrecision (-8) (candidateCost model i o) (exactCost model i o) := by
  obtain ⟨hin, hout⟩ := price_eq model hmodel
  rw [candidateCost, hin, hout]
  exact tokenCost_follows i o _ _

/-- The output that is expected of a call. -/
def outputOf (str : PyJson → PyStr) (task : BenchmarkTask) (model : ModelConfig) : ℕ :=
  expectedOutput task (canonicalOf str task) model

/-- What the judge is expected to read of a call. -/
def readOf (str : PyJson → PyStr) (task : BenchmarkTask) (_ : ModelConfig) : ℕ :=
  inputsOf task + expectedVisible task (canonicalOf str task) + 320

/-- What the judge reads of a call at most. -/
def worstReadOf (task : BenchmarkTask) (model : ModelConfig) : ℕ := inputsOf task + callAllowance task model + 320

/-- The totals of the loops as sums over the calls. -/
structure TotalsOf (str : PyJson → PyStr) (tasks : List BenchmarkTask) (totals : Totals) : Prop where
  candidateInput : totals.candidateInput = callSum (fun task _ => inputsOf task) tasks
  candidateOutput : totals.candidateOutput = callSum (outputOf str) tasks
  worstCandidateOutput : totals.worstCandidateOutput = callSum callAllowance tasks
  candidateCost : Decimal.Follows defaultPrecision (-8) totals.candidateCost
    (callSum (fun task model => exactCost model (inputsOf task) (outputOf str task model)) tasks)
  worstCandidateCost : Decimal.Follows defaultPrecision (-8) totals.worstCandidateCost
    (callSum (fun task model => exactCost model (inputsOf task) (callAllowance task model)) tasks)
  judgeInput : totals.judgeInput = callSum (judged (readOf str)) tasks
  judgeOutput : totals.judgeOutput = callSum (judged fun _ _ => 180) tasks
  judgeCalls : totals.judgeCalls = callSum (judged fun _ _ => 1) tasks
  worstJudgeInput : totals.worstJudgeInput = callSum (judged worstReadOf) tasks
  worstJudgeOutput : totals.worstJudgeOutput = callSum (judged fun _ _ => 256) tasks

/-- A round of the inner loop, with the judge's figures as counters. -/
theorem addCall_eq (task : BenchmarkTask) (totals : Totals) (model : ModelConfig) :
    Totals.addCall task (inputsOf task) (canonicalOf str task) totals model =
      { candidateInput := totals.candidateInput + inputsOf task
        candidateOutput := totals.candidateOutput + outputOf str task model
        worstCandidateOutput := totals.worstCandidateOutput + callAllowance task model
        candidateCost := Decimal.add defaultPrecision totals.candidateCost
          (RoutingBenchmark.candidateCost model (inputsOf task) (outputOf str task model))
        worstCandidateCost := Decimal.add defaultPrecision totals.worstCandidateCost
          (RoutingBenchmark.candidateCost model (inputsOf task) (callAllowance task model))
        judgeInput := totals.judgeInput + judged (readOf str) task model
        judgeOutput := totals.judgeOutput + judged (fun _ _ => 180) task model
        judgeCalls := totals.judgeCalls + judged (fun _ _ => 1) task model
        worstJudgeInput := totals.worstJudgeInput + judged worstReadOf task model
        worstJudgeOutput := totals.worstJudgeOutput + judged (fun _ _ => 256) task model } := by
  by_cases hsummary : task.category = .summarization
  · simp only [Totals.addCall, judged, if_pos hsummary]
    rfl
  · simp only [Totals.addCall, judged, if_neg hsummary, Nat.add_zero]
    rfl

theorem totalsOf {totals : Totals} (h : tasks.foldlM (Totals.addTask str) Totals.zero = some totals) :
    TotalsOf str tasks totals where
  candidateInput := counter_eq (·.candidateInput) rfl (fun _ _ _ => by rw [addCall_eq]) h
  candidateOutput := counter_eq (·.candidateOutput) rfl (fun _ _ _ => by rw [addCall_eq]) h
  worstCandidateOutput := counter_eq (·.worstCandidateOutput) rfl (fun _ _ _ => by rw [addCall_eq]) h
  candidateCost := by
    have hrun := foldlM_addTask (fun totals q => Decimal.Follows defaultPrecision (-8) totals.candidateCost q)
      (fun task totals q model hmodel hq => by
        rw [addCall_eq]
        exact hq.add defaultPrecision_pos (candidateCost_follows hmodel (inputsOf task) (outputOf str task model)))
      Decimal.Follows.zero h
    rwa [zero_add] at hrun
  worstCandidateCost := by
    have hrun := foldlM_addTask (fun totals q => Decimal.Follows defaultPrecision (-8) totals.worstCandidateCost q)
      (fun task totals q model hmodel hq => by
        rw [addCall_eq]
        exact hq.add defaultPrecision_pos (candidateCost_follows hmodel (inputsOf task) (callAllowance task model)))
      Decimal.Follows.zero h
    rwa [zero_add] at hrun
  judgeInput := counter_eq (·.judgeInput) rfl (fun _ _ _ => by rw [addCall_eq]) h
  judgeOutput := counter_eq (·.judgeOutput) rfl (fun _ _ _ => by rw [addCall_eq]) h
  judgeCalls := counter_eq (·.judgeCalls) rfl (fun _ _ _ => by rw [addCall_eq]) h
  worstJudgeInput := counter_eq (·.worstJudgeInput) rfl (fun _ _ _ => by rw [addCall_eq]) h
  worstJudgeOutput := counter_eq (·.worstJudgeOutput) rfl (fun _ _ _ => by rw [addCall_eq]) h

/-! ## The printed figures -/

/-- The printed figures of two budgets in order. -/
def FiguresLe (x y : Decimal × Decimal × Decimal × Decimal) : Prop :=
  x.1.toRat ≤ y.1.toRat ∧ x.2.1.toRat ≤ y.2.1.toRat ∧ x.2.2.1.toRat ≤ y.2.2.1.toRat ∧
    x.2.2.2.toRat ≤ y.2.2.2.toRat

variable {candidate candidate' judge judge' : Decimal} {figures figures' : Decimal × Decimal × Decimal × Decimal}

theorem budgetFigures_eq_some (h : budgetFigures candidate judge = some figures) :
    quantizeUsd candidate = some figures.1 ∧ quantizeUsd judge = some figures.2.1 ∧
      quantizeUsd (Decimal.mul defaultPrecision (Decimal.add defaultPrecision candidate judge) ⟨10, -2⟩) =
        some figures.2.2.1 ∧
      quantizeUsd (Decimal.add defaultPrecision (Decimal.add defaultPrecision candidate judge)
        (Decimal.mul defaultPrecision (Decimal.add defaultPrecision candidate judge) ⟨10, -2⟩)) =
        some figures.2.2.2 := by
  simp only [budgetFigures, Option.bind_eq_bind, Option.bind_eq_some_iff] at h
  obtain ⟨c, hc, j, hj, k, hk, t, ht, heq⟩ := h
  cases heq
  exact ⟨hc, hj, hk, ht⟩

theorem add_mono {a a' b b' : Decimal} (ha : 0 ≤ a.coeff) (hb : 0 ≤ b.coeff) (ha' : 0 ≤ a'.coeff) (hb' : 0 ≤ b'.coeff)
    (hle : a.toRat ≤ a'.toRat) (hle' : b.toRat ≤ b'.toRat) :
    (Decimal.add defaultPrecision a b).toRat ≤ (Decimal.add defaultPrecision a' b').toRat := by
  refine Decimal.fix_mono defaultPrecision_pos ?_ ?_ ?_
  · simp only [Decimal.addExact]
    positivity
  · simp only [Decimal.addExact]
    positivity
  · rw [Decimal.toRat_addExact, Decimal.toRat_addExact]
    exact add_le_add hle hle'

theorem mul_mono {a a' : Decimal} {c : ℕ} {e : ℤ} (ha : 0 ≤ a.coeff) (ha' : 0 ≤ a'.coeff) (hle : a.toRat ≤ a'.toRat) :
    (Decimal.mul defaultPrecision a ⟨c, e⟩).toRat ≤ (Decimal.mul defaultPrecision a' ⟨c, e⟩).toRat := by
  refine Decimal.fix_mono defaultPrecision_pos (mul_nonneg ha (Int.natCast_nonneg c))
    (mul_nonneg ha' (Int.natCast_nonneg c)) ?_
  rw [Decimal.toRat_mulExact, Decimal.toRat_mulExact]
  exact mul_le_mul_of_nonneg_right hle (Decimal.toRat_nonneg (Int.natCast_nonneg c))

/-- The printed figures of a budget are monotone in its costs. -/
theorem budgetFigures_mono (hc : 0 ≤ candidate.coeff) (hc' : 0 ≤ candidate'.coeff) (hj : 0 ≤ judge.coeff)
    (hj' : 0 ≤ judge'.coeff) (hcandidate : candidate.toRat ≤ candidate'.toRat) (hjudge : judge.toRat ≤ judge'.toRat)
    (h : budgetFigures candidate judge = some figures) (h' : budgetFigures candidate' judge' = some figures') :
    FiguresLe figures figures' := by
  obtain ⟨hfirst, hsecond, hthird, hfourth⟩ := budgetFigures_eq_some h
  obtain ⟨hfirst', hsecond', hthird', hfourth'⟩ := budgetFigures_eq_some h'
  have hsub : 0 ≤ (Decimal.add defaultPrecision candidate judge).coeff := Decimal.add_nonneg hc hj
  have hsub' : 0 ≤ (Decimal.add defaultPrecision candidate' judge').coeff := Decimal.add_nonneg hc' hj'
  have hsubtotal := add_mono hc hj hc' hj' hcandidate hjudge
  have hcontingency := mul_mono (c := 10) (e := -2) hsub hsub' hsubtotal
  refine ⟨Decimal.quantize_mono hfirst hfirst' hcandidate, Decimal.quantize_mono hsecond hsecond' hjudge,
    Decimal.quantize_mono hthird hthird' hcontingency, Decimal.quantize_mono hfourth hfourth' ?_⟩
  refine add_mono hsub ?_ hsub' ?_ hsubtotal hcontingency
  · exact Decimal.fix_nonneg (mul_nonneg hsub (by decide))
  · exact Decimal.fix_nonneg (mul_nonneg hsub' (by decide))

/-- A cost that is printed is exact. -/
theorem exact_of_quantizeUsd {d r : Decimal} {q : ℚ} (h : Decimal.Follows defaultPrecision (-8) d q)
    (hq : quantizeUsd d = some r) : d.toRat = q :=
  h.toRat_of_quantize defaultPrecision_pos hq

/-- What an estimate says of its tasks. -/
theorem estimate_eq_some {e : CostEstimate} (h : estimate str tasks = some e) : ∃ totals, TotalsOf str tasks totals ∧
    budgetFigures totals.candidateCost (judgeCost totals.judgeInput totals.judgeOutput) =
      some (e.candidateCostUsd, e.judgeCostUsd, e.retryContingencyUsd, e.totalBudgetUsd) ∧
    budgetFigures totals.worstCandidateCost (judgeCost totals.worstJudgeInput totals.worstJudgeOutput) =
      some (e.worstCase.candidateCostUsd, e.worstCase.judgeCostUsd, e.worstCase.retryContingencyUsd,
        e.worstCase.totalCostUsd) ∧
    e.requests = tasks.length ∧ e.candidateCalls = tasks.length * 4 ∧
    e.candidateInputTokens = totals.candidateInput ∧ e.candidateOutputTokens = totals.candidateOutput ∧
    e.semanticJudgeCalls = totals.judgeCalls ∧ e.judgeInputTokens = totals.judgeInput ∧
    e.judgeOutputTokens = totals.judgeOutput ∧ e.expectedTotalCostUsd = e.totalBudgetUsd ∧
    e.worstCase.candidateOutputTokens = totals.worstCandidateOutput ∧
    e.worstCase.judgeInputTokens = totals.worstJudgeInput ∧
    e.worstCase.judgeOutputTokens = totals.worstJudgeOutput := by
  simp only [estimate, Option.bind_eq_bind, Option.bind_eq_some_iff] at h
  obtain ⟨totals, htotals, expected, hexpected, worst, hworst, heq⟩ := h
  cases heq
  exact ⟨totals, totalsOf htotals, hexpected, hworst, rfl, rfl, rfl, rfl, rfl, rfl, rfl, rfl, rfl, rfl, rfl⟩

/-! ## What the worst case bounds -/

/-- Every expected figure is at most its worst case. -/
structure CostEstimate.Bounded (e : CostEstimate) : Prop where
  candidateOutputTokens : e.candidateOutputTokens ≤ e.worstCase.candidateOutputTokens
  candidateCostUsd : e.candidateCostUsd.toRat ≤ e.worstCase.candidateCostUsd.toRat
  judgeInputTokens : e.judgeInputTokens ≤ e.worstCase.judgeInputTokens
  judgeOutputTokens : e.judgeOutputTokens ≤ e.worstCase.judgeOutputTokens
  judgeCostUsd : e.judgeCostUsd.toRat ≤ e.worstCase.judgeCostUsd.toRat
  retryContingencyUsd : e.retryContingencyUsd.toRat ≤ e.worstCase.retryContingencyUsd.toRat
  totalBudgetUsd : e.totalBudgetUsd.toRat ≤ e.worstCase.totalCostUsd.toRat
  expectedTotalCostUsd : e.expectedTotalCostUsd.toRat ≤ e.worstCase.totalCostUsd.toRat

/-- Every figure is at most that of another estimate. -/
structure CostEstimate.Le (e e' : CostEstimate) : Prop where
  requests : e.requests ≤ e'.requests
  candidateCalls : e.candidateCalls ≤ e'.candidateCalls
  candidateInputTokens : e.candidateInputTokens ≤ e'.candidateInputTokens
  candidateOutputTokens : e.candidateOutputTokens ≤ e'.candidateOutputTokens
  candidateCostUsd : e.candidateCostUsd.toRat ≤ e'.candidateCostUsd.toRat
  semanticJudgeCalls : e.semanticJudgeCalls ≤ e'.semanticJudgeCalls
  judgeInputTokens : e.judgeInputTokens ≤ e'.judgeInputTokens
  judgeOutputTokens : e.judgeOutputTokens ≤ e'.judgeOutputTokens
  judgeCostUsd : e.judgeCostUsd.toRat ≤ e'.judgeCostUsd.toRat
  retryContingencyUsd : e.retryContingencyUsd.toRat ≤ e'.retryContingencyUsd.toRat
  totalBudgetUsd : e.totalBudgetUsd.toRat ≤ e'.totalBudgetUsd.toRat
  expectedTotalCostUsd : e.expectedTotalCostUsd.toRat ≤ e'.expectedTotalCostUsd.toRat
  worstCandidateOutputTokens : e.worstCase.candidateOutputTokens ≤ e'.worstCase.candidateOutputTokens
  worstCandidateCostUsd : e.worstCase.candidateCostUsd.toRat ≤ e'.worstCase.candidateCostUsd.toRat
  worstJudgeInputTokens : e.worstCase.judgeInputTokens ≤ e'.worstCase.judgeInputTokens
  worstJudgeOutputTokens : e.worstCase.judgeOutputTokens ≤ e'.worstCase.judgeOutputTokens
  worstJudgeCostUsd : e.worstCase.judgeCostUsd.toRat ≤ e'.worstCase.judgeCostUsd.toRat
  worstRetryContingencyUsd : e.worstCase.retryContingencyUsd.toRat ≤ e'.worstCase.retryContingencyUsd.toRat
  worstTotalCostUsd : e.worstCase.totalCostUsd.toRat ≤ e'.worstCase.totalCostUsd.toRat

/-! ## The summaries that the judge reads -/

/-- The task is one that the judge reads. -/
def isSummary (task : BenchmarkTask) : Bool := task.category = .summarization

/-- The visible length of a summary: three quarters of its words and at least twenty, or 35 hundredths of its limit. -/
def summaryTokens (task : BenchmarkTask) : ℕ :=
  max (max 20 (3 * (maxWords task).getD 0 / 4).toNat) (7 * task.maxOutputTokens.val / 20)

/-- The summaries of the tasks are within the limits, with the mean headroom of the four models. -/
def SummariesCovered (tasks : List BenchmarkTask) : Prop :=
  ((tasks.filter isSummary).map summaryTokens).sum ≤
    ((tasks.filter isSummary).map fun task => task.maxOutputTokens.val + 128).sum

instance (tasks : List BenchmarkTask) : Decidable (SummariesCovered tasks) := by
  unfold SummariesCovered
  infer_instance

theorem sum_callAllowance (task : BenchmarkTask) :
    (routingBenchmarkModels.map (callAllowance task)).sum = 4 * (task.maxOutputTokens.val + 128) := by
  have hmodel : ∀ headroom expected hheadroom hexpected model,
      callAllowance task (benchmarkExecutionModel model headroom expected hheadroom hexpected) =
        task.maxOutputTokens.val + headroom := by
    intro headroom expected hheadroom hexpected model
    rw [callAllowance, ModelConfig.val_providerOutputAllowance]
    rfl
  simp only [routingBenchmarkModels, List.map_cons, List.map_nil, List.sum_cons, List.sum_nil, hmodel]
  ring

theorem sum_const (n : ℕ) : (routingBenchmarkModels.map fun _ => n).sum = 4 * n := by
  simp only [routingBenchmarkModels, List.map_cons, List.map_nil, List.sum_cons, List.sum_nil]
  ring

/-- The judge reads more than the worst case by what the summaries exceed the limits. -/
theorem judgeInput_add (tasks : List BenchmarkTask) : callSum (judged (readOf str)) tasks +
      4 * ((tasks.filter isSummary).map fun task => task.maxOutputTokens.val + 128).sum =
    callSum (judged worstReadOf) tasks +
      4 * ((tasks.filter isSummary).map fun task => expectedVisible task (canonicalOf str task)).sum := by
  induction tasks with
  | nil => rfl
  | cons task tasks ih =>
    rw [callSum_cons, callSum_cons]
    by_cases hsummary : task.category = .summarization
    · have hread : (routingBenchmarkModels.map (judged (readOf str) task)).sum =
          4 * (inputsOf task + expectedVisible task (canonicalOf str task) + 320) := by
        rw [← sum_const]
        refine congrArg List.sum (List.map_congr_left fun model _ => ?_)
        rw [judged, if_pos hsummary]
        rfl
      have hworst : (routingBenchmarkModels.map (judged worstReadOf task)).sum =
          4 * (inputsOf task + 320) + 4 * (task.maxOutputTokens.val + 128) := by
        rw [← sum_callAllowance, ← sum_const, ← List.sum_map_add]
        refine congrArg List.sum (List.map_congr_left fun model _ => ?_)
        rw [judged, if_pos hsummary, worstReadOf]
        ring
      rw [List.filter_cons_of_pos (by simpa [isSummary] using hsummary), List.map_cons, List.map_cons, List.sum_cons,
        List.sum_cons, hread, hworst]
      omega
    · have hnone : ∀ figure, (routingBenchmarkModels.map (judged figure task)).sum = 0 := by
        intro figure
        have hzero := sum_const 0
        rw [Nat.mul_zero] at hzero
        rw [← hzero]
        refine congrArg List.sum (List.map_congr_left fun model _ => ?_)
        rw [judged, if_neg hsummary]
      rw [List.filter_cons_of_neg (by simpa [isSummary] using hsummary), hnone, hnone, zero_add, zero_add]
      exact ih

theorem le_callSum_judged {task : BenchmarkTask} (htask : task ∈ tasks) (hsummary : task.category = .summarization) :
    expectedVisible task (canonicalOf str task) ≤ callSum (judged (readOf str)) tasks := by
  have hmember : (routingBenchmarkModels.map (judged (readOf str) task)).sum ≤ callSum (judged (readOf str)) tasks :=
    List.single_le_sum (fun _ _ => Nat.zero_le _) _ (List.mem_map_of_mem htask)
  have hread : (routingBenchmarkModels.map (judged (readOf str) task)).sum =
      4 * (inputsOf task + expectedVisible task (canonicalOf str task) + 320) := by
    rw [← sum_const]
    refine congrArg List.sum (List.map_congr_left fun model _ => ?_)
    rw [judged, if_pos hsummary]
    rfl
  omega

/-! ## Whole tokens -/

/-- Hundredths of a number below the bound are not rounded before they are truncated. -/
theorem toNat_decimalToInt (n c : ℕ)
    (h : (decimalToInt (Decimal.mul defaultPrecision (.ofInt n) ⟨c, -2⟩)).toNat < 10 ^ 26) :
    (decimalToInt (Decimal.mul defaultPrecision (.ofInt n) ⟨c, -2⟩)).toNat = n * c / 100 := by
  have hfollows := Decimal.Follows.mul_natCast (e := -2) defaultPrecision_pos n c
  have hnonneg := Decimal.toRat_nonneg hfollows.nonneg
  have hbound : (10 : ℚ) ^ (-2 + (defaultPrecision : ℤ)) = ((10 ^ 26 : ℕ) : ℚ) := by
    rw [defaultPrecision]
    norm_num
  rw [decimalToInt, RoundingMode.truncate, if_pos hnonneg] at h ⊢
  rcases hfollows.value with ⟨hval, _⟩ | ⟨hlarge, _⟩
  · rw [hval]
    have hdiv : (n : ℚ) * (c * 10 ^ (-2 : ℤ)) = ((n * c : ℕ) : ℚ) / ((100 : ℕ) : ℚ) := by
      push_cast
      norm_num
      ring
    rw [hdiv, Int.floor_toNat, Nat.floor_div_eq_div]
  · rw [hbound, Int.floor_toNat] at *
    exact absurd (Nat.le_floor hlarge) (not_le.mpr h)

/-- A product with a negative number truncates to no more than zero. -/
theorem decimalToInt_nonpos {n : ℤ} (hn : n ≤ 0) (c : ℕ) :
    decimalToInt (Decimal.mul defaultPrecision (.ofInt n) ⟨c, -2⟩) ≤ 0 := by
  have hcoeff : (Decimal.mul defaultPrecision (.ofInt n) ⟨c, -2⟩).coeff ≤ 0 :=
    Decimal.fix_nonpos (mul_nonpos_of_nonpos_of_nonneg hn (Int.natCast_nonneg c))
  have hval : (Decimal.mul defaultPrecision (.ofInt n) ⟨c, -2⟩).toRat ≤ 0 := by
    refine mul_nonpos_of_nonpos_of_nonneg ?_ (by positivity)
    exact_mod_cast hcoeff
  rw [decimalToInt, RoundingMode.truncate]
  split
  · rename_i hnonneg
    rw [le_antisymm hval hnonneg, Int.floor_zero]
  · exact Int.ceil_le.mpr (by exact_mod_cast hval)

/-- The visible length of a summary, where it is below the bound. -/
theorem expectedVisible_eq {task : BenchmarkTask} (hsummary : task.category = .summarization)
    (hcanonical : (canonicalTokens str task).isSome)
    (hbound : expectedVisible task (canonicalOf str task) < 10 ^ 26) :
    expectedVisible task (canonicalOf str task) = summaryTokens task := by
  rw [canonicalTokens, if_pos hsummary, Option.isSome_map] at hcanonical
  obtain ⟨words, hwords⟩ := Option.isSome_iff_exists.mp hcanonical
  have hcanonicalOf : canonicalOf str task =
      (max 20 (decimalToInt (Decimal.mul defaultPrecision (.ofInt words) ⟨75, -2⟩))).toNat := by
    rw [canonicalOf, canonicalTokens, if_pos hsummary, hwords]
    rfl
  rw [expectedVisible, hcanonicalOf] at hbound ⊢
  obtain ⟨hleft, hright⟩ := max_lt_iff.mp hbound
  have hlimit := toNat_decimalToInt task.maxOutputTokens.val 35 hright
  have hthree : (max 20 (decimalToInt (Decimal.mul defaultPrecision (.ofInt words) ⟨75, -2⟩))).toNat =
      max 20 (3 * words / 4).toNat := by
    rcases le_total words 0 with hneg | hpos
    · have hzero := decimalToInt_nonpos hneg 75
      have hcast : (75 : ℤ) = ((75 : ℕ) : ℤ) := rfl
      rw [hcast]
      omega
    · obtain ⟨n, rfl⟩ := Int.eq_ofNat_of_zero_le hpos
      have hexact := toNat_decimalToInt n 75 (by
        have hcast : ((75 : ℕ) : ℤ) = 75 := rfl
        rw [hcast]
        omega)
      have hcast : ((75 : ℕ) : ℤ) = 75 := rfl
      rw [hcast] at hexact
      omega
  have hcast : ((35 : ℕ) : ℤ) = 35 := rfl
  rw [hcast] at hlimit
  rw [hthree, hlimit, summaryTokens, hwords, Option.getD_some]
  have hdiv : task.maxOutputTokens.val * 35 / 100 = 7 * task.maxOutputTokens.val / 20 := by omega
  rw [hdiv]

/-! ## The bound -/

theorem judgeCost_follows (i o : ℕ) :
    Decimal.Follows defaultPrecision (-8) (judgeCost i o) (exactTokenCost i o 1000 5000) :=
  tokenCost_follows i o 1000 5000

/-- A printed cost of the judge is monotone in its tokens. -/
theorem judgeCost_mono {i i' o o' : ℕ} {r r' : Decimal} (h : quantizeUsd (judgeCost i o) = some r)
    (h' : quantizeUsd (judgeCost i' o') = some r') (hi : i ≤ i') (ho : o ≤ o') :
    (judgeCost i o).toRat ≤ (judgeCost i' o').toRat := by
  rw [exact_of_quantizeUsd (judgeCost_follows i o) h, exact_of_quantizeUsd (judgeCost_follows i' o') h']
  exact exactTokenCost_mono hi ho

/-- The judge's input is small where its cost is printed. -/
theorem judgeInput_lt {i o : ℕ} {r : Decimal} (h : quantizeUsd (judgeCost i o) = some r) : i < 10 ^ 26 := by
  have hlt := Decimal.lt_of_quantize defaultPrecision_pos h
  rw [exact_of_quantizeUsd (judgeCost_follows i o) h, exactTokenCost, div_lt_iff₀ (by positivity)] at hlt
  have hbound : (10 : ℚ) ^ (-8 + (defaultPrecision : ℤ)) * 10 ^ 6 = 100000000000000000000000000 := by
    rw [defaultPrecision]
    norm_num
  have hinput : (i : ℚ) * ((1000 : ℕ) * 10 ^ (-2 : ℤ)) = 10 * i := by
    push_cast
    norm_num
    ring
  have houtput : (0 : ℚ) ≤ o * ((5000 : ℕ) * 10 ^ (-2 : ℤ)) := by positivity
  have hi : (0 : ℚ) ≤ i := Nat.cast_nonneg i
  rw [hbound, hinput] at hlt
  have hcast : (i : ℚ) < ((100000000000000000000000000 : ℕ) : ℚ) := by
    push_cast
    linarith
  exact Nat.cast_lt.mp hcast

theorem canonicalTokens_isSome {e : CostEstimate} (h : estimate str tasks = some e) :
    ∀ task ∈ tasks, (canonicalTokens str task).isSome := by
  have hloop : ∀ totals totals', tasks.foldlM (Totals.addTask str) totals = some totals' →
      ∀ task ∈ tasks, (canonicalTokens str task).isSome := by
    clear h
    induction tasks with
    | nil =>
      intro _ _ _ task htask
      cases htask
    | cons task tasks ih =>
      intro totals totals' h
      rw [List.foldlM_cons] at h
      obtain ⟨middle, htask, hrest⟩ := Option.bind_eq_some_iff.mp h
      obtain ⟨canonical, hcanonical, _⟩ := Option.map_eq_some_iff.mp htask
      refine List.forall_mem_cons.mpr ⟨?_, ih middle totals' hrest⟩
      rw [hcanonical]
      rfl
  simp only [estimate, Option.bind_eq_bind, Option.bind_eq_some_iff] at h
  obtain ⟨totals, htotals, _⟩ := h
  exact hloop _ _ htotals

/-- The judge's input is within its worst case exactly where the summaries are covered. -/
theorem judgeInput_le_iff {e : CostEstimate} (h : estimate str tasks = some e) :
    e.judgeInputTokens ≤ e.worstCase.judgeInputTokens ↔ SummariesCovered tasks := by
  obtain ⟨totals, htotals, hbudget, _, _, _, _, _, _, hinput, _, _, _, hworst, _⟩ := estimate_eq_some h
  have hsmall := judgeInput_lt (budgetFigures_eq_some hbudget).2.1
  rw [htotals.judgeInput] at hsmall
  have hvisible : (tasks.filter isSummary).map (fun task => expectedVisible task (canonicalOf str task)) =
      (tasks.filter isSummary).map summaryTokens := by
    refine List.map_congr_left fun task htask => ?_
    obtain ⟨hmem, hsummary⟩ := List.mem_filter.mp htask
    have hsummary' : task.category = .summarization := of_decide_eq_true hsummary
    exact expectedVisible_eq hsummary' (canonicalTokens_isSome h task hmem)
      ((le_callSum_judged hmem hsummary').trans_lt hsmall)
  have hsum := @judgeInput_add str tasks
  rw [hvisible] at hsum
  rw [hinput, hworst, htotals.judgeInput, htotals.worstJudgeInput, SummariesCovered]
  omega

/-- **The worst case bounds the expected figures** exactly where the summaries are covered. -/
theorem bounded_iff {e : CostEstimate} (h : estimate str tasks = some e) : e.Bounded ↔ SummariesCovered tasks := by
  rw [← judgeInput_le_iff h]
  refine ⟨fun hbounded => hbounded.judgeInputTokens, fun hinput => ?_⟩
  obtain ⟨totals, htotals, hbudget, hworst, _, _, _, houtput, _, hjudge, hjudgeOut, htotal, hworstOutput, hworstJudge,
    hworstJudgeOut⟩ := estimate_eq_some h
  have hcap : ∀ task model, outputOf str task model ≤ callAllowance task model := fun task model => min_le_left _ _
  have hjudgeOutput : totals.judgeOutput ≤ totals.worstJudgeOutput := by
    rw [htotals.judgeOutput, htotals.worstJudgeOutput]
    refine callSum_mono fun task _ model _ => ?_
    rw [judged, judged]
    split <;> omega
  have hjudgeInput : totals.judgeInput ≤ totals.worstJudgeInput := by
    rwa [hjudge, hworstJudge] at hinput
  have hcandidate : totals.candidateCost.toRat ≤ totals.worstCandidateCost.toRat := by
    rw [exact_of_quantizeUsd htotals.candidateCost (budgetFigures_eq_some hbudget).1,
      exact_of_quantizeUsd htotals.worstCandidateCost (budgetFigures_eq_some hworst).1]
    exact callSum_mono fun task _ model _ => exactTokenCost_mono le_rfl (hcap task model)
  obtain ⟨hfirst, hsecond, hthird, hfourth⟩ := budgetFigures_mono htotals.candidateCost.nonneg
    htotals.worstCandidateCost.nonneg (judgeCost_follows _ _).nonneg (judgeCost_follows _ _).nonneg hcandidate
    (judgeCost_mono (budgetFigures_eq_some hbudget).2.1 (budgetFigures_eq_some hworst).2.1 hjudgeInput hjudgeOutput)
    hbudget hworst
  refine ⟨?_, hfirst, hinput, ?_, hsecond, hthird, hfourth, ?_⟩
  · rw [houtput, hworstOutput, htotals.candidateOutput, htotals.worstCandidateOutput]
    exact callSum_mono fun task _ model _ => hcap task model
  · rw [hjudgeOut, hworstJudgeOut]
    exact hjudgeOutput
  · rw [htotal]
    exact hfourth

theorem exactCost_nonneg (model : ModelConfig) (i o : ℕ) : 0 ≤ exactCost model i o := by
  rw [exactCost, exactTokenCost]
  positivity

/-- An estimate of some of the tasks is at most that of the tasks. -/
theorem estimate_le {tasks' : List BenchmarkTask} {p : BenchmarkTask → Bool} {e e' : CostEstimate}
    (hsub : tasks.Perm (tasks'.filter p)) (h : estimate str tasks = some e) (h' : estimate str tasks' = some e') :
    e.Le e' := by
  obtain ⟨totals, htotals, hbudget, hworst, hrequests, hcalls, hinput, houtput, hjudgeCalls, hjudge, hjudgeOut, htotal,
    hworstOutput, hworstJudge, hworstJudgeOut⟩ := estimate_eq_some h
  obtain ⟨totals', htotals', hbudget', hworst', hrequests', hcalls', hinput', houtput', hjudgeCalls', hjudge',
    hjudgeOut', htotal', hworstOutput', hworstJudge', hworstJudgeOut'⟩ := estimate_eq_some h'
  have hcount : ∀ figure : BenchmarkTask → ModelConfig → ℕ, callSum figure tasks ≤ callSum figure tasks' := by
    intro figure
    rw [callSum_perm hsub]
    exact callSum_filter_le p fun _ _ => Nat.zero_le _
  have hcost : ∀ outputs : BenchmarkTask → ModelConfig → ℕ,
      callSum (fun task model => exactCost model (inputsOf task) (outputs task model)) tasks ≤
        callSum (fun task model => exactCost model (inputsOf task) (outputs task model)) tasks' := by
    intro outputs
    rw [callSum_perm hsub]
    exact callSum_filter_le p fun _ _ => exactCost_nonneg _ _ _
  have hlength : tasks.length ≤ tasks'.length := by
    rw [hsub.length_eq]
    exact List.length_filter_le _ _
  have hcandidate : totals.candidateCost.toRat ≤ totals'.candidateCost.toRat := by
    rw [exact_of_quantizeUsd htotals.candidateCost (budgetFigures_eq_some hbudget).1,
      exact_of_quantizeUsd htotals'.candidateCost (budgetFigures_eq_some hbudget').1]
    exact hcost _
  have hworstCandidate : totals.worstCandidateCost.toRat ≤ totals'.worstCandidateCost.toRat := by
    rw [exact_of_quantizeUsd htotals.worstCandidateCost (budgetFigures_eq_some hworst).1,
      exact_of_quantizeUsd htotals'.worstCandidateCost (budgetFigures_eq_some hworst').1]
    exact hcost _
  have hjudgeLe : totals.judgeInput ≤ totals'.judgeInput ∧ totals.judgeOutput ≤ totals'.judgeOutput := by
    rw [htotals.judgeInput, htotals'.judgeInput, htotals.judgeOutput, htotals'.judgeOutput]
    exact ⟨hcount _, hcount _⟩
  have hworstJudgeLe : totals.worstJudgeInput ≤ totals'.worstJudgeInput ∧
      totals.worstJudgeOutput ≤ totals'.worstJudgeOutput := by
    rw [htotals.worstJudgeInput, htotals'.worstJudgeInput, htotals.worstJudgeOutput, htotals'.worstJudgeOutput]
    exact ⟨hcount _, hcount _⟩
  obtain ⟨hfirst, hsecond, hthird, hfourth⟩ := budgetFigures_mono htotals.candidateCost.nonneg
    htotals'.candidateCost.nonneg (judgeCost_follows _ _).nonneg (judgeCost_follows _ _).nonneg hcandidate
    (judgeCost_mono (budgetFigures_eq_some hbudget).2.1 (budgetFigures_eq_some hbudget').2.1 hjudgeLe.1 hjudgeLe.2)
    hbudget hbudget'
  obtain ⟨hworstFirst, hworstSecond, hworstThird, hworstFourth⟩ := budgetFigures_mono
    htotals.worstCandidateCost.nonneg htotals'.worstCandidateCost.nonneg (judgeCost_follows _ _).nonneg
    (judgeCost_follows _ _).nonneg hworstCandidate (judgeCost_mono (budgetFigures_eq_some hworst).2.1
      (budgetFigures_eq_some hworst').2.1 hworstJudgeLe.1 hworstJudgeLe.2) hworst hworst'
  refine ⟨?_, ?_, ?_, ?_, hfirst, ?_, ?_, ?_, hsecond, hthird, hfourth, ?_, ?_, hworstFirst, ?_, ?_, hworstSecond,
    hworstThird, hworstFourth⟩
  · rw [hrequests, hrequests']
    exact hlength
  · rw [hcalls, hcalls']
    exact Nat.mul_le_mul_right 4 hlength
  · rw [hinput, hinput', htotals.candidateInput, htotals'.candidateInput]
    exact hcount _
  · rw [houtput, houtput', htotals.candidateOutput, htotals'.candidateOutput]
    exact hcount _
  · rw [hjudgeCalls, hjudgeCalls', htotals.judgeCalls, htotals'.judgeCalls]
    exact hcount _
  · rw [hjudge, hjudge']
    exact hjudgeLe.1
  · rw [hjudgeOut, hjudgeOut']
    exact hjudgeLe.2
  · rw [htotal, htotal']
    exact hfourth
  · rw [hworstOutput, hworstOutput', htotals.worstCandidateOutput, htotals'.worstCandidateOutput]
    exact hcount _
  · rw [hworstJudge, hworstJudge']
    exact hworstJudgeLe.1
  · rw [hworstJudgeOut, hworstJudgeOut']
    exact hworstJudgeLe.2

/-! ## The pilot -/

/-- The tasks that a pilot names. -/
def pilotTasks (dataset : BenchmarkDataset) (pilot : List String) : List BenchmarkTask :=
  dataset.tasks.filter fun task => task.taskId.value ∈ pilot

/-- Distinct names of tasks are looked up to the tasks that they name. -/
theorem perm_pilotTasks {dataset : BenchmarkDataset} {pilot : List String} (hnodup : pilot.Nodup)
    (h : (pilot.mapM fun taskId => dataset.tasks.find? fun task => task.taskId.value = taskId) = some tasks) :
    tasks.Perm (pilotTasks dataset pilot) := by
  have hnames : tasks.map (·.taskId.value) = pilot ∧ ∀ task ∈ tasks, task ∈ dataset.tasks := by
    clear hnodup
    induction pilot generalizing tasks with
    | nil =>
      cases h
      exact ⟨rfl, fun task htask => absurd htask List.not_mem_nil⟩
    | cons taskId pilot ih =>
      rw [List.mapM_cons] at h
      obtain ⟨task, htask, hrest⟩ := Option.bind_eq_some_iff.mp h
      obtain ⟨rest, hrest', heq⟩ := Option.bind_eq_some_iff.mp hrest
      cases heq
      obtain ⟨hnames, hmem⟩ := ih hrest'
      refine ⟨?_, List.forall_mem_cons.mpr ⟨List.mem_of_find?_eq_some htask, hmem⟩⟩
      have hname := List.find?_some htask
      rw [List.map_cons, hnames, of_decide_eq_true hname]
  have hdistinct : dataset.tasks.Nodup := dataset.tasks_nodup.of_map _
  have htasks : tasks.Nodup := by
    rw [← hnames.1] at hnodup
    exact hnodup.of_map _
  refine (List.perm_ext_iff_of_nodup htasks (hdistinct.filter _)).mpr fun task => ?_
  rw [List.mem_filter, decide_eq_true_iff]
  constructor
  · intro htask
    refine ⟨hnames.2 task htask, ?_⟩
    rw [← hnames.1]
    exact List.mem_map_of_mem htask
  · rintro ⟨hmem, hnamed⟩
    rw [← hnames.1] at hnamed
    obtain ⟨task', htask', hname⟩ := List.mem_map.mp hnamed
    have hsame : task' = task := by
      refine List.inj_on_of_nodup_map dataset.tasks_nodup (hnames.2 task' htask') hmem ?_
      exact TaskId.value_injective hname
    rwa [← hsame]

theorem summariesCovered_perm {tasks' : List BenchmarkTask} (h : tasks.Perm tasks') :
    SummariesCovered tasks ↔ SummariesCovered tasks' := by
  rw [SummariesCovered, SummariesCovered, ((h.filter _).map _).sum_eq, ((h.filter _).map _).sum_eq]

/-- **The worst case bounds the budget**, of the pilot and of the data set, exactly where the summaries of both are
covered, and the pilot is within the data set. -/
theorem buildCostEstimate_bounded_iff {dataset : BenchmarkDataset} {pilot : List String} {e full : CostEstimate}
    (hnodup : pilot.Nodup) (h : buildCostEstimate str dataset pilot = some (e, full)) :
    (e.Bounded ∧ full.Bounded ∧ e.Le full) ↔
      SummariesCovered (pilotTasks dataset pilot) ∧ SummariesCovered dataset.tasks := by
  simp only [buildCostEstimate, Option.bind_eq_bind, Option.bind_eq_some_iff] at h
  obtain ⟨tasks, htasks, e', he, full', hfull, heq⟩ := h
  cases heq
  have hperm := perm_pilotTasks hnodup htasks
  have hle : e.Le full := estimate_le hperm he hfull
  rw [bounded_iff he, bounded_iff hfull, summariesCovered_perm hperm]
  exact ⟨fun hall => ⟨hall.1, hall.2.1⟩, fun hall => ⟨hall.1, hall.2, hle⟩⟩

/-- A summary of at most a thousand words, with a limit of 256 tokens. -/
def wordySummary : BenchmarkTask :=
  { BenchmarkTask.sample with
    category := .summarization
    evaluationMetadata :=
      [(PyStr.ofString "deterministic_constraints", .dict [(PyStr.ofString "max_words", .int 1000)])] }

/-- The data set of the wordy summary. -/
def wordyDataset : BenchmarkDataset :=
  { BenchmarkDataset.sample with
    tasks := [wordySummary]
    tasks_nonempty := List.cons_ne_nil _ _
    tasks_nodup := List.nodup_singleton _ }

/-- The judge is expected to read 750 tokens of each of its summaries, of which no model may write more than 512. -/
theorem wordy_summary_exceeds_worst_case : ¬ ∀ (str : PyJson → PyStr) (dataset : BenchmarkDataset)
    (pilot : List String) (e full : CostEstimate), pilot.Nodup →
      buildCostEstimate str dataset pilot = some (e, full) → e.Bounded ∧ full.Bounded ∧ e.Le full := by
  intro hall
  have hfigures : (buildCostEstimate (fun _ => []) wordyDataset ["task-1"]).map
      (fun report => (report.2.judgeInputTokens, report.2.worstCase.judgeInputTokens)) = some (4284, 2820) := by
    decide +kernel
  obtain ⟨⟨e, full⟩, hreport, hpair⟩ := Option.map_eq_some_iff.mp hfigures
  obtain ⟨_, hfull, _⟩ := hall _ _ _ e full (List.nodup_singleton _) hreport
  obtain ⟨hexpected, hworst⟩ := Prod.mk.inj hpair
  have hle := hfull.judgeInputTokens
  dsimp only at hexpected hworst
  omega

/-- The condition decides the estimate of the sample data set. -/
theorem buildCostEstimate_bounded_iff_sample : ∃ e full,
    buildCostEstimate (fun _ => []) BenchmarkDataset.sample ["task-1"] = some (e, full) ∧
      ((e.Bounded ∧ full.Bounded ∧ e.Le full) ↔
        SummariesCovered (pilotTasks BenchmarkDataset.sample ["task-1"]) ∧
          SummariesCovered BenchmarkDataset.sample.tasks) := by
  have hsome : (buildCostEstimate (fun _ => []) BenchmarkDataset.sample ["task-1"]).isSome := by decide +kernel
  obtain ⟨⟨e, full⟩, hreport⟩ := Option.isSome_iff_exists.mp hsome
  exact ⟨e, full, hreport, buildCostEstimate_bounded_iff (List.nodup_singleton _) hreport⟩

end RouteLLM.RoutingBenchmark
