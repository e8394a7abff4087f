import Mathlib.Algebra.BigOperators.Group.List.Lemmas
import RouteLLM.Lib.Labels
import RouteLLM.Routing.Analysis

/-!
# Each request is scored once

`evaluate_decisions` compares two numbers of tasks and looks up the rows that are selected. An abstention
is not looked up, so that it may name a task that was never observed. Besides, the totals are taken in the
arithmetic of the machine: no request at all divides by zero, latencies may overflow, and costs are added
in the precision of the context.
-/

namespace RouteLLM.RoutingAnalysis

variable {observations : List RowObservation} {decisions : List RoutingDecision}

/-- The row that a decision selects, where there is one. -/
def outcomeOf (observations : List RowObservation) (decision : RoutingDecision) :
    Option RowObservation :=
  decision.candidateId.bind (rowOf observations decision.taskId)

/-- The rows that the decisions select. -/
def selectedRows (observations : List RowObservation) (decisions : List RoutingDecision) :
    List RowObservation :=
  decisions.filterMap (outcomeOf observations)

/-- The decisions in the order of their tasks. -/
def inTaskOrder (decisions : List RoutingDecision) : List RoutingDecision :=
  KeySort.sortBy (·.taskId) decisions

/-- The summary scores each request once. -/
structure ScoresOnce (observations : List RowObservation) (decisions : List RoutingDecision)
    (summary : PolicySummary) : Prop where
  covered : ∀ task ∈ tasks observations, (decisions.map (·.taskId)).count task = 1
  named : ∀ d ∈ decisions, d.taskId ∈ tasks observations
  requests : summary.totalRequests = (tasks observations).length
  labels : summary.validSelectedLabels + summary.missingSelectedLabels = summary.selectedRows
  acceptable : summary.acceptable + summary.unacceptable = summary.validSelectedLabels
  abstentions : summary.selectedRows + decisions.countP (·.candidateId = none) =
    summary.totalRequests
  distribution : (summary.modelDistribution.map (·.count)).sum = summary.totalRequests
  cost : summary.totalRealizedCostUsd.toRat =
    ((knownCosts (selectedRows observations decisions)).map Decimal.toRat).sum

/-- The evaluation raises a `ValueError` or scores each request once. -/
def Scored (observations : List RowObservation) (decisions : List RoutingDecision) : Prop :=
  (∃ message, evaluateDecisions observations decisions = .error (.raised .valueError message)) ∨
    ∃ summary records, evaluateDecisions observations decisions = .ok (summary, records) ∧
      ScoresOnce observations decisions summary

/-- The checks that the evaluation makes. -/
structure Checked (observations : List RowObservation) (decisions : List RoutingDecision) :
    Prop where
  length_eq : decisions.length = (tasks observations).length
  distinct : (decisions.map (·.taskId)).dedup.length = (tasks observations).length
  available : ∀ d ∈ decisions, ∀ c, d.candidateId = some c → (rowOf observations d.taskId c).isSome

/-- The quality of a row as a float. -/
def qualityOf (row : RowObservation) : Option NonnegFloat :=
  row.qualityScore.map fun p => ⟨.finite p.float, .inr ⟨p.float, rfl, p.nonneg⟩⟩

/-- The floats of the selected rows can be added. -/
def Summable (xs : List NonnegFloat) : Prop := PyFloat.finiteTotal xs < 2 ^ 1024 - 2 ^ 970

/-- What it does not check: there is a request, the abstentions name observed tasks, the qualities and the
latencies of the selected rows do not overflow, and the roundings of their costs, in the order of the
tasks, cancel. -/
structure Unchecked (observations : List RowObservation) (decisions : List RoutingDecision) :
    Prop where
  nonempty : observations ≠ []
  abstentions : ∀ d ∈ decisions, d.candidateId = none → d.taskId ∈ tasks observations
  qualities : Summable ((selectedRows observations decisions).filterMap qualityOf)
  latencies : Summable ((selectedRows observations decisions).map (·.latencyMs))
  costs : Decimal.sumErrors ambientPrecision (.ofInt 0)
    (knownCosts (selectedRows observations (inTaskOrder decisions))) = 0

/-! ## Rows -/

theorem mem_tasks {task : String} :
    task ∈ tasks observations ↔ ∃ row ∈ observations, row.taskId = task := by
  rw [tasks, List.mem_dedup, List.mem_map]

theorem mem_of_rowOf {task candidate : String} {row : RowObservation}
    (h : rowOf observations task candidate = some row) :
    row ∈ observations ∧ row.taskId = task ∧ row.candidateId = candidate := by
  have hids := List.find?_some h
  exact ⟨List.mem_reverse.mp (List.mem_of_find?_eq_some h), of_decide_eq_true hids⟩

/-- A decision is resolved to its outcome where its row is available. -/
theorem selectedRow_eq_ok (d : RoutingDecision) (outcome : Option RowObservation) :
    selectedRow observations d = .ok outcome ↔
      (∀ c, d.candidateId = some c → (rowOf observations d.taskId c).isSome) ∧
        outcome = outcomeOf observations d := by
  unfold selectedRow outcomeOf
  cases d.candidateId with
  | none =>
    dsimp only [Option.bind_none]
    rw [Except.ok.injEq]
    constructor
    · intro h
      exact ⟨fun c hc => (by cases hc), h.symm⟩
    · intro h
      exact h.2.symm
  | some c =>
    dsimp only [Option.bind_some]
    cases hrow : rowOf observations d.taskId c with
    | none =>
      dsimp only
      refine iff_of_false (fun h => by cases h) fun h => ?_
      have hsome := h.1 c rfl
      rw [hrow] at hsome
      cases hsome
    | some row =>
      dsimp only
      rw [Except.ok.injEq]
      constructor
      · intro h
        refine ⟨fun c' hc => ?_, h.symm⟩
        cases hc
        rw [hrow]
        rfl
      · intro h
        exact h.2.symm

theorem error_of_selectedRow {d : RoutingDecision} {e : Exc}
    (h : selectedRow observations d = .error e) : ∃ message, e = .raised .valueError message := by
  unfold selectedRow at h
  split at h
  · cases h
  · split at h
    · cases h
    · cases h
      exact ⟨_, rfl⟩

/-! ## The means -/

/-- A mean is taken where the floats can be added, and an overflow is raised elsewhere. -/
theorem meanOf_eq_ok (xs : List NonnegFloat) :
    (∃ mean, meanOf (xs.map (·.float)) = .ok mean) ↔ Summable xs := by
  unfold meanOf Summable
  by_cases hnil : xs.map (·.float) = []
  · rw [if_pos hnil, List.map_eq_nil_iff.mp hnil]
    refine iff_of_true ⟨none, rfl⟩ ?_
    exact sub_pos.mpr (pow_lt_pow_right₀ (by norm_num) (by norm_num))
  · rw [if_neg hnil, ← PyFloat.isSome_fmean?_iff]
    cases hmean : PyFloat.fmean? (xs.map (·.float)) with
    | none => exact iff_of_false (fun h => by obtain ⟨_, h⟩ := h; cases h) (fun h => by cases h)
    | some mean => exact iff_of_true ⟨_, rfl⟩ rfl

theorem error_of_meanOf {xs : List PyFloat} {e : Exc} (h : meanOf xs = .error e) :
    ∃ message, e = .raised .overflowError message := by
  unfold meanOf at h
  split at h
  · cases h
  · split at h
    · cases h
    · cases h
      exact ⟨_, rfl⟩

/-! ## The summary -/

/-- The qualities of the valid rows are those of all rows: a missing row has none. -/
theorem qualities_of_valid (rows : List RowObservation) :
    (rows.filter (·.labelStatus = .valid)).filterMap
        (fun row => row.qualityScore.map (PyFloat.finite ·.float)) =
      (rows.filterMap qualityOf).map (·.float) := by
  rw [List.filterMap_filter, List.map_filterMap]
  refine List.filterMap_congr fun row _ => ?_
  have hstate := row.label_state_is_consistent
  unfold qualityOf
  cases hstatus : row.labelStatus with
  | valid =>
    rw [if_pos (decide_eq_true rfl), Option.map_map]
    rfl
  | missing =>
    rw [hstatus] at hstate
    rw [if_neg (by decide), hstate.2]
    rfl

/-- The counts of a distribution are those of its keys. -/
theorem sum_distribution (keys : List String) (n : ℕ) :
    ((distribution keys n).map (·.count)).sum = keys.length := by
  rw [distribution, List.map_map, ← List.sum_map_count_dedup_eq_length keys]
  exact ((KeySort.sortBy_perm id keys.dedup).map _).sum_eq

theorem acceptableCount_le (rows : List RowObservation) : acceptableCount rows ≤ rows.length :=
  List.countP_le_length

/-- What a summary says of its outcomes. -/
structure Summarizes (n : ℕ) (outcomes : List (Option RowObservation)) (summary : PolicySummary) :
    Prop where
  requests : summary.totalRequests = n
  selected : summary.selectedRows = (outcomes.filterMap id).length
  labels : summary.validSelectedLabels + summary.missingSelectedLabels = summary.selectedRows
  acceptable : summary.acceptable + summary.unacceptable = summary.validSelectedLabels
  distribution : (summary.modelDistribution.map (·.count)).sum = outcomes.length
  cost : summary.totalRealizedCostUsd =
    Decimal.sum ambientPrecision (knownCosts (outcomes.filterMap id))

/-- A summary is returned where there is a request and the floats can be added. -/
theorem summarize_eq_ok {policy : String} {n : ℕ} {outcomes : List (Option RowObservation)}
    (hn : n ≠ 0) (hqualities : Summable ((outcomes.filterMap id).filterMap qualityOf))
    (hlatencies : Summable ((outcomes.filterMap id).map (·.latencyMs))) :
    ∃ summary, summarize policy n outcomes = .ok summary ∧ Summarizes n outcomes summary := by
  obtain ⟨quality, hquality⟩ := (meanOf_eq_ok _).mpr hqualities
  obtain ⟨latency, hlatency⟩ := (meanOf_eq_ok _).mpr hlatencies
  rw [← qualities_of_valid] at hquality
  rw [List.map_map] at hlatency
  unfold summarize
  dsimp only
  rw [if_neg hn]
  refine ⟨_, Except.bind_eq_ok.mpr
    ⟨quality, hquality, Except.bind_eq_ok.mpr ⟨latency, hlatency, rfl⟩⟩, ?_⟩
  have hvalid := (outcomes.filterMap id).length_filter_le (·.labelStatus = .valid)
  have haccepted := acceptableCount_le
    ((outcomes.filterMap id).filter (·.labelStatus = .valid))
  exact {
    requests := rfl
    selected := rfl
    labels := by
      dsimp only
      omega
    acceptable := by
      dsimp only
      omega
    distribution := by
      dsimp only
      rw [sum_distribution, List.length_map]
    cost := rfl }

/-- Elsewhere an arithmetic error is raised. -/
theorem error_of_summarize {policy : String} {n : ℕ} {outcomes : List (Option RowObservation)}
    {e : Exc} (h : summarize policy n outcomes = .error e) :
    ∃ message, e = .raised .zeroDivisionError message ∨ e = .raised .overflowError message := by
  unfold summarize at h
  dsimp only at h
  split at h
  · cases h
    exact ⟨_, .inl rfl⟩
  · rcases Except.bind_eq_error.mp h with hquality | ⟨quality, -, h⟩
    · obtain ⟨message, rfl⟩ := error_of_meanOf hquality
      exact ⟨message, .inr rfl⟩
    · rcases Except.bind_eq_error.mp h with hlatency | ⟨latency, -, h⟩
      · obtain ⟨message, rfl⟩ := error_of_meanOf hlatency
        exact ⟨message, .inr rfl⟩
      · cases h

/-- A summary that is returned is one of a request, of floats that can be added. -/
theorem of_summarize_eq_ok {policy : String} {n : ℕ} {outcomes : List (Option RowObservation)}
    {summary : PolicySummary} (h : summarize policy n outcomes = .ok summary) :
    n ≠ 0 ∧ Summable ((outcomes.filterMap id).filterMap qualityOf) ∧
      Summable ((outcomes.filterMap id).map (·.latencyMs)) := by
  unfold summarize at h
  dsimp only at h
  split at h
  · cases h
  · rename_i hn
    obtain ⟨quality, hquality, h⟩ := Except.bind_eq_ok.mp h
    obtain ⟨latency, hlatency, -⟩ := Except.bind_eq_ok.mp h
    rw [qualities_of_valid] at hquality
    refine ⟨hn, (meanOf_eq_ok _).mp ⟨_, hquality⟩, (meanOf_eq_ok _).mp ⟨latency, ?_⟩⟩
    rw [List.map_map]
    exact hlatency

/-! ## The evaluation -/

theorem filterMap_outcomes (decisions : List RoutingDecision) :
    (decisions.map (outcomeOf observations)).filterMap id =
      selectedRows observations decisions := by
  rw [List.filterMap_map, selectedRows]
  rfl

/-- Where the checks fail a `ValueError` is raised, elsewhere the outcomes are summarized. -/
theorem evaluateDecisions_eq (observations : List RowObservation)
    (decisions : List RoutingDecision) :
    (Checked observations decisions ∧ evaluateDecisions observations decisions =
        summarize (((inTaskOrder decisions).head?.map (·.policy)).getD "")
          (tasks observations).length ((inTaskOrder decisions).map (outcomeOf observations)) >>=
        fun summary => .ok (summary, (inTaskOrder decisions).zip
          ((inTaskOrder decisions).map (outcomeOf observations)))) ∨
      ¬ Checked observations decisions ∧
        ∃ message, evaluateDecisions observations decisions =
          .error (.raised .valueError message) := by
  have hperm : (inTaskOrder decisions).Perm decisions := KeySort.sortBy_perm _ decisions
  have hdistinct : ((inTaskOrder decisions).map (·.taskId)).dedup.length =
      (decisions.map (·.taskId)).dedup.length := ((hperm.map _).dedup).length_eq
  have hevaluate : evaluateDecisions observations decisions =
      if decisions.length ≠ (tasks observations).length ∨
          (decisions.map (·.taskId)).dedup.length ≠ (tasks observations).length then
        .error (.raised .valueError "Policy must return exactly one decision per request")
      else (inTaskOrder decisions).mapM (selectedRow observations) >>= fun outcomes =>
        summarize (((inTaskOrder decisions).head?.map (·.policy)).getD "")
          (tasks observations).length outcomes >>= fun summary =>
        .ok (summary, (inTaskOrder decisions).zip outcomes) := by
    rw [← hperm.length_eq, ← hdistinct]
    unfold evaluateDecisions
    dsimp only
    split
    · rename_i hcount
      exact (if_pos hcount).symm
    · rename_i hcount
      exact (if_neg hcount).symm
  rw [hevaluate]
  by_cases hcount : decisions.length ≠ (tasks observations).length ∨
      (decisions.map (·.taskId)).dedup.length ≠ (tasks observations).length
  · right
    rw [if_pos hcount]
    refine ⟨fun h => ?_, _, rfl⟩
    rcases hcount with hlength | hdistinct
    · exact hlength h.length_eq
    · exact hdistinct h.distinct
  rw [if_neg hcount]
  obtain ⟨hlength, hunique⟩ := not_or.mp hcount
  cases hrows : (inTaskOrder decisions).mapM (selectedRow observations) with
  | error e =>
    right
    obtain ⟨d, hd, herror⟩ := List.exists_of_mapM_eq_error hrows
    obtain ⟨message, rfl⟩ := error_of_selectedRow herror
    refine ⟨fun h => ?_, message, rfl⟩
    have hok := (selectedRow_eq_ok d (outcomeOf observations d)).mpr
      ⟨h.available d (hperm.mem_iff.mp hd), rfl⟩
    rw [herror] at hok
    cases hok
  | ok outcomes =>
    left
    obtain ⟨havailable, houtcomes⟩ := (List.mapM_eq_ok_map selectedRow_eq_ok).mp hrows
    refine ⟨⟨not_not.mp hlength, not_not.mp hunique, fun d hd => ?_⟩, ?_⟩
    · exact havailable d (hperm.mem_iff.mpr hd)
    · rw [Except.ok_bind, houtcomes]

/-- Decisions that pass the checks, whose abstentions name observed tasks, cover each task once. -/
theorem Checked.taskIds_perm (h : Checked observations decisions)
    (hnamed : ∀ d ∈ decisions, d.candidateId = none → d.taskId ∈ tasks observations) :
    (decisions.map (·.taskId)).Perm (tasks observations) := by
  have hnodup : (decisions.map (·.taskId)).Nodup := by
    rw [← List.dedup_eq_self]
    refine (List.dedup_sublist _).eq_of_length ?_
    rw [h.distinct, List.length_map, h.length_eq]
  refine Labels.perm_of_subset hnodup (fun task htask => ?_) ?_
  · obtain ⟨d, hd, rfl⟩ := List.mem_map.mp htask
    cases hcandidate : d.candidateId with
    | none => exact hnamed d hd hcandidate
    | some c =>
      obtain ⟨row, hrow⟩ := Option.isSome_iff_exists.mp (h.available d hd c hcandidate)
      obtain ⟨hmem, htask, -⟩ := mem_of_rowOf hrow
      exact mem_tasks.mpr ⟨row, hmem, htask⟩
  · rw [List.length_map, h.length_eq]

/-- The selected rows and the abstentions are all decisions. -/
theorem Checked.length_selectedRows (h : Checked observations decisions) :
    (selectedRows observations decisions).length + decisions.countP (·.candidateId = none) =
      decisions.length := by
  have hsome : ∀ d ∈ decisions, (outcomeOf observations d).isSome = true ↔
      decide (¬ decide (d.candidateId = none) = true) = true := by
    intro d hd
    rw [decide_eq_true_eq, decide_eq_true_eq]
    unfold outcomeOf
    cases hcandidate : d.candidateId with
    | none => simp
    | some c => simp [h.available d hd c hcandidate]
  rw [selectedRows, List.length_filterMap_eq_countP, List.countP_congr hsome, add_comm]
  exact (List.length_eq_countP_add_countP _).symm

theorem Summable.perm {xs ys : List NonnegFloat} (h : Summable xs) (hperm : xs.Perm ys) :
    Summable ys := by
  rw [Summable, PyFloat.finiteTotal] at h ⊢
  rwa [← (hperm.map _).sum_eq]

/-- Decisions that pass the checks are scored where what is not checked is so. -/
theorem Checked.scoresOnce (h : Checked observations decisions)
    (hunchecked : Unchecked observations decisions) {summary : PolicySummary}
    (hsummary : Summarizes (tasks observations).length
      ((inTaskOrder decisions).map (outcomeOf observations)) summary) :
    ScoresOnce observations decisions summary := by
  have hperm : (inTaskOrder decisions).Perm decisions := KeySort.sortBy_perm _ decisions
  have hrows : (selectedRows observations (inTaskOrder decisions)).Perm
      (selectedRows observations decisions) := hperm.filterMap _
  have hids := h.taskIds_perm hunchecked.abstentions
  exact {
    covered := fun task htask => by
      rw [hids.count_eq]
      exact List.count_eq_one_of_mem (List.nodup_dedup _) htask
    named := fun d hd => hids.mem_iff.mp (List.mem_map_of_mem hd)
    requests := hsummary.requests
    labels := hsummary.labels
    acceptable := hsummary.acceptable
    abstentions := by
      rw [hsummary.selected, filterMap_outcomes, hrows.length_eq, h.length_selectedRows,
        hsummary.requests, h.length_eq]
    distribution := by
      rw [hsummary.distribution, List.length_map, hperm.length_eq, h.length_eq, hsummary.requests]
    cost := by
      rw [hsummary.cost, filterMap_outcomes, Decimal.toRat_sum_eq_iff.mpr hunchecked.costs]
      exact ((hrows.filterMap _).map _).sum_eq }

/-- The summary of checked decisions, where it is returned. -/
theorem Checked.exists_summary (h : Checked observations decisions) (hn : observations ≠ [])
    (hqualities : Summable ((selectedRows observations decisions).filterMap qualityOf))
    (hlatencies : Summable ((selectedRows observations decisions).map (·.latencyMs))) :
    ∃ summary records, evaluateDecisions observations decisions = .ok (summary, records) ∧
      Summarizes (tasks observations).length
        ((inTaskOrder decisions).map (outcomeOf observations)) summary := by
  have hperm : (inTaskOrder decisions).Perm decisions := KeySort.sortBy_perm _ decisions
  have hrows : (selectedRows observations (inTaskOrder decisions)).Perm
      (selectedRows observations decisions) := hperm.filterMap _
  rcases evaluateDecisions_eq observations decisions with ⟨-, heq⟩ | ⟨hnot, -⟩
  · have htasks : (tasks observations).length ≠ 0 := by
      intro hzero
      obtain ⟨row, hrow⟩ := List.exists_mem_of_ne_nil _ hn
      have hmem : row.taskId ∈ tasks observations := mem_tasks.mpr ⟨row, hrow, rfl⟩
      rw [List.length_eq_zero_iff.mp hzero] at hmem
      cases hmem
    rw [← filterMap_outcomes] at hrows
    obtain ⟨summary, hsummary, hof⟩ := summarize_eq_ok htasks
      (hqualities.perm (hrows.filterMap _).symm) (hlatencies.perm (hrows.map _).symm)
    exact ⟨summary, _, by rw [heq, hsummary, Except.ok_bind], hof⟩
  · exact absurd h hnot

/-- Checked decisions that are not refused are those of a request, of floats that can be added. -/
theorem Checked.of_scored (h : Checked observations decisions)
    (hscored : Scored observations decisions) : Unchecked observations decisions := by
  have hperm : (inTaskOrder decisions).Perm decisions := KeySort.sortBy_perm _ decisions
  have hrows : (selectedRows observations (inTaskOrder decisions)).Perm
      (selectedRows observations decisions) := hperm.filterMap _
  rcases evaluateDecisions_eq observations decisions with ⟨-, heq⟩ | ⟨hnot, -⟩
  · rcases hscored with ⟨message, herror⟩ | ⟨summary, records, hok, hscores⟩
    · rw [heq] at herror
      rcases Except.bind_eq_error.mp herror with hsummary | ⟨_, _, herror⟩
      · obtain ⟨_, hclass⟩ := error_of_summarize hsummary
        rcases hclass with hclass | hclass
        · cases hclass
        · cases hclass
      · cases herror
    · have hreturned := hok
      rw [heq] at hreturned
      obtain ⟨_, hsummary, -⟩ := Except.bind_eq_ok.mp hreturned
      obtain ⟨hn, hqualities, hlatencies⟩ := of_summarize_eq_ok hsummary
      rw [filterMap_outcomes] at hqualities hlatencies
      have hqualities' := hqualities.perm (hrows.filterMap _)
      have hlatencies' := hlatencies.perm (hrows.map _)
      have hnonempty : observations ≠ [] := by
        intro hnil
        rw [hnil] at hn
        exact hn rfl
      obtain ⟨summary', _, hok', hof⟩ := h.exists_summary hnonempty hqualities' hlatencies'
      rw [hok] at hok'
      cases hok'
      refine ⟨hnonempty, fun d hd _ => hscores.named d hd, hqualities', hlatencies', ?_⟩
      refine Decimal.toRat_sum_eq_iff.mp ?_
      have hcost := hscores.cost
      rw [hof.cost, filterMap_outcomes] at hcost
      rw [hcost]
      exact ((hrows.filterMap _).map _).sum_eq.symm
  · exact absurd h hnot

theorem consistent_missing : LabelStatus.missing.Consistent none none := ⟨rfl, rfl⟩

/-- A row of a task without labels. -/
def sampleRow (taskId candidateId : String) : RowObservation where
  taskId
  candidateId
  features := {
    category := none
    promptCharacters := 0
    systemPromptCharacters := 0
    approximateInputTokens := 0
    containsCode := false
    requestsStructuredOutput := false
    maxOutputTokens := InferenceRequest.sample.maxOutputTokens
    constraintIndicatorCount := 0
    reasoningIndicatorCount := 0 }
  analysisDifficulty := none
  labelStatus := .missing
  acceptable := none
  qualityScore := none
  realizedCostUsd := none
  latencyMs := .zero
  label_state_is_consistent := consistent_missing

/-- The costs add up where the precision represents every partial sum. -/
theorem costs_of_representable
    (h : ∀ front rest, knownCosts (selectedRows observations (inTaskOrder decisions)) =
      front ++ rest → Decimal.Representable ambientPrecision ((front.map Decimal.toRat).sum)) :
    Decimal.sumErrors ambientPrecision (.ofInt 0)
      (knownCosts (selectedRows observations (inTaskOrder decisions))) = 0 := by
  refine Decimal.sumErrors_eq_zero fun front rest hsplit => ?_
  rw [Decimal.toRat_ofInt, Int.cast_zero, zero_add]
  exact h front rest hsplit

end RouteLLM.RoutingAnalysis
