import RouteLLM.Routing.DecisionScoring

/-!
# The oracle is an upper bound

A policy selects at most one observed row of each task. The selection of the oracle has an acceptable valid
row wherever any policy has one, and no acceptable valid row of the task costs less.
-/

namespace RouteLLM.RoutingAnalysis

variable {observations : List RowObservation}

/-- At most one observed row for each task. -/
structure Selection (observations : List RowObservation) where
  pick : String → Option RowObservation
  observed : ∀ task row, pick task = some row → row ∈ observations ∧ row.taskId = task

/-- The selection of a task is a valid acceptable row. -/
def Selection.succeeds (selection : Selection observations) (task : String) : Bool :=
  (selection.pick task).any fun row => row.Accepted

/-- The number of tasks on which a selection succeeds. -/
def Selection.successes (selection : Selection observations) : ℕ :=
  (tasks observations).countP selection.succeeds

/-- The selection bounds every other: it succeeds wherever another does, at no greater cost. -/
structure Selection.Bounds (best : Selection observations) : Prop where
  successes : ∀ policy : Selection observations, policy.successes ≤ best.successes
  cost : ∀ (policy : Selection observations) (task : String) (row : RowObservation),
    policy.pick task = some row → row.Accepted →
    ∃ chosen cost cost', best.pick task = some chosen ∧ chosen.Accepted ∧
      chosen.realizedCostUsd = some cost ∧ row.realizedCostUsd = some cost' ∧
      cost.toRat ≤ cost'.toRat

/-- The decisions are those of a selection, one for each task. Of rows with distinct ids, the selected one
is the one that the evaluation looks up. -/
structure Selection.Decides (selection : Selection observations)
    (decisions : List RoutingDecision) : Prop where
  taskIds : (decisions.map (·.taskId)).Perm (tasks observations)
  candidates : ∀ d ∈ decisions, d.candidateId = (selection.pick d.taskId).map (·.candidateId)
  looked_up : (observations.map fun row => (row.taskId, row.candidateId)).Nodup →
    ∀ d ∈ decisions, outcomeOf observations d = selection.pick d.taskId

/-- The counts of the states: they sum to the number of requests, and a request has no acceptable candidate
exactly where no selection succeeds on it. -/
structure StatesCounted (observations : List RowObservation) (decisions : List RoutingDecision)
    (counts : ObservationState → ℕ) : Prop where
  sum_eq : counts .fullyObserved + counts .partiallyObserved + counts .noAcceptableCandidate =
    (tasks observations).length
  none_eq : counts .noAcceptableCandidate = decisions.countP (·.candidateId = none)
  none_iff : ∀ d ∈ decisions, d.candidateId = none ↔
    ∀ policy : Selection observations, policy.succeeds d.taskId = false

/-! ## The best rows -/

/-- The acceptable rows of a task. -/
def acceptedRows (observations : List RowObservation) (task : String) : List RowObservation :=
  (rowsOf observations task).filter (·.Accepted)

theorem mem_acceptedRows {task : String} {row : RowObservation} :
    row ∈ acceptedRows observations task ↔
      (row ∈ observations ∧ row.taskId = task) ∧ row.Accepted := by
  rw [acceptedRows, rowsOf, List.mem_filter, List.mem_filter, decide_eq_true_eq, decide_eq_true_eq]

/-- The rows that the oracle selects. -/
def bestSelection (observations : List RowObservation) : Selection observations where
  pick task := (acceptedRows observations task).argmin oracleKey
  observed _ _ h := (mem_acceptedRows.mp (List.argmin_mem h)).1

theorem accepted_of_pick {task : String} {row : RowObservation}
    (h : (bestSelection observations).pick task = some row) : row.Accepted :=
  (mem_acceptedRows.mp (List.argmin_mem h)).2

/-- The oracle selects nothing where no policy could succeed. -/
theorem pick_eq_none_iff {task : String} : (bestSelection observations).pick task = none ↔
    ∀ policy : Selection observations, policy.succeeds task = false := by
  constructor
  · intro hnone policy
    have hempty : acceptedRows observations task = [] := List.argmin_eq_none.mp hnone
    unfold Selection.succeeds
    cases hpick : policy.pick task with
    | none => rfl
    | some row =>
      refine decide_eq_false fun haccepted => ?_
      have hmem := mem_acceptedRows.mpr ⟨policy.observed task row hpick, haccepted⟩
      rw [hempty] at hmem
      cases hmem
  · intro h
    have hbest := h (bestSelection observations)
    unfold Selection.succeeds at hbest
    cases hpick : (bestSelection observations).pick task with
    | none => rfl
    | some row =>
      rw [hpick] at hbest
      exact absurd (accepted_of_pick hpick) (of_decide_eq_false hbest)

/-- **Optimality**: an acceptable row that any policy selects costs at least as much. -/
theorem bestSelection_bounds
    (hcosts : ∀ row ∈ observations, row.realizedCostUsd.isSome) :
    (bestSelection observations).Bounds := by
  have hcost : ∀ (policy : Selection observations) (task : String) (row : RowObservation),
      policy.pick task = some row → row.Accepted →
      ∃ chosen cost cost', (bestSelection observations).pick task = some chosen ∧
        chosen.Accepted ∧ chosen.realizedCostUsd = some cost ∧
        row.realizedCostUsd = some cost' ∧ cost.toRat ≤ cost'.toRat := by
    intro policy task row hpick haccepted
    have hobserved := policy.observed task row hpick
    have hmem := mem_acceptedRows.mpr ⟨hobserved, haccepted⟩
    cases hbest : (bestSelection observations).pick task with
    | none =>
      rw [List.argmin_eq_none.mp hbest] at hmem
      cases hmem
    | some chosen =>
      have hchosen := (bestSelection observations).observed task chosen hbest
      obtain ⟨cost, hc⟩ := Option.isSome_iff_exists.mp (hcosts chosen hchosen.1)
      obtain ⟨cost', hc'⟩ := Option.isSome_iff_exists.mp (hcosts row hobserved.1)
      refine ⟨chosen, cost, cost', rfl, accepted_of_pick hbest, hc, hc', ?_⟩
      have hle : oracleKey chosen ≤ oracleKey row := List.le_of_mem_argmin hmem hbest
      have hfirst : (cost.toRat : WithTop ℚ) ≤ cost'.toRat := by
        have hkey := (Prod.Lex.toLex_le_toLex.mp hle)
        rw [hc, hc'] at hkey
        rcases hkey with hlt | heq
        · exact hlt.le
        · exact heq.1.le
      exact WithTop.coe_le_coe.mp hfirst
  constructor
  · intro policy
    refine List.countP_mono_left fun task _ hsucceeds => ?_
    unfold Selection.succeeds at hsucceeds ⊢
    cases hpick : policy.pick task with
    | none =>
      rw [hpick] at hsucceeds
      cases hsucceeds
    | some row =>
      rw [hpick] at hsucceeds
      obtain ⟨chosen, _, _, hbest, haccepted, -⟩ :=
        hcost policy task row hpick (of_decide_eq_true hsucceeds)
      rw [hbest]
      exact decide_eq_true haccepted
  · exact hcost

/-! ## The decisions of the oracle -/

/-- The choice for a task of known costs. -/
theorem oracleChoice_spec (hcosts : ∀ row ∈ observations, row.realizedCostUsd.isSome)
    (task : String) : ∃ choice, oracleChoice observations task = .ok choice ∧
      choice.1.taskId = task ∧
      choice.1.candidateId = ((bestSelection observations).pick task).map (·.candidateId) ∧
      (choice.2 = .noAcceptableCandidate ↔ choice.1.candidateId = none) := by
  have hcheapest : cheapest (acceptedRows observations task) =
      .ok ((bestSelection observations).pick task) := by
    refine if_neg fun h => ?_
    obtain ⟨-, row, hrow, hnone⟩ := h
    have hsome := hcosts row (mem_acceptedRows.mp hrow).1.1
    rw [hnone] at hsome
    cases hsome
  unfold oracleChoice
  dsimp only
  rw [← acceptedRows, hcheapest, Except.ok_bind]
  cases (bestSelection observations).pick task with
  | none => exact ⟨_, rfl, rfl, rfl, iff_of_true rfl rfl⟩
  | some selected =>
    dsimp only
    split
    · exact ⟨_, rfl, rfl, rfl, iff_of_false (fun h => by cases h) (fun h => by cases h)⟩
    · exact ⟨_, rfl, rfl, rfl, iff_of_false (fun h => by cases h) (fun h => by cases h)⟩

/-- Every state is one of three. -/
theorem sum_counts (states : List ObservationState) :
    states.count .fullyObserved + states.count .partiallyObserved +
      states.count .noAcceptableCandidate = states.length := by
  induction states with
  | nil => rfl
  | cons state states ih =>
    rw [List.count_cons, List.count_cons, List.count_cons, List.length_cons, ← ih]
    cases state <;> simp <;> omega

/-- The states without a candidate are those of the abstentions. -/
theorem count_none {choices : List (RoutingDecision × ObservationState)}
    (h : ∀ choice ∈ choices, choice.2 = .noAcceptableCandidate ↔ choice.1.candidateId = none) :
    (choices.map Prod.snd).count .noAcceptableCandidate =
      (choices.map Prod.fst).countP (·.candidateId = none) := by
  rw [List.count, List.countP_map, List.countP_map]
  refine List.countP_congr fun choice hchoice => ?_
  rw [Function.comp_apply, Function.comp_apply, beq_iff_eq, decide_eq_true_eq]
  exact h choice hchoice

/-- The evaluation looks up the row that is selected, where the ids of the rows are distinct. -/
theorem rowOf_of_nodup (hnodup : (observations.map fun row => (row.taskId, row.candidateId)).Nodup)
    {row : RowObservation} (hrow : row ∈ observations) :
    rowOf observations row.taskId row.candidateId = some row := by
  have hreverse : (observations.reverse.map fun row => (row.taskId, row.candidateId)).Nodup := by
    rw [List.map_reverse]
    exact List.nodup_reverse.mpr hnodup
  have hfind := AssocList.find?_of_nodup hreverse (List.mem_reverse.mpr hrow)
  rw [rowOf, ← hfind]
  refine congrArg (fun p => observations.reverse.find? p) (funext fun other => ?_)
  rw [Bool.eq_iff_iff, decide_eq_true_eq, decide_eq_true_eq, Prod.mk.injEq]

end RouteLLM.RoutingAnalysis
