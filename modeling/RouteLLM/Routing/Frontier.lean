import RouteLLM.Lib.FloatOrder
import RouteLLM.Lib.Pareto
import RouteLLM.Routing.Analysis

/-!
# The threshold frontier

`summarize_selections` and `frontier` of `routing/calibration_analysis.py`, and `compare_policy_points` of
`routing/ml_policy_validation.py`. A summary has no rate where no selected row was labelled and no average
cost where nothing was selected; the frontier compares both without looking.
-/

namespace RouteLLM.RoutingAnalysis

/-- An entry of the selections at a threshold. -/
structure RoutedSelection where
  taskId : String
  candidateId : String
  projectedCostUsd : Money
  labelStatus : LabelStatus
  acceptable : Option Bool
  qualityScore : Option Probability
  fallbackUsed : Bool
  thresholdSatisfied : Bool

/-- The summary of the selections at a threshold. -/
structure SelectionSummary where
  requestsRouted : ℕ
  validSelectedLabels : ℕ
  missingSelectedLabels : ℕ
  acceptableSelections : ℕ
  unacceptableSelections : ℕ
  observedAcceptableRateAmongValid : Option PyFloat
  totalProjectedCostUsd : Decimal
  averageProjectedCostPerRequestUsd : Option Decimal
  fallbackCount : ℕ
  fallbackRate : Option PyFloat
  thresholdMetCount : ℕ
  thresholdMetRate : Option PyFloat
  selectedModelDistribution : List (String × ℕ)

/-- A share of a count, where there is something to share. -/
def rateOf (count total : ℕ) : Option PyFloat :=
  if total = 0 then none else some (.ratio count total)

/-- `summarize_selections`, less the mean quality and the comparison with a reference cost. -/
def summarizeSelections (selections : List RoutedSelection) : SelectionSummary :=
  let valid := selections.filter (·.labelStatus = .valid)
  let acceptable := valid.countP (·.acceptable = some true)
  let totalCost := Decimal.sum ambientPrecision (selections.map (·.projectedCostUsd.dec))
  let fallbackCount := selections.countP (·.fallbackUsed)
  let thresholdMet := selections.countP (·.thresholdSatisfied)
  let candidates := selections.map (·.candidateId)
  { requestsRouted := selections.length
    validSelectedLabels := valid.length
    missingSelectedLabels := selections.length - valid.length
    acceptableSelections := acceptable
    unacceptableSelections := valid.length - acceptable
    observedAcceptableRateAmongValid := rateOf acceptable valid.length
    totalProjectedCostUsd := totalCost
    averageProjectedCostPerRequestUsd :=
      if selections = [] then none
      else some (Decimal.div ambientPrecision totalCost (.ofInt selections.length))
    fallbackCount
    fallbackRate := rateOf fallbackCount selections.length
    thresholdMetCount := thresholdMet
    thresholdMetRate := rateOf thresholdMet selections.length
    selectedModelDistribution :=
      (KeySort.sortBy id candidates.dedup).map fun id => (id, candidates.count id) }

/-- A cost and a rate. -/
structure PolicyPoint where
  cost : Decimal
  rate : PyFloat

/-- The point costs no more and is accepted no less often, one of them strictly. -/
def PolicyPoint.Dominates (p q : PolicyPoint) : Prop :=
  p.cost.toRat ≤ q.cost.toRat ∧ q.rate.Le p.rate ∧
    (p.cost.toRat < q.cost.toRat ∨ q.rate.Lt p.rate)

instance (p q : PolicyPoint) : Decidable (p.Dominates q) := inferInstanceAs (Decidable (_ ∧ _))

/-- `Decimal(summary["average_projected_cost_per_request_usd"])`: the text of a decimal is read back. -/
def averageCost (summary : SelectionSummary) : Except Exc Decimal :=
  match summary.averageProjectedCostPerRequestUsd with
  | some cost => .ok cost
  | none => .error (.raised .typeError "conversion from NoneType to Decimal is not supported")

/-- Two rates that are compared. -/
def comparedRates (rate rate' : Option PyFloat) : Except Exc (PyFloat × PyFloat) :=
  match rate, rate' with
  | some rate, some rate' => .ok (rate, rate')
  | _, _ => .error (.raised .typeError "'>=' not supported between instances of 'NoneType'")

/-- An entry dominates the summary of a key. -/
def dominatedBy (key : String) (cost : Decimal) (summary : SelectionSummary)
    (other : String × SelectionSummary) : Except Exc Bool := do
  if other.1 = key ∨ other.2.validSelectedLabels ≠ summary.validSelectedLabels then
    return false
  let otherCost ← averageCost other.2
  if ¬ otherCost.toRat ≤ cost.toRat then return false
  let rates ← comparedRates other.2.observedAcceptableRateAmongValid
    summary.observedAcceptableRateAmongValid
  return rates.2.Le rates.1 ∧ (otherCost.toRat < cost.toRat ∨ rates.2.Lt rates.1)

/-- The keys of some entries that none of all entries dominates. -/
def nonDominated (all : List (String × SelectionSummary)) :
    List (String × SelectionSummary) → Except Exc (List String)
  | [] => .ok []
  | entry :: entries => do
    let cost ← averageCost entry.2
    let dominated ← all.anyM (dominatedBy entry.1 cost entry.2)
    let kept ← nonDominated all entries
    return if dominated then kept else entry.1 :: kept

/-- `frontier`: the `non_dominated_thresholds` of a dictionary of summaries. -/
def frontier (thresholdSummaries : List (String × SelectionSummary)) : Except Exc (List String) :=
  nonDominated thresholdSummaries thresholdSummaries

inductive PointRelation
  | incomparableCoverage | firstDominates | secondDominates | equivalent | tradeoff
  deriving DecidableEq

/-- The relation of the exchanged points. -/
def PointRelation.swap : PointRelation → PointRelation
  | firstDominates => secondDominates
  | secondDominates => firstDominates
  | relation => relation

/-- `float(summary["acceptable_rate_among_valid"])`, and the total realized cost. -/
def realizedPoint (summary : PolicySummary) : Except Exc PolicyPoint :=
  match summary.acceptableRateAmongValid with
  | some rate => .ok ⟨summary.totalRealizedCostUsd, rate⟩
  | none => .error (.raised .typeError "float() argument must be a string or a real number")

/-- `compare_policy_points`. -/
def comparePolicyPoints (first second : PolicySummary) : Except Exc PointRelation := do
  if first.validSelectedLabels ≠ second.validSelectedLabels then
    return .incomparableCoverage
  let p ← realizedPoint first
  let q ← realizedPoint second
  if p.Dominates q then return .firstDominates
  if q.Dominates p then return .secondDominates
  if p.rate.Equal q.rate ∧ p.cost.toRat = q.cost.toRat then return .equivalent
  return .tradeoff

/-! ## The order of the points -/

theorem PolicyPoint.Dominates.trans {p q r : PolicyPoint} (h : p.Dominates q)
    (h' : q.Dominates r) : p.Dominates r := by
  obtain ⟨hcost, hrate, hstrict⟩ := h
  obtain ⟨hcost', hrate', -⟩ := h'
  refine ⟨hcost.trans hcost', hrate'.trans hrate, ?_⟩
  rcases hstrict with hlt | hlt
  · exact .inl (hlt.trans_le hcost')
  · exact .inr (hrate'.trans_lt hlt)

theorem PolicyPoint.Dominates.asymm {p q : PolicyPoint} (h : p.Dominates q) :
    ¬ q.Dominates p := by
  intro h'
  obtain ⟨hcost, hrate, hstrict⟩ := h
  obtain ⟨hcost', hrate', -⟩ := h'
  rcases hstrict with hlt | hlt
  · exact hlt.not_ge hcost'
  · exact hrate'.not_lt hlt

/-- The relation of two points of equal coverage. -/
def relate (p q : PolicyPoint) : PointRelation :=
  if p.Dominates q then .firstDominates
  else if q.Dominates p then .secondDominates
  else if p.rate.Equal q.rate ∧ p.cost.toRat = q.cost.toRat then .equivalent
  else .tradeoff

theorem relate_swap (p q : PolicyPoint) : relate q p = (relate p q).swap := by
  unfold relate
  by_cases hp : p.Dominates q
  · rw [if_pos hp, if_neg hp.asymm, if_pos hp]
    rfl
  · by_cases hq : q.Dominates p
    · rw [if_pos hq, if_neg hp, if_pos hq]
      rfl
    · rw [if_neg hq, if_neg hp, if_neg hp, if_neg hq]
      by_cases heq : p.rate.Equal q.rate ∧ p.cost.toRat = q.cost.toRat
      · rw [if_pos heq, if_pos ⟨heq.1.symm, heq.2.symm⟩]
        rfl
      · rw [if_neg heq, if_neg fun h => heq ⟨h.1.symm, h.2.symm⟩]
        rfl

theorem comparePolicyPoints_eq (first second : PolicySummary) :
    comparePolicyPoints first second =
      if first.validSelectedLabels ≠ second.validSelectedLabels then .ok .incomparableCoverage
      else do
        let p ← realizedPoint first
        let q ← realizedPoint second
        return relate p q := by
  unfold comparePolicyPoints
  split
  · rfl
  · cases realizedPoint first with
    | error e => rfl
    | ok p =>
      cases realizedPoint second with
      | error e => rfl
      | ok q =>
        rw [Except.ok_bind, Except.ok_bind, Except.ok_bind, Except.ok_bind, relate]
        split
        · rfl
        · split
          · rfl
          · split
            · rfl
            · rfl

/-- **Exchange**: the points exchanged are related the other way. -/
theorem comparePolicyPoints_swap (first second : PolicySummary) :
    comparePolicyPoints second first = PointRelation.swap <$> comparePolicyPoints first second := by
  rw [comparePolicyPoints_eq, comparePolicyPoints_eq]
  by_cases hcoverage : first.validSelectedLabels = second.validSelectedLabels
  · rw [if_neg (not_not.mpr hcoverage), if_neg (not_not.mpr hcoverage.symm)]
    unfold realizedPoint
    cases first.acceptableRateAmongValid with
    | none =>
      cases second.acceptableRateAmongValid with
      | none => rfl
      | some rate => rfl
    | some rate =>
      cases second.acceptableRateAmongValid with
      | none => rfl
      | some rate' => exact congrArg Except.ok (relate_swap _ _)
  · rw [if_pos hcoverage, if_pos fun h => hcoverage h.symm]
    rfl

/-- A point is reported to dominate where it does. -/
theorem comparePolicyPoints_eq_firstDominates (first second : PolicySummary) :
    comparePolicyPoints first second = .ok .firstDominates ↔
      first.validSelectedLabels = second.validSelectedLabels ∧
        ∃ p q, realizedPoint first = .ok p ∧ realizedPoint second = .ok q ∧ p.Dominates q := by
  rw [comparePolicyPoints_eq]
  by_cases hcoverage : first.validSelectedLabels = second.validSelectedLabels
  · rw [if_neg (not_not.mpr hcoverage), Except.bind_eq_ok]
    constructor
    · intro h
      obtain ⟨p, hp, h⟩ := h
      obtain ⟨q, hq, h⟩ := Except.bind_eq_ok.mp h
      refine ⟨hcoverage, p, q, hp, hq, ?_⟩
      by_contra hnot
      have hrelation : relate p q = .firstDominates := Except.ok.inj h
      unfold relate at hrelation
      rw [if_neg hnot] at hrelation
      split at hrelation
      · cases hrelation
      · split at hrelation
        · cases hrelation
        · cases hrelation
    · intro h
      obtain ⟨-, p, q, hp, hq, hdominates⟩ := h
      refine ⟨p, hp, Except.bind_eq_ok.mpr ⟨q, hq, ?_⟩⟩
      exact congrArg Except.ok (if_pos hdominates)
  · rw [if_pos hcoverage]
    exact iff_of_false (fun h => by cases h) fun h => hcoverage h.1

/-! ## Summaries -/

/-- The point of a summary, where it has a cost and a rate. -/
def SelectionSummary.point? (summary : SelectionSummary) : Option PolicyPoint :=
  match summary.averageProjectedCostPerRequestUsd, summary.observedAcceptableRateAmongValid with
  | some cost, some rate => some ⟨cost, rate⟩
  | _, _ => none

/-- A summary dominates another of the same coverage. -/
def SelectionSummary.Dominates (s t : SelectionSummary) : Prop :=
  s.validSelectedLabels = t.validSelectedLabels ∧
    ∃ p ∈ s.point?, ∃ q ∈ t.point?, p.Dominates q

instance (s t : SelectionSummary) : Decidable (s.Dominates t) :=
  inferInstanceAs (Decidable (_ ∧ ∃ p ∈ s.point?, _))

instance : IsStrictOrder SelectionSummary SelectionSummary.Dominates where
  irrefl s h := by
    obtain ⟨-, p, hp, q, hq, hdominates⟩ := h
    cases Option.mem_unique hp hq
    exact hdominates.asymm hdominates
  trans s t u h h' := by
    obtain ⟨hcoverage, p, hp, q, hq, hpq⟩ := h
    obtain ⟨hcoverage', q', hq', r, hr, hqr⟩ := h'
    cases Option.mem_unique hq hq'
    exact ⟨hcoverage.trans hcoverage', p, hp, r, hr, hpq.trans hqr⟩

/-- A summary of some selections. -/
def SelectionSummary.Produced (summary : SelectionSummary) : Prop :=
  ∃ selections, summary = summarizeSelections selections

theorem SelectionSummary.Produced.average_isSome_iff {summary : SelectionSummary}
    (h : summary.Produced) :
    summary.averageProjectedCostPerRequestUsd.isSome ↔ summary.requestsRouted ≠ 0 := by
  obtain ⟨selections, rfl⟩ := h
  cases selections with
  | nil => exact iff_of_false (by decide) (fun h => h rfl)
  | cons x xs => exact iff_of_true rfl (Nat.succ_ne_zero _)

theorem SelectionSummary.Produced.rate_isSome_iff {summary : SelectionSummary}
    (h : summary.Produced) :
    summary.observedAcceptableRateAmongValid.isSome ↔ summary.validSelectedLabels ≠ 0 := by
  obtain ⟨selections, rfl⟩ := h
  show (rateOf _ _).isSome ↔ (selections.filter _).length ≠ 0
  unfold rateOf
  split
  · rename_i hzero
    exact iff_of_false (by decide) (fun h => h hzero)
  · rename_i hne
    exact iff_of_true rfl hne

/-! ## The scan -/

variable {all entries : List (String × SelectionSummary)} {kept : List String}

/-- The summaries can be compared: each routes a request, and at most one has no labels. -/
structure Comparable (entries : List (String × SelectionSummary)) : Prop where
  routed : ∀ e ∈ entries, e.2.requestsRouted ≠ 0
  labelled : ∀ e ∈ entries, ∀ e' ∈ entries, e.2.validSelectedLabels = 0 →
    e'.2.validSelectedLabels = 0 → e.1 = e'.1

/-- The returned keys are those of the unbeaten summaries, and what is left out is beaten by one of
them. -/
structure ExactFrontier (entries : List (String × SelectionSummary)) (kept : List String) : Prop where
  mem_iff : ∀ key, key ∈ kept ↔
    ∃ e ∈ entries, e.1 = key ∧ ∀ other ∈ entries, other.1 ≠ key → ¬ other.2.Dominates e.2
  covers : ∀ e ∈ entries, ∃ best ∈ entries, best.1 ∈ kept ∧
    best.2.validSelectedLabels = e.2.validSelectedLabels
  omitted : ∀ e ∈ entries, e.1 ∉ kept →
    ∃ best ∈ entries, best.1 ∈ kept ∧ best.2.Dominates e.2
  antichain : ∀ e ∈ entries, ∀ e' ∈ entries, e.1 ∈ kept → e'.1 ∈ kept → ¬ e.2.Dominates e'.2

/-- A scan that returns has read every cost, and has tested every entry. -/
theorem nonDominated_eq_ok (h : nonDominated all entries = .ok kept) :
    ∀ e ∈ entries, ∃ cost b, averageCost e.2 = .ok cost ∧
      all.anyM (dominatedBy e.1 cost e.2) = .ok b := by
  induction entries generalizing kept with
  | nil =>
    intro e he
    cases he
  | cons entry entries ih =>
    obtain ⟨cost, hcost, h⟩ := Except.bind_eq_ok.mp h
    obtain ⟨b, hb, h⟩ := Except.bind_eq_ok.mp h
    obtain ⟨rest, hrest, -⟩ := Except.bind_eq_ok.mp h
    intro e he
    cases he with
    | head => exact ⟨cost, b, hcost, hb⟩
    | tail _ he => exact ih hrest e he

/-- A scan whose tests return keeps the keys that none dominates. -/
theorem nonDominated_ok {p : String × SelectionSummary → Prop} [DecidablePred p]
    (h : ∀ e ∈ entries, ∃ cost, averageCost e.2 = .ok cost ∧
      all.anyM (dominatedBy e.1 cost e.2) = .ok (decide (p e))) :
    nonDominated all entries = .ok ((entries.filter fun e => ¬ p e).map Prod.fst) := by
  induction entries with
  | nil => rfl
  | cons entry entries ih =>
    obtain ⟨⟨cost, hcost, hany⟩, hrest⟩ := List.forall_mem_cons.mp h
    rw [nonDominated, hcost, Except.ok_bind, hany, Except.ok_bind, ih hrest, Except.ok_bind]
    by_cases hp : p entry
    · rw [List.filter_cons_of_neg (by simpa using hp), if_pos (decide_eq_true hp)]
      rfl
    · rw [List.filter_cons_of_pos (by simpa using hp), if_neg (by simpa using hp)]
      rfl

theorem averageCost_eq_ok {summary : SelectionSummary} {cost : Decimal} :
    averageCost summary = .ok cost ↔ summary.averageProjectedCostPerRequestUsd = some cost := by
  unfold averageCost
  cases summary.averageProjectedCostPerRequestUsd with
  | none => exact iff_of_false (fun h => by cases h) fun h => by cases h
  | some c => rw [Except.ok.injEq, Option.some.injEq]

/-- Dominance of summaries that have their costs, and their rates where they are compared. -/
theorem dominates_iff {s t : SelectionSummary} {c d : Decimal} {r q : PyFloat}
    (hc : s.averageProjectedCostPerRequestUsd = some c)
    (hd : t.averageProjectedCostPerRequestUsd = some d)
    (hr : s.observedAcceptableRateAmongValid = some r)
    (hq : t.observedAcceptableRateAmongValid = some q) :
    s.Dominates t ↔ s.validSelectedLabels = t.validSelectedLabels ∧
      PolicyPoint.Dominates ⟨c, r⟩ ⟨d, q⟩ := by
  have hs : s.point? = some ⟨c, r⟩ := by
    unfold SelectionSummary.point?
    rw [hc, hr]
  have ht : t.point? = some ⟨d, q⟩ := by
    unfold SelectionSummary.point?
    rw [hd, hq]
  unfold SelectionSummary.Dominates
  rw [hs, ht]
  refine and_congr_right fun _ => ?_
  constructor
  · intro h
    obtain ⟨_, hp, _, hq, hdominates⟩ := h
    cases hp
    cases hq
    exact hdominates
  · intro h
    exact ⟨_, rfl, _, rfl, h⟩

/-- The test of an entry that can be compared. -/
theorem dominatedBy_ok {key : String} {cost otherCost : Decimal} {summary : SelectionSummary}
    {other : String × SelectionSummary}
    (hcost : summary.averageProjectedCostPerRequestUsd = some cost)
    (hother : other.2.averageProjectedCostPerRequestUsd = some otherCost)
    (hrates : other.1 ≠ key → other.2.validSelectedLabels = summary.validSelectedLabels →
      other.2.observedAcceptableRateAmongValid.isSome ∧
        summary.observedAcceptableRateAmongValid.isSome) :
    dominatedBy key cost summary other =
      .ok (decide (other.1 ≠ key ∧ other.2.Dominates summary)) := by
  unfold dominatedBy
  by_cases hskip : other.1 = key ∨ other.2.validSelectedLabels ≠ summary.validSelectedLabels
  · rw [if_pos hskip]
    refine congrArg Except.ok (decide_eq_false fun h => ?_).symm
    rcases hskip with hkey | hcoverage
    · exact h.1 hkey
    · exact hcoverage h.2.1
  · obtain ⟨hkey, hcoverage⟩ := not_or.mp hskip
    obtain ⟨hr, hq⟩ := hrates hkey (not_not.mp hcoverage)
    obtain ⟨r, hr⟩ := Option.isSome_iff_exists.mp hr
    obtain ⟨q, hq⟩ := Option.isSome_iff_exists.mp hq
    have hiff : (other.1 ≠ key ∧ other.2.Dominates summary) ↔
        PolicyPoint.Dominates ⟨otherCost, r⟩ ⟨cost, q⟩ := by
      rw [dominates_iff hother hcost hr hq, and_iff_right hkey,
        and_iff_right (not_not.mp hcoverage)]
    rw [if_neg hskip, averageCost_eq_ok.mpr hother, Except.ok_bind, decide_eq_decide.mpr hiff, hr, hq]
    by_cases hle : otherCost.toRat ≤ cost.toRat
    · rw [if_neg (not_not.mpr hle)]
      have hdominates : (q.Le r ∧ (otherCost.toRat < cost.toRat ∨ q.Lt r)) ↔
          PolicyPoint.Dominates ⟨otherCost, r⟩ ⟨cost, q⟩ := (and_iff_right hle).symm
      have hdecide : decide (q.Le r ∧ (otherCost.toRat < cost.toRat ∨ q.Lt r)) =
          decide (PolicyPoint.Dominates ⟨otherCost, r⟩ ⟨cost, q⟩) :=
        decide_eq_decide.mpr hdominates
      exact congrArg Except.ok hdecide
    · rw [if_pos hle]
      exact congrArg Except.ok (decide_eq_false fun h => hle h.1).symm

theorem comparedRates_none (rate : Option PyFloat) (rates : PyFloat × PyFloat) :
    comparedRates rate none ≠ .ok rates := by
  intro h
  cases rate with
  | none => cases h
  | some rate => cases h

/-- Two summaries without labels cannot be compared at the greater cost. -/
theorem not_anyM_of_unlabelled {e e' : String × SelectionSummary} {cost cost' : Decimal} {b : Bool}
    (hlabels : e.2.observedAcceptableRateAmongValid = none) (he' : e' ∈ all) (hkey : e'.1 ≠ e.1)
    (hcoverage : e'.2.validSelectedLabels = e.2.validSelectedLabels)
    (hcost' : e'.2.averageProjectedCostPerRequestUsd = some cost')
    (hle : cost'.toRat ≤ cost.toRat) : all.anyM (dominatedBy e.1 cost e.2) ≠ .ok b := by
  have htest : ∀ other, dominatedBy e.1 cost e.2 other ≠ .ok true := by
    intro other h
    unfold dominatedBy at h
    split at h
    · cases h
    · obtain ⟨c, -, h⟩ := Except.bind_eq_ok.mp h
      split at h
      · cases h
      · obtain ⟨rates, hrates, -⟩ := Except.bind_eq_ok.mp h
        rw [hlabels] at hrates
        exact comparedRates_none _ _ hrates
  intro h
  cases b with
  | true =>
    obtain ⟨other, -, hother⟩ := List.exists_of_anyM_eq_ok_true h
    exact htest other hother
  | false =>
    have hfalse := List.anyM_eq_ok_false.mp h e' he'
    unfold dominatedBy at hfalse
    rw [if_neg (not_or.mpr ⟨hkey, not_not.mpr hcoverage⟩), averageCost_eq_ok.mpr hcost',
      Except.ok_bind, if_neg (not_not.mpr hle)] at hfalse
    obtain ⟨rates, hrates, -⟩ := Except.bind_eq_ok.mp hfalse
    rw [hlabels] at hrates
    exact comparedRates_none _ _ hrates

/-! ## The frontier -/

/-- An entry is beaten by one of another key. -/
def Beaten (entries : List (String × SelectionSummary)) (e : String × SelectionSummary) : Prop :=
  ∃ other ∈ entries, other.1 ≠ e.1 ∧ other.2.Dominates e.2

instance (e : String × SelectionSummary) : Decidable (Beaten entries e) :=
  inferInstanceAs (Decidable (∃ other ∈ entries, _))

/-- The unbeaten keys. -/
def unbeatenKeys (entries : List (String × SelectionSummary)) : List String :=
  (entries.filter fun e => ¬ Beaten entries e).map Prod.fst

section

variable (hkeys : (entries.map Prod.fst).Nodup)

include hkeys

/-- An entry that any other beats is beaten by one of another key. -/
theorem beaten_of_dominates {e other : String × SelectionSummary} (he : e ∈ entries)
    (hother : other ∈ entries) (h : other.2.Dominates e.2) : Beaten entries e := by
  refine ⟨other, hother, fun hkey => ?_, h⟩
  rw [List.inj_on_of_nodup_map hkeys hother he hkey] at h
  exact irrefl_of SelectionSummary.Dominates _ h

theorem mem_unbeatenKeys {e : String × SelectionSummary} (he : e ∈ entries) :
    e.1 ∈ unbeatenKeys entries ↔ ¬ Beaten entries e := by
  rw [unbeatenKeys, List.mem_map]
  constructor
  · intro h
    obtain ⟨e', he', hkey⟩ := h
    obtain ⟨hmem, hnot⟩ := List.mem_filter.mp he'
    rw [← List.inj_on_of_nodup_map hkeys hmem he hkey]
    exact of_decide_eq_true hnot
  · intro h
    exact ⟨e, List.mem_filter.mpr ⟨he, decide_eq_true h⟩, rfl⟩

/-- Each entry is unbeaten, or an unbeaten one dominates it. -/
theorem exists_best {e : String × SelectionSummary} (he : e ∈ entries) :
    ∃ best ∈ entries, best.1 ∈ unbeatenKeys entries ∧ (best = e ∨ best.2.Dominates e.2) := by
  obtain ⟨s, hs, hunbeaten, hbest⟩ := Pareto.exists_unbeaten SelectionSummary.Dominates
    (entries.map Prod.snd) (List.mem_map_of_mem he)
  have hnot : ∀ best ∈ entries, best.2 = s → ¬ Beaten entries best := by
    intro best _ hsame hbeaten
    obtain ⟨other, hother, -, hdominates⟩ := hbeaten
    rw [hsame] at hdominates
    exact hunbeaten other.2 (List.mem_map_of_mem hother) hdominates
  rcases hbest with rfl | hdominates
  · exact ⟨e, he, (mem_unbeatenKeys hkeys he).mpr (hnot e he rfl), .inl rfl⟩
  · obtain ⟨best, hmem, hsame⟩ := List.mem_map.mp hs
    refine ⟨best, hmem, (mem_unbeatenKeys hkeys hmem).mpr (hnot best hmem hsame), .inr ?_⟩
    rw [hsame]
    exact hdominates

/-- The unbeaten keys are the exact frontier. -/
theorem exactFrontier_unbeatenKeys : ExactFrontier entries (unbeatenKeys entries) := by
  constructor
  · intro key
    constructor
    · intro h
      obtain ⟨e, he, rfl⟩ := List.mem_map.mp h
      obtain ⟨hmem, hnot⟩ := List.mem_filter.mp he
      refine ⟨e, hmem, rfl, fun other hother hkey hdominates => ?_⟩
      exact of_decide_eq_true hnot ⟨other, hother, hkey, hdominates⟩
    · intro h
      obtain ⟨e, he, rfl, hnone⟩ := h
      refine (mem_unbeatenKeys hkeys he).mpr fun hbeaten => ?_
      obtain ⟨other, hother, hkey, hdominates⟩ := hbeaten
      exact hnone other hother hkey hdominates
  · intro e he
    obtain ⟨best, hmem, hkept, hbest⟩ := exists_best hkeys he
    refine ⟨best, hmem, hkept, ?_⟩
    rcases hbest with rfl | hdominates
    · rfl
    · exact hdominates.1
  · intro e he hnot
    obtain ⟨best, hmem, hkept, hbest⟩ := exists_best hkeys he
    rcases hbest with rfl | hdominates
    · exact absurd hkept hnot
    · exact ⟨best, hmem, hkept, hdominates⟩
  · intro e he e' he' _ hkept' hdominates
    exact (mem_unbeatenKeys hkeys he').mp hkept' (beaten_of_dominates hkeys he' he hdominates)

end

section

variable (hproduced : ∀ e ∈ entries, e.2.Produced)

include hproduced

/-- Summaries that can be compared have a frontier. -/
theorem Comparable.frontier_eq (h : Comparable entries) :
    frontier entries = .ok (unbeatenKeys entries) := by
  have hcost : ∀ e ∈ entries, ∃ cost, e.2.averageProjectedCostPerRequestUsd = some cost :=
    fun e he => Option.isSome_iff_exists.mp
      ((hproduced e he).average_isSome_iff.mpr (h.routed e he))
  refine nonDominated_ok fun e he => ?_
  obtain ⟨cost, haverage⟩ := hcost e he
  refine ⟨cost, averageCost_eq_ok.mpr haverage, List.anyM_eq_ok_decide fun other hother => ?_⟩
  obtain ⟨otherCost, hotherAverage⟩ := hcost other hother
  refine dominatedBy_ok haverage hotherAverage fun hkey hcoverage => ?_
  rw [(hproduced other hother).rate_isSome_iff, (hproduced e he).rate_isSome_iff]
  have hne : e.2.validSelectedLabels ≠ 0 := by
    intro hzero
    exact hkey (h.labelled other hother e he (hcoverage.trans hzero) hzero)
  exact ⟨hcoverage ▸ hne, hne⟩

/-- Summaries with a frontier can be compared. -/
theorem comparable_of_frontier (h : frontier entries = .ok kept) : Comparable entries := by
  have hscan := nonDominated_eq_ok h
  constructor
  · intro e he
    obtain ⟨cost, _, hcost, -⟩ := hscan e he
    rw [← (hproduced e he).average_isSome_iff, averageCost_eq_ok.mp hcost]
    rfl
  · intro e he e' he' hzero hzero'
    by_contra hkey
    have hnone : ∀ e ∈ entries, e.2.validSelectedLabels = 0 →
        e.2.observedAcceptableRateAmongValid = none := by
      intro e he hzero
      rw [← Option.not_isSome_iff_eq_none, (hproduced e he).rate_isSome_iff]
      exact not_not.mpr hzero
    obtain ⟨cost, _, hcost, hany⟩ := hscan e he
    obtain ⟨cost', _, hcost', hany'⟩ := hscan e' he'
    have hcost := averageCost_eq_ok.mp hcost
    have hcost' := averageCost_eq_ok.mp hcost'
    rcases le_total cost'.toRat cost.toRat with hle | hle
    · exact not_anyM_of_unlabelled (hnone e he hzero) he' (Ne.symm hkey)
        (hzero'.trans hzero.symm) hcost' hle hany
    · exact not_anyM_of_unlabelled (hnone e' he' hzero') he hkey
        (hzero.trans hzero'.symm) hcost hle hany'

end

/-- **The threshold frontier** is returned and is exact where the summaries can be compared. The
comparison of two points knows the same dominance, and exchanges with its sides. -/
theorem frontier_exact_iff (entries : List (String × SelectionSummary))
    (hkeys : (entries.map Prod.fst).Nodup) (hproduced : ∀ e ∈ entries, e.2.Produced) :
    ((∃ kept, frontier entries = .ok kept ∧ ExactFrontier entries kept) ↔ Comparable entries) ∧
      ∀ first second : PolicySummary,
        (comparePolicyPoints first second = .ok .firstDominates ↔
          first.validSelectedLabels = second.validSelectedLabels ∧ ∃ p q,
            realizedPoint first = .ok p ∧ realizedPoint second = .ok q ∧ p.Dominates q) ∧
        comparePolicyPoints second first =
          PointRelation.swap <$> comparePolicyPoints first second := by
  refine ⟨⟨?_, ?_⟩, fun first second =>
    ⟨comparePolicyPoints_eq_firstDominates first second, comparePolicyPoints_swap first second⟩⟩
  · intro h
    obtain ⟨kept, hkept, -⟩ := h
    exact comparable_of_frontier hproduced hkept
  · intro h
    exact ⟨_, h.frontier_eq hproduced, exactFrontier_unbeatenKeys hkeys⟩

/-- A selection of one row without a label. -/
def sampleSelection (taskId : String) : RoutedSelection where
  taskId
  candidateId := "a"
  projectedCostUsd := Money.zero
  labelStatus := .missing
  acceptable := none
  qualityScore := none
  fallbackUsed := false
  thresholdSatisfied := true

theorem frontier_exact_iff_sample : ∃ kept,
    frontier [("0.50", summarizeSelections [sampleSelection "t1"])] = .ok kept ∧
      ExactFrontier [("0.50", summarizeSelections [sampleSelection "t1"])] kept := by
  have hproduced : ∀ e ∈ [("0.50", summarizeSelections [sampleSelection "t1"])], e.2.Produced := by
    intro e he
    rw [List.mem_singleton.mp he]
    exact ⟨_, rfl⟩
  refine (frontier_exact_iff [("0.50", summarizeSelections [sampleSelection "t1"])]
    (List.nodup_singleton _) hproduced).1.mpr ⟨fun e he => ?_, fun e he e' he' _ _ => ?_⟩
  · rw [List.mem_singleton.mp he]
    exact Nat.succ_ne_zero 0
  · rw [List.mem_singleton.mp he, List.mem_singleton.mp he']

/-- Two thresholds that select no labelled row have no frontier. -/
theorem frontier_of_unlabelled : ¬ ∃ kept,
    frontier [("0.50", summarizeSelections [sampleSelection "t1"]),
      ("0.60", summarizeSelections [sampleSelection "t1"])] = .ok kept := by
  intro h
  obtain ⟨kept, hkept⟩ := h
  have hproduced : ∀ e ∈ [("0.50", summarizeSelections [sampleSelection "t1"]),
      ("0.60", summarizeSelections [sampleSelection "t1"])], e.2.Produced := by
    intro e he
    rcases List.mem_pair.mp he with rfl | rfl
    · exact ⟨_, rfl⟩
    · exact ⟨_, rfl⟩
  have hsame := (comparable_of_frontier hproduced hkept).labelled _ List.mem_cons_self _
    (List.mem_cons_of_mem _ List.mem_cons_self) rfl rfl
  exact absurd hsame (by decide)

end RouteLLM.RoutingAnalysis
