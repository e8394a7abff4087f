import RouteLLM.Lib.Choice
import RouteLLM.Routing.Policy

/-!
# The policy as a choice

A decision of the policy is the choice by cost and id among the candidates that meet the threshold, or
else by acceptability, cost and id among all (`route_eq_choose`). What holds of every such choice holds
of the decisions: they are optimal, monotone in the threshold, and stable when candidates come and go
(`route_optimal_monotone`).
-/

namespace RouteLLM

/-! ## Thresholds -/

/-- The exact value of a threshold that is a finite number. -/
def ThresholdValue.rational? : ThresholdValue → Option ℚ
  | .int n => some n
  | .float (.finite x) => some x.val
  | .decimal (.finite d) => some d.toRat
  | _ => none

/-- A number of the unit interval is converted to the nearest float. -/
theorem exists_ofRat?_unit {q : ℚ} (h0 : 0 ≤ q) (h1 : q ≤ 1) :
    ∃ x, Binary64.ofRat? q = some x ∧ x.val = Binary64.round q := by
  have hlt : |Binary64.round q| < 2 ^ 1024 := by
    rw [abs_of_nonneg (Binary64.round_nonneg h0)]
    exact (Binary64.round_le_one h0 h1).trans_lt (one_lt_pow₀ (by norm_num) (by norm_num))
  exact ⟨⟨Binary64.round q, Binary64.round_round q, hlt⟩, dif_pos hlt, rfl⟩

/-- `float()` of a threshold of the unit interval. -/
theorem ThresholdValue.toFloat_of_exact (fieldName : String) {value : ThresholdValue} {q : ℚ}
    (h : value.rational? = some q) (h0 : 0 ≤ q) (h1 : q ≤ 1) :
    ∃ x, value.toFloat fieldName = .ok (.finite x) ∧ x.val = Binary64.round q := by
  obtain ⟨x, hx, hval⟩ := exists_ofRat?_unit h0 h1
  cases value with
  | int n =>
    have hq : (n : ℚ) = q := Option.some.inj h
    have hint : PyFloat.ofInt? n = some (.finite x) :=
      PyFloat.ofInt?_eq_some.mpr ⟨x, hq.symm ▸ hx, rfl⟩
    exact ⟨x, ThresholdValue.toFloat_int fieldName hint, hval⟩
  | float y =>
    cases y with
    | finite y =>
      refine ⟨y, rfl, ?_⟩
      rw [← Option.some.inj h]
      exact y.round_val.symm
    | posInf => cases h
    | negInf => cases h
    | nan => cases h
  | decimal d =>
    cases d with
    | finite d =>
      rw [← Option.some.inj h] at hx
      exact ⟨x, congrArg Except.ok (PyFloat.ofDecimal_eq_finite.mpr hx), hval⟩
    | infinity negative => cases h
    | quietNan => cases h
    | signalingNan => cases h
  | bool b => cases h
  | other => cases h

/-- A threshold of the unit interval is accepted, as the nearest float. -/
theorem validateQualityThreshold_of_exact {value : ThresholdValue} {q : ℚ}
    (h : value.rational? = some q) (h0 : 0 ≤ q) (h1 : q ≤ 1) :
    ∃ threshold, validateQualityThreshold value = .ok threshold ∧
      threshold.float.val = Binary64.round q := by
  obtain ⟨x, hx, hval⟩ := ThresholdValue.toFloat_of_exact "quality_threshold" h h0 h1
  have hunit : 0 ≤ x.val ∧ x.val ≤ 1 := by
    rw [hval]
    exact ⟨Binary64.round_nonneg h0, Binary64.round_le_one h0 h1⟩
  refine ⟨⟨x, hunit.1, hunit.2⟩, ?_, hval⟩
  rw [validateQualityThreshold, validatedProbability, hx, Except.ok_bind]
  simp only [dif_pos hunit]

namespace CostAwareRoutingPolicy

/-! ## Decisions -/

/-- The decision selects this candidate. -/
structure Selects (decision : RoutingDecision) (c : CandidatePrediction) : Prop where
  modelId : decision.selectedModelId = c.modelId
  acceptability : decision.selectedPredictedAcceptability = c.predictedAcceptability
  cost : decision.selectedProjectedCostUsd = c.projectedCostUsd

/-- The decision selects the best of the candidates: the qualifying one of least cost and id, or where
none qualifies the one of greatest acceptability, then least cost, then least id. -/
def Optimal (candidates : List CandidatePrediction) (decision : RoutingDecision) : Prop :=
  ∃ c ∈ candidates, Selects decision c ∧
    ((decision.fallbackUsed = false ∧ decision.qualityThreshold ≤ c.predictedAcceptability ∧
        ∀ d ∈ candidates, decision.qualityThreshold ≤ d.predictedAcceptability →
          costKey c ≤ costKey d) ∨
      (decision.fallbackUsed = true ∧
        (∀ d ∈ candidates, ¬ decision.qualityThreshold ≤ d.predictedAcceptability) ∧
        ∀ d ∈ candidates, fallbackKey c ≤ fallbackKey d))

/-- Two decisions select the same candidate in the same way. -/
structure SameSelection (d d' : RoutingDecision) : Prop where
  modelId : d.selectedModelId = d'.selectedModelId
  acceptability : d.selectedPredictedAcceptability = d'.selectedPredictedAcceptability
  cost : d.selectedProjectedCostUsd = d'.selectedProjectedCostUsd
  fallbackUsed : d.fallbackUsed = d'.fallbackUsed

/-! ## The keys -/

variable {candidates : List CandidatePrediction} {value : ThresholdValue} {threshold : Probability}

/-- Candidates of distinct ids have distinct keys: the id is a part of the key. -/
theorem untied_costKey (h : (candidates.map (·.modelId)).Nodup) :
    Choice.Untied costKey candidates := by
  intro a ha b hb hkey
  have hid : a.modelId.value = b.modelId.value := congrArg (fun k => (ofLex k).2) hkey
  exact List.inj_on_of_nodup_map h ha hb (Identifier.ext hid)

theorem untied_fallbackKey (h : (candidates.map (·.modelId)).Nodup) :
    Choice.Untied fallbackKey candidates := by
  intro a ha b hb hkey
  have hcost : costKey a = costKey b := congrArg (fun k => (ofLex k).2) hkey
  exact untied_costKey h a ha b hb hcost

/-- A lesser key has a cost no greater. -/
theorem cost_le_of_costKey_le {a b : CandidatePrediction} (h : costKey a ≤ costKey b) :
    a.projectedCostUsd.toRat ≤ b.projectedCostUsd.toRat := by
  rcases Prod.Lex.le_iff.mp h with hlt | ⟨heq, -⟩
  · exact hlt.le
  · exact heq.le

/-! ## The choice -/

/-- The choice that a decision is made by. -/
def chosen (candidates : List CandidatePrediction) (threshold : Probability) :
    Option (CandidatePrediction × Bool) :=
  Choice.choose costKey fallbackKey (threshold ≤ ·.predictedAcceptability) candidates

/-- A nonempty list of candidates with distinct ids is decided by the choice. -/
theorem route_eq_choose (hne : candidates ≠ []) (hnd : (candidates.map (·.modelId)).Nodup)
    (hvalue : validateQualityThreshold value = .ok threshold) :
    ∃ selected fallback, chosen candidates threshold = some (selected, fallback) ∧
      route candidates value = .ok (decisionOf candidates threshold selected fallback hne) := by
  obtain ⟨selected, fallback, hchosen⟩ :=
    Choice.exists_choose costKey fallbackKey (threshold ≤ ·.predictedAcceptability) hne
  refine ⟨selected, fallback, hchosen, ?_⟩
  rw [route, dif_neg hne, hvalue, Except.ok_bind, if_neg (not_not.mpr hnd)]
  cases hfirst : (qualifying candidates threshold).argmin costKey with
  | some a =>
    rw [Choice.choose_of_argmin_eq_some hfirst] at hchosen
    cases hchosen
    rfl
  | none =>
    rw [Choice.choose_of_argmin_eq_none hfirst] at hchosen
    cases hsecond : candidates.argmin fallbackKey with
    | some a =>
      rw [hsecond] at hchosen
      cases hchosen
      rfl
    | none =>
      rw [hsecond] at hchosen
      cases hchosen

/-- The decision of a choice is optimal. -/
theorem optimal_of_chosen {selected : CandidatePrediction} {fallback : Bool}
    (hne : candidates ≠ []) (hnd : (candidates.map (·.modelId)).Nodup)
    (h : chosen candidates threshold = some (selected, fallback)) :
    Optimal candidates (decisionOf candidates threshold selected fallback hne) := by
  cases fallback with
  | false =>
    obtain ⟨hmem, hmet, hle⟩ := (Choice.choose_eq_first (untied_costKey hnd)).mp h
    exact ⟨selected, hmem, ⟨rfl, rfl, rfl⟩, .inl ⟨rfl, hmet, hle⟩⟩
  | true =>
    obtain ⟨hmem, hnone, hle⟩ := (Choice.choose_eq_second (untied_fallbackKey hnd)).mp h
    exact ⟨selected, hmem, ⟨rfl, rfl, rfl⟩, .inr ⟨rfl, hnone, hle⟩⟩

/-- The order of the candidates does not matter. -/
theorem route_perm {reordered : List CandidatePrediction} {decision : RoutingDecision}
    (hperm : reordered.Perm candidates) (h : route candidates value = .ok decision) :
    route reordered value = .ok decision := by
  have hnd := (route_eq_ok h).1
  have hnd' : (reordered.map (·.modelId)).Nodup := (hperm.map _).nodup_iff.mpr hnd
  have hne : candidates ≠ [] := by
    rintro rfl
    cases h
  have hne' : reordered ≠ [] := by
    rintro rfl
    exact hne hperm.symm.eq_nil
  have hvalid : ∃ threshold, validateQualityThreshold value = .ok threshold := by
    rw [route, dif_neg hne] at h
    obtain ⟨threshold, hvalid, -⟩ := Except.bind_eq_ok.mp h
    exact ⟨threshold, hvalid⟩
  obtain ⟨threshold, hvalid⟩ := hvalid
  obtain ⟨s, f, hc, hr⟩ := route_eq_choose hne hnd hvalid
  obtain ⟨s', f', hc', hr'⟩ := route_eq_choose hne' hnd' hvalid
  have hsame : chosen reordered threshold = chosen candidates threshold :=
    Choice.choose_perm (untied_costKey hnd) (untied_fallbackKey hnd) hperm
  have heq : some (s', f') = some (s, f) := hc'.symm.trans (hsame.trans hc)
  have hqual : (qualifying reordered threshold).length = (qualifying candidates threshold).length :=
    (hperm.filter _).length_eq
  cases heq
  rw [hr', ← h, hr]
  simp only [decisionOf, hperm.length_eq, hqual]

/-! ## Thresholds and candidates that change -/

/-- What the decision for a threshold of the unit interval records. -/
theorem route_of_exact {q : ℚ} (hne : candidates ≠ []) (hnd : (candidates.map (·.modelId)).Nodup)
    (hq : value.rational? = some q) (h0 : 0 ≤ q) (h1 : q ≤ 1) :
    ∃ threshold selected fallback, threshold.float.val = Binary64.round q ∧
      chosen candidates threshold = some (selected, fallback) ∧
      route candidates value = .ok (decisionOf candidates threshold selected fallback hne) := by
  obtain ⟨threshold, hvalid, hval⟩ := validateQualityThreshold_of_exact hq h0 h1
  obtain ⟨selected, fallback, hchosen, hroute⟩ := route_eq_choose hne hnd hvalid
  exact ⟨threshold, selected, fallback, hval, hchosen, hroute⟩

/-- A lower threshold is met by every candidate that meets a higher one. -/
theorem meets_of_le {t₁ t₂ : Probability} (h : t₁ ≤ t₂) :
    ∀ c ∈ candidates, t₂ ≤ c.predictedAcceptability → t₁ ≤ c.predictedAcceptability :=
  fun _ _ hmet => h.trans hmet

/-- A fallback at a lower threshold is the same fallback at a higher one. -/
theorem fallback_of_le {t₁ t₂ : Probability} {s₁ s₂ : CandidatePrediction} {fallback : Bool}
    (hnd : (candidates.map (·.modelId)).Nodup) (hle : t₁ ≤ t₂)
    (h₁ : chosen candidates t₁ = some (s₁, true))
    (h₂ : chosen candidates t₂ = some (s₂, fallback)) : s₁ = s₂ ∧ fallback = true := by
  have h := Choice.choose_second_of_imp (untied_fallbackKey hnd) (meets_of_le hle) h₁
  have heq : some (s₁, true) = some (s₂, fallback) := h.symm.trans h₂
  cases heq
  exact ⟨rfl, rfl⟩

/-- A decision without fallback at a higher threshold is one at a lower threshold, no more costly. -/
theorem no_fallback_of_le {t₁ t₂ : Probability} {s₁ s₂ : CandidatePrediction} {fallback : Bool}
    (hnd : (candidates.map (·.modelId)).Nodup) (hle : t₁ ≤ t₂)
    (h₁ : chosen candidates t₁ = some (s₁, fallback))
    (h₂ : chosen candidates t₂ = some (s₂, false)) :
    fallback = false ∧ s₁.projectedCostUsd.toRat ≤ s₂.projectedCostUsd.toRat := by
  obtain ⟨hfallback, hkey⟩ := Choice.choose_first_of_imp (untied_costKey hnd)
    (untied_fallbackKey hnd) (meets_of_le hle) h₁ h₂
  exact ⟨hfallback, cost_le_of_costKey_le hkey⟩

/-- More candidates keep a decision without fallback, no more costly. -/
theorem no_fallback_of_subset {extended : List CandidatePrediction} {s s' : CandidatePrediction}
    {fallback : Bool} (hnd : (extended.map (·.modelId)).Nodup) (hsub : candidates ⊆ extended)
    (h : chosen candidates threshold = some (s, false))
    (h' : chosen extended threshold = some (s', fallback)) :
    fallback = false ∧ s'.projectedCostUsd.toRat ≤ s.projectedCostUsd.toRat := by
  obtain ⟨hfallback, hkey⟩ := Choice.choose_first_of_subset (untied_costKey hnd)
    (untied_fallbackKey hnd) hsub h h'
  exact ⟨hfallback, cost_le_of_costKey_le hkey⟩

/-- A candidate other than the selected one can be removed. -/
theorem chosen_of_removed {rest : List CandidatePrediction} {c s : CandidatePrediction}
    {fallback : Bool} (hnd : (candidates.map (·.modelId)).Nodup) (hperm : candidates.Perm (c :: rest))
    (hc : c.modelId ≠ s.modelId) (h : chosen candidates threshold = some (s, fallback)) :
    chosen rest threshold = some (s, fallback) := by
  have hsub : rest ⊆ candidates := fun d hd => hperm.mem_iff.mpr (.tail c hd)
  have hmem : s ∈ rest := by
    have hs : s ∈ candidates := Choice.mem_of_choose (untied_costKey hnd) (untied_fallbackKey hnd) h
    rcases List.mem_cons.mp (hperm.mem_iff.mp hs) with rfl | hs
    · exact absurd rfl hc
    · exact hs
  exact Choice.choose_of_subset (untied_costKey hnd) (untied_fallbackKey hnd) hsub h hmem

/-- **Optimality and monotonicity.** For candidates with distinct ids and thresholds `q₁ ≤ q₂` of the
unit interval: both decisions are optimal; where the higher threshold is met, the lower one is too, at
no greater cost; where the lower one falls back, the higher one selects the same; a further candidate
neither raises the cost of a decision without fallback nor makes it a fallback; and the removal of a
candidate that was not selected changes nothing. -/
theorem route_optimal_monotone {v₁ v₂ : ThresholdValue} {q₁ q₂ : ℚ} (hne : candidates ≠ [])
    (hnd : (candidates.map (·.modelId)).Nodup) (hv₁ : v₁.rational? = some q₁)
    (hv₂ : v₂.rational? = some q₂) (h0 : 0 ≤ q₁) (hle : q₁ ≤ q₂) (h1 : q₂ ≤ 1) :
    ∃ d₁ d₂, route candidates v₁ = .ok d₁ ∧ route candidates v₂ = .ok d₂ ∧
      d₁.qualityThreshold.float.val = Binary64.round q₁ ∧
      d₂.qualityThreshold.float.val = Binary64.round q₂ ∧
      Optimal candidates d₁ ∧ Optimal candidates d₂ ∧
      (d₂.fallbackUsed = false → d₁.fallbackUsed = false ∧
        d₁.selectedProjectedCostUsd.toRat ≤ d₂.selectedProjectedCostUsd.toRat) ∧
      (d₁.fallbackUsed = true → SameSelection d₁ d₂) ∧
      (∀ c extended, extended.Perm (c :: candidates) → (extended.map (·.modelId)).Nodup →
        ∃ d, route extended v₁ = .ok d ∧ (d₁.fallbackUsed = false → d.fallbackUsed = false ∧
          d.selectedProjectedCostUsd.toRat ≤ d₁.selectedProjectedCostUsd.toRat)) ∧
      (∀ c rest, candidates.Perm (c :: rest) → c.modelId ≠ d₁.selectedModelId →
        ∃ d, route rest v₁ = .ok d ∧ SameSelection d d₁) := by
  obtain ⟨t₁, s₁, f₁, ht₁, hc₁, hr₁⟩ := route_of_exact hne hnd hv₁ h0 (hle.trans h1)
  obtain ⟨t₂, s₂, f₂, ht₂, hc₂, hr₂⟩ := route_of_exact hne hnd hv₂ (h0.trans hle) h1
  have ht : t₁ ≤ t₂ := by
    show t₁.float.val ≤ t₂.float.val
    rw [ht₁, ht₂]
    exact Binary64.round_mono h0 hle
  obtain ⟨_, hvalid, hval⟩ := validateQualityThreshold_of_exact hv₁ h0 (hle.trans h1)
  obtain rfl : _ = t₁ := Probability.float_injective (Binary64.ext (hval.trans ht₁.symm))
  refine ⟨_, _, hr₁, hr₂, ht₁, ht₂, optimal_of_chosen hne hnd hc₁, optimal_of_chosen hne hnd hc₂,
    ?_, ?_, ?_, ?_⟩
  · intro hf
    obtain rfl : f₂ = false := hf
    exact no_fallback_of_le hnd ht hc₁ hc₂
  · intro hf
    obtain rfl : f₁ = true := hf
    obtain ⟨rfl, rfl⟩ := fallback_of_le hnd ht hc₁ hc₂
    exact ⟨rfl, rfl, rfl, rfl⟩
  · intro c extended hperm hnd'
    have hne' : extended ≠ [] := by
      rintro rfl
      exact absurd hperm.symm (List.not_perm_nil_cons _ _ ·.symm)
    obtain ⟨s, f, hchosen, hroute⟩ := route_eq_choose hne' hnd' hvalid
    refine ⟨_, hroute, ?_⟩
    intro hf
    obtain rfl : f₁ = false := hf
    exact no_fallback_of_subset hnd' (fun d hd => hperm.mem_iff.mpr (.tail c hd)) hc₁ hchosen
  · intro c rest hperm hc
    have hrest := chosen_of_removed hnd hperm hc hc₁
    have hnd' : (rest.map (·.modelId)).Nodup :=
      (List.nodup_cons.mp ((hperm.map (·.modelId)).nodup_iff.mp hnd)).2
    have hne' : rest ≠ [] := by
      rintro rfl
      cases hrest
    obtain ⟨s, f, hchosen, hroute⟩ := route_eq_choose hne' hnd' hvalid
    obtain ⟨rfl, rfl⟩ : s = s₁ ∧ f = f₁ := by
      have heq : some (s, f) = some (s₁, f₁) := hchosen.symm.trans hrest
      cases heq
      exact ⟨rfl, rfl⟩
    exact ⟨_, hroute, rfl, rfl, rfl, rfl⟩

/-- A cheap candidate that is never acceptable and a dearer one that always is. -/
def sampleCandidates : List CandidatePrediction :=
  [{ modelId := ⟨"cheap", by decide, by decide⟩
     predictedAcceptability := ⟨0, le_rfl, Probability.one.nonneg.trans Probability.one.le_one⟩
     projectedCostUsd := ⟨⟨1, -3⟩, by decide⟩ },
   { modelId := ⟨"fine", by decide, by decide⟩
     predictedAcceptability := .one
     projectedCostUsd := ⟨⟨2, -3⟩, by decide⟩ }]

/-- The two extreme thresholds decide the sample candidates. -/
theorem route_optimal_monotone_sample :
    ∃ d₁ d₂, route sampleCandidates (.int 0) = .ok d₁ ∧ route sampleCandidates (.int 1) = .ok d₂ ∧
      (d₂.fallbackUsed = false → d₁.fallbackUsed = false ∧
        d₁.selectedProjectedCostUsd.toRat ≤ d₂.selectedProjectedCostUsd.toRat) := by
  have hnd : (sampleCandidates.map (·.modelId)).Nodup := by decide
  have hv₁ : (ThresholdValue.int 0).rational? = some 0 := by simp [ThresholdValue.rational?]
  have hv₂ : (ThresholdValue.int 1).rational? = some 1 := by simp [ThresholdValue.rational?]
  obtain ⟨d₁, d₂, h₁, h₂, -, -, -, -, hmono, -⟩ :=
    route_optimal_monotone (List.cons_ne_nil _ _) hnd hv₁ hv₂ le_rfl zero_le_one le_rfl
  exact ⟨d₁, d₂, h₁, h₂, hmono⟩

end CostAwareRoutingPolicy

end RouteLLM
