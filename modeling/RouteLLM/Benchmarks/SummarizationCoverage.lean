import RouteLLM.Benchmarks.SummarizationSpec

/-!
# Coverage is an exact measure

Over the propositions of a specification the coverage is the weight of the entailed ones as a fraction of the
number of requirements. It does not depend on an order, it grows with every verdict that is raised, and it is
the same over propositions that are split.
-/

namespace RouteLLM.Summarization

open WeightedSum

variable {task : SummarizationTaskSpecification} {verdicts : Verdicts}

/-- The keys of the verdicts are the ids of the propositions. -/
def Verdicts.Covers (verdicts : Verdicts) (task : SpecificationFields) : Prop :=
  ∀ key, key ∈ verdicts.keys ↔ key ∈ task.ids

/-- The weight of the entailed propositions. -/
def entailedWeight (task : SpecificationFields) (verdicts : Verdicts) : ℚ :=
  weightWhere (fun p : SemanticProposition => p.weight.fraction)
    (fun p => verdicts.get p.propositionId = some .entailed) task.propositions

/-- One verdict is raised from `NOT_ENTAILED` to `ENTAILED`, the others are the same. -/
structure Verdicts.Raises (verdicts raised : Verdicts) (key : String) : Prop where
  before : verdicts.get key = some .notEntailed
  after : raised.get key = some .entailed
  others : ∀ k, k ≠ key → raised.get k = verdicts.get k

/-- A proposition is split into parts of the same weight, each with the verdict of the proposition. -/
structure Splits (whole split : SpecificationFields) (verdicts verdicts' : Verdicts)
    (p : SemanticProposition) (parts : List SemanticProposition) : Prop where
  propositions : ∃ before after, whole.propositions = before ++ p :: after ∧
    split.propositions = before ++ parts ++ after ∧
    ∀ q ∈ before ++ after, verdicts'.get q.propositionId = verdicts.get q.propositionId
  weight_eq : (parts.map (·.weight.fraction)).sum = p.weight.fraction
  verdict_eq : ∀ q ∈ parts, verdicts'.get q.propositionId = verdicts.get p.propositionId

/-- What a result says about the verdicts that it was computed from. -/
structure ExactMeasure (task : SummarizationTaskSpecification) (verdicts : Verdicts)
    (result : CoverageResult) : Prop where
  incomplete_iff : result.status = .incomplete ↔
    ∃ p ∈ task.propositions, verdicts.get p.propositionId = some .ambiguous
  fraction_eq : result.fraction = if result.status = .complete then
    some (entailedWeight task.toSpecificationFields verdicts / task.legacyRequirements.length) else none
  mem_unit : ∀ x, result.fraction = some x → 0 ≤ x ∧ x ≤ 1
  eq_one_iff : ∀ x, result.fraction = some x →
    (x = 1 ↔ ∀ p ∈ task.propositions, verdicts.get p.propositionId = some .entailed)
  eq_zero_iff : ∀ x, result.fraction = some x →
    (x = 0 ↔ ∀ p ∈ task.propositions, verdicts.get p.propositionId ≠ some .entailed)
  raise : ∀ p ∈ task.propositions, ∀ raised : Verdicts, verdicts.Raises raised p.propositionId →
    ∃ result', weightedCoverage task raised = .ok result' ∧ result'.status = result.status ∧
      ∀ x, result.fraction = some x →
        result'.fraction = some (x + p.weight.fraction / task.legacyRequirements.length) ∧
        x < x + p.weight.fraction / task.legacyRequirements.length
  order : ∀ (task' : SummarizationTaskSpecification) (verdicts' : Verdicts),
    task'.propositions.Perm task.propositions → verdicts'.entries.Perm verdicts.entries →
    weightedCoverage task' verdicts' = .ok result
  split : ∀ (task' : SummarizationTaskSpecification) (verdicts' : Verdicts) p parts,
    verdicts'.Covers task'.toSpecificationFields →
    Splits task.toSpecificationFields task'.toSpecificationFields verdicts verdicts' p parts →
    ∃ result', weightedCoverage task' verdicts' = .ok result' ∧ result'.status = result.status ∧
      result'.fraction = result.fraction

/-! ## The verdicts of the propositions -/

theorem Verdicts.covers_iff :
    verdicts.Covers task.toSpecificationFields ↔ verdicts.keys.toFinset = task.ids.toFinset := by
  rw [Finset.ext_iff]
  refine forall_congr' fun key => ?_
  rw [List.mem_toFinset, List.mem_toFinset]

theorem Verdicts.keys_perm (h : verdicts.Covers task.toSpecificationFields) :
    verdicts.keys.Perm task.ids :=
  (List.perm_ext_iff_of_nodup verdicts.keys_nodup task.ids_nodup).mpr h

theorem Verdicts.get_eq_some_iff {key : String} {verdict : EntailmentVerdict} :
    verdicts.get key = some verdict ↔ (key, verdict) ∈ verdicts.entries :=
  AssocList.lookup_eq_some_iff verdicts.keys_nodup

theorem mem_ids {p : SemanticProposition} (hp : p ∈ task.propositions) :
    p.propositionId ∈ task.ids :=
  List.mem_map_of_mem hp

/-- The weights are read back by id. -/
theorem weightOf_eq_ok_iff {key : String} {x : ℚ} : task.weightOf key = .ok x ↔
    ∃ p ∈ task.propositions, p.propositionId = key ∧ p.weight.fraction = x := by
  have hnodup : ((task.propositions.map fun p => (p.propositionId, p.weight.fraction)).map
      Prod.fst).Nodup := by
    rw [List.map_map]
    exact task.ids_nodup
  have hread := AssocList.lookup_eq_some_iff hnodup (k := key) (v := x)
  simp only [List.mem_map, Prod.mk.injEq] at hread
  rw [← hread, SpecificationFields.weightOf]
  cases (task.propositions.map fun p => (p.propositionId, p.weight.fraction)).lookup key with
  | none => exact iff_of_false (fun h => by cases h) fun h => by cases h
  | some y => exact ⟨fun h => by cases h; rfl, fun h => by cases h; rfl⟩

/-- The weight of an id, as the sum reads it. -/
def weightAt (task : SpecificationFields) (key : String) : ℚ :=
  match task.weightOf key with
  | .ok x => x
  | .error _ => 0

theorem weightAt_eq {p : SemanticProposition} (hp : p ∈ task.propositions) :
    weightAt task.toSpecificationFields p.propositionId = p.weight.fraction := by
  rw [weightAt, weightOf_eq_ok_iff.mpr ⟨p, hp, rfl, rfl⟩]

/-- The weights of the entailed keys sum to the weight of the entailed propositions. -/
theorem sum_weightAt_eq (h : verdicts.Covers task.toSpecificationFields) :
    ((verdicts.entries.filter (·.2 = .entailed)).map fun entry =>
      weightAt task.toSpecificationFields entry.1).sum =
    entailedWeight task.toSpecificationFields verdicts := by
  calc
    _ = weightWhere (fun entry => weightAt task.toSpecificationFields entry.1)
          (fun entry : String × EntailmentVerdict => entry.2 = .entailed) verdicts.entries :=
      sum_map_filter
    _ = weightWhere (fun entry => weightAt task.toSpecificationFields entry.1)
          (fun entry : String × EntailmentVerdict => verdicts.get entry.1 = some .entailed)
          verdicts.entries := by
      refine weightWhere_congr fun entry hentry => ?_
      rw [Verdicts.get_eq_some_iff.mpr hentry, Option.some_inj]
    _ = weightWhere (weightAt task.toSpecificationFields)
          (fun key => verdicts.get key = some .entailed) verdicts.keys :=
      (weightWhere_map (p := fun key => verdicts.get key = some .entailed) Prod.fst
        verdicts.entries).symm
    _ = weightWhere (weightAt task.toSpecificationFields)
          (fun key => verdicts.get key = some .entailed) task.ids :=
      weightWhere_perm (Verdicts.keys_perm h)
    _ = weightWhere (fun p => weightAt task.toSpecificationFields p.propositionId)
          (fun p : SemanticProposition => verdicts.get p.propositionId = some .entailed)
          task.propositions :=
      weightWhere_map _ _
    _ = entailedWeight task.toSpecificationFields verdicts :=
      weightWhere_congr_weight fun p hp => weightAt_eq hp

theorem ambiguous_ne_nil_iff (h : verdicts.Covers task.toSpecificationFields) :
    verdicts.ambiguous ≠ [] ↔
      ∃ p ∈ task.propositions, verdicts.get p.propositionId = some .ambiguous := by
  constructor
  · intro hne
    obtain ⟨key, hkey⟩ := List.exists_mem_of_ne_nil _ hne
    obtain ⟨entry, hentry, rfl⟩ := List.mem_map.mp (KeySort.mem_sortBy.mp hkey)
    obtain ⟨hentry, hverdict⟩ := List.mem_filter.mp hentry
    obtain ⟨p, hp, hid⟩ := List.mem_map.mp ((h entry.1).mp (List.mem_map_of_mem hentry))
    refine ⟨p, hp, ?_⟩
    rw [hid, Verdicts.get_eq_some_iff.mpr hentry, of_decide_eq_true hverdict]
  · rintro ⟨p, _, hp⟩
    have hentry : (p.propositionId, .ambiguous) ∈ verdicts.entries.filter (·.2 = .ambiguous) :=
      List.mem_filter.mpr ⟨Verdicts.get_eq_some_iff.mp hp, decide_eq_true rfl⟩
    exact List.ne_nil_of_mem (KeySort.mem_sortBy.mpr (List.mem_map_of_mem hentry))

/-! ## The result -/

/-- The result that states a fraction. -/
def CoverageResult.ofFraction (x : ℚ) : CoverageResult where
  status := .complete
  coverageNumerator := some x.num
  coverageDenominator := some x.den

theorem CoverageResult.fraction_ofFraction (x : ℚ) : (ofFraction x).fraction = some x :=
  congrArg some (Rat.num_div_den x)

/-- The coverage of a map that covers the propositions. -/
def coverage (task : SummarizationTaskSpecification) (verdicts : Verdicts) : CoverageResult :=
  if verdicts.ambiguous ≠ [] then
    { status := .incomplete, ambiguousPropositionIds := verdicts.ambiguous }
  else
    .ofFraction (entailedWeight task.toSpecificationFields verdicts / task.legacyRequirements.length)

theorem coverage_status : (coverage task verdicts).status = .incomplete ↔ verdicts.ambiguous ≠ [] := by
  rw [coverage]
  split
  · exact iff_of_true rfl ‹_›
  · exact iff_of_false (fun h => by cases h) ‹_›

theorem coverage_fraction : (coverage task verdicts).fraction =
    if verdicts.ambiguous ≠ [] then none
    else some (entailedWeight task.toSpecificationFields verdicts / task.legacyRequirements.length) := by
  rw [coverage]
  split
  · rfl
  · exact CoverageResult.fraction_ofFraction _

theorem weightedCoverage_eq (h : verdicts.Covers task.toSpecificationFields) :
    weightedCoverage task verdicts = .ok (coverage task verdicts) := by
  rw [weightedCoverage, if_neg (not_not.mpr (Verdicts.covers_iff.mp h)), coverage]
  split
  · rfl
  · have hread : (verdicts.entries.filter (·.2 = .entailed)).mapM (fun entry => task.weightOf entry.1) =
        .ok ((verdicts.entries.filter (·.2 = .entailed)).map fun entry =>
          weightAt task.toSpecificationFields entry.1) := by
      refine List.mapM_eq_ok.mpr ?_
      rw [List.forall₂_map_right_iff]
      refine List.forall₂_same.mpr fun entry hentry => ?_
      have hkey := List.mem_map_of_mem (f := Prod.fst) (List.mem_filter.mp hentry).1
      obtain ⟨p, hp, hid⟩ := List.mem_map.mp ((h entry.1).mp hkey)
      rw [← hid, weightAt_eq hp, weightOf_eq_ok_iff]
      exact ⟨p, hp, rfl, rfl⟩
    rw [hread, Except.ok_bind, sum_weightAt_eq h, task.weight_eq]
    rfl

theorem covers_of_ok {result : CoverageResult} (h : weightedCoverage task verdicts = .ok result) :
    verdicts.Covers task.toSpecificationFields := by
  rw [weightedCoverage] at h
  split at h
  · cases h
  · exact Verdicts.covers_iff.mpr (not_not.mp ‹_›)

/-- Two maps with the same entailed part, as a fraction, and both or neither with an ambiguous verdict. -/
theorem coverage_agree {task' : SummarizationTaskSpecification} {verdicts' : Verdicts}
    (hambiguous : verdicts'.ambiguous ≠ [] ↔ verdicts.ambiguous ≠ [])
    (hweight : entailedWeight task'.toSpecificationFields verdicts' =
      entailedWeight task.toSpecificationFields verdicts)
    (htotal : task'.weight = task.weight) :
    (coverage task' verdicts').status = (coverage task verdicts).status ∧
      (coverage task' verdicts').fraction = (coverage task verdicts).fraction := by
  rw [task.weight_eq, task'.weight_eq] at htotal
  rw [coverage_fraction, coverage_fraction, hweight, htotal, coverage, coverage]
  by_cases h : verdicts.ambiguous ≠ []
  · rw [if_pos h, if_pos (hambiguous.mpr h), if_pos h, if_pos (hambiguous.mpr h)]
    exact ⟨rfl, rfl⟩
  · rw [if_neg h, if_neg fun h' => h (hambiguous.mp h'), if_neg h,
      if_neg fun h' => h (hambiguous.mp h')]
    exact ⟨rfl, rfl⟩

/-! ## Bounds -/

theorem fraction_pos : ∀ p ∈ task.propositions, 0 < p.weight.fraction :=
  fun p _ => p.weight.fraction_pos

theorem requirements_pos : (0 : ℚ) < task.legacyRequirements.length :=
  Nat.cast_pos.mpr (List.length_pos_of_ne_nil task.legacyRequirements_nonempty)

theorem entailedWeight_le :
    entailedWeight task.toSpecificationFields verdicts ≤ task.legacyRequirements.length := by
  rw [← task.weight_eq]
  exact weightWhere_le fraction_pos

theorem entailedWeight_eq_iff :
    entailedWeight task.toSpecificationFields verdicts = task.legacyRequirements.length ↔
      ∀ p ∈ task.propositions, verdicts.get p.propositionId = some .entailed := by
  rw [← task.weight_eq]
  exact weightWhere_eq_sum_iff fraction_pos

theorem fraction_eq_of_some {x : ℚ} (h : (coverage task verdicts).fraction = some x) :
    x = entailedWeight task.toSpecificationFields verdicts / task.legacyRequirements.length := by
  rw [coverage_fraction] at h
  split at h
  · cases h
  · exact (Option.some.inj h).symm

/-! ## Relations between maps and specifications -/

theorem Verdicts.mem_keys_iff {key : String} : key ∈ verdicts.keys ↔ ∃ verdict, verdicts.get key = some verdict := by
  rw [Verdicts.keys, List.mem_map]
  constructor
  · rintro ⟨entry, hentry, rfl⟩
    exact ⟨entry.2, Verdicts.get_eq_some_iff.mpr hentry⟩
  · rintro ⟨verdict, hget⟩
    exact ⟨(key, verdict), Verdicts.get_eq_some_iff.mp hget, rfl⟩

variable {p : SemanticProposition} {raised : Verdicts}

theorem Verdicts.Raises.get_eq_some_iff (hraise : verdicts.Raises raised p.propositionId)
    {q : SemanticProposition} (hp : p ∈ task.propositions) (hq : q ∈ task.propositions) :
    raised.get q.propositionId = some .entailed ↔
      verdicts.get q.propositionId = some .entailed ∨ q = p := by
  by_cases hqp : q = p
  · rw [hqp]
    exact iff_of_true hraise.after (.inr rfl)
  · have hne : q.propositionId ≠ p.propositionId := fun heq =>
      hqp (List.inj_on_of_nodup_map task.ids_nodup hq hp heq)
    rw [hraise.others _ hne, or_iff_left hqp]

/-- A raised map has the keys of the map. -/
theorem Verdicts.Raises.covers {key : String} (hraise : verdicts.Raises raised key)
    (h : verdicts.Covers task.toSpecificationFields) : raised.Covers task.toSpecificationFields := by
  intro k
  rw [← h k, Verdicts.mem_keys_iff, Verdicts.mem_keys_iff]
  by_cases hk : k = key
  · rw [hk, hraise.before, hraise.after]
    exact iff_of_true ⟨_, rfl⟩ ⟨_, rfl⟩
  · rw [hraise.others k hk]

/-- No ambiguous verdict is made or lost. -/
theorem Verdicts.Raises.get_eq_ambiguous_iff {key k : String} (hraise : verdicts.Raises raised key) :
    raised.get k = some .ambiguous ↔ verdicts.get k = some .ambiguous := by
  by_cases hk : k = key
  · rw [hk, hraise.before, hraise.after]
    exact iff_of_false (fun h => by cases h) fun h => by cases h
  · rw [hraise.others k hk]

/-- A raised verdict adds the weight of its proposition. -/
theorem entailedWeight_of_raises (hp : p ∈ task.propositions)
    (hraise : verdicts.Raises raised p.propositionId) :
    entailedWeight task.toSpecificationFields raised =
      entailedWeight task.toSpecificationFields verdicts + p.weight.fraction := by
  refine weightWhere_insert (List.Nodup.of_map _ task.ids_nodup) hp ?_ fun q hq =>
    hraise.get_eq_some_iff hp hq
  rw [hraise.before]
  intro h
  cases h

variable {task' : SummarizationTaskSpecification} {verdicts' : Verdicts}

theorem Verdicts.get_perm (h : verdicts'.entries.Perm verdicts.entries) (key : String) :
    verdicts'.get key = verdicts.get key := by
  refine Option.ext fun verdict => ?_
  rw [Verdicts.get_eq_some_iff, Verdicts.get_eq_some_iff]
  exact h.mem_iff

theorem Verdicts.ambiguous_perm (h : verdicts'.entries.Perm verdicts.entries) :
    verdicts'.ambiguous = verdicts.ambiguous := by
  refine KeySort.sortBy_congr ?_ ((h.filter _).map _)
  rw [List.map_id]
  exact verdicts.keys_nodup.sublist (List.filter_sublist.map _)

/-- The coverage does not depend on the order of the propositions or of the verdicts. -/
theorem coverage_perm (hpropositions : task'.propositions.Perm task.propositions)
    (hentries : verdicts'.entries.Perm verdicts.entries) :
    coverage task' verdicts' = coverage task verdicts := by
  have hlength : (task'.legacyRequirements.length : ℚ) = task.legacyRequirements.length := by
    rw [← task.weight_eq, ← task'.weight_eq]
    exact (hpropositions.map _).sum_eq
  have hweight : entailedWeight task'.toSpecificationFields verdicts' =
      entailedWeight task.toSpecificationFields verdicts := by
    refine (weightWhere_perm hpropositions).trans (weightWhere_congr fun q _ => ?_)
    rw [Verdicts.get_perm hentries]
  rw [coverage, coverage, Verdicts.ambiguous_perm hentries, hlength, hweight]

theorem covers_perm (hpropositions : task'.propositions.Perm task.propositions)
    (hentries : verdicts'.entries.Perm verdicts.entries)
    (h : verdicts.Covers task.toSpecificationFields) :
    verdicts'.Covers task'.toSpecificationFields := fun key =>
  (hentries.map _).mem_iff.trans ((h key).trans (hpropositions.map _).mem_iff.symm)

section Split

variable {parts : List SemanticProposition}
  (hsplit : Splits task.toSpecificationFields task'.toSpecificationFields verdicts verdicts' p parts)
include hsplit

/-- A proposition has a positive weight, so it is not split into nothing. -/
theorem Splits.parts_ne_nil : parts ≠ [] := by
  rintro rfl
  exact absurd hsplit.weight_eq.symm p.weight.fraction_pos.ne'

/-- The parts of the split and the other propositions weigh what the propositions weigh. -/
theorem Splits.total_eq : task'.weight = task.weight := by
  obtain ⟨before, after, hwhole, hparts, -⟩ := hsplit.propositions
  rw [SpecificationFields.weight, SpecificationFields.weight, hwhole, hparts, List.map_append,
    List.map_append, List.map_append, List.map_cons, List.sum_append, List.sum_append,
    List.sum_append, List.sum_cons, hsplit.weight_eq, add_assoc]

theorem Splits.entailedWeight_eq : entailedWeight task'.toSpecificationFields verdicts' =
    entailedWeight task.toSpecificationFields verdicts := by
  obtain ⟨before, after, hwhole, hparts, hothers⟩ := hsplit.propositions
  have hsame : ∀ others : List SemanticProposition, (∀ q ∈ others, q ∈ before ++ after) →
      weightWhere (fun p : SemanticProposition => p.weight.fraction)
        (fun q => verdicts'.get q.propositionId = some .entailed) others =
      weightWhere (fun p : SemanticProposition => p.weight.fraction)
        (fun q => verdicts.get q.propositionId = some .entailed) others := fun others hmem =>
    weightWhere_congr fun q hq => by rw [hothers q (hmem q hq)]
  have hpart : weightWhere (fun p : SemanticProposition => p.weight.fraction)
      (fun q => verdicts'.get q.propositionId = some .entailed) parts =
      if verdicts.get p.propositionId = some .entailed then p.weight.fraction else 0 := by
    rw [← hsplit.weight_eq]
    exact weightWhere_of_const fun q hq => by rw [hsplit.verdict_eq q hq]
  rw [entailedWeight, entailedWeight, hwhole, hparts, weightWhere_append, weightWhere_append,
    weightWhere_append, weightWhere_cons, hpart, hsame before fun q => List.mem_append_left _,
    hsame after fun q => List.mem_append_right _, add_assoc]

/-- A part is ambiguous where the proposition is. -/
theorem Splits.ambiguous_iff :
    (∃ q ∈ task'.propositions, verdicts'.get q.propositionId = some .ambiguous) ↔
      ∃ q ∈ task.propositions, verdicts.get q.propositionId = some .ambiguous := by
  obtain ⟨before, after, hwhole, hparts, hothers⟩ := hsplit.propositions
  obtain ⟨part, hpart⟩ := List.exists_mem_of_ne_nil _ hsplit.parts_ne_nil
  rw [hwhole, hparts]
  constructor
  · rintro ⟨q, hq, hget⟩
    rw [List.append_assoc, List.mem_append, List.mem_append] at hq
    rcases hq with hq | hq | hq
    · rw [hothers q (List.mem_append_left _ hq)] at hget
      exact ⟨q, List.mem_append_left _ hq, hget⟩
    · rw [hsplit.verdict_eq q hq] at hget
      exact ⟨p, List.mem_append_right _ List.mem_cons_self, hget⟩
    · rw [hothers q (List.mem_append_right _ hq)] at hget
      exact ⟨q, List.mem_append_right _ (List.mem_cons_of_mem _ hq), hget⟩
  · rintro ⟨q, hq, hget⟩
    rcases List.mem_append.mp hq with hq | hq
    · rw [← hothers q (List.mem_append_left _ hq)] at hget
      exact ⟨q, List.mem_append_left _ (List.mem_append_left _ hq), hget⟩
    · rcases List.mem_cons.mp hq with rfl | hq
      · rw [← hsplit.verdict_eq part hpart] at hget
        exact ⟨part, List.mem_append_left _ (List.mem_append_right _ hpart), hget⟩
      · rw [← hothers q (List.mem_append_right _ hq)] at hget
        exact ⟨q, List.mem_append_right _ hq, hget⟩

end Split

/-! ## The measure -/

theorem coverage_of_raises (hp : p ∈ task.propositions)
    (h : verdicts.Covers task.toSpecificationFields)
    (hraise : verdicts.Raises raised p.propositionId) :
    (coverage task raised).status = (coverage task verdicts).status ∧
      ∀ x, (coverage task verdicts).fraction = some x → (coverage task raised).fraction =
        some (x + p.weight.fraction / task.legacyRequirements.length) := by
  have hambiguous : raised.ambiguous ≠ [] ↔ verdicts.ambiguous ≠ [] := by
    rw [ambiguous_ne_nil_iff h, ambiguous_ne_nil_iff (hraise.covers h)]
    refine exists_congr fun q => and_congr_right fun _ => hraise.get_eq_ambiguous_iff
  rw [coverage_fraction, coverage_fraction, entailedWeight_of_raises hp hraise, coverage, coverage]
  by_cases hempty : verdicts.ambiguous ≠ []
  · rw [if_pos hempty, if_pos (hambiguous.mpr hempty), if_pos hempty]
    refine ⟨rfl, fun x hx => ?_⟩
    cases hx
  · have hempty' : ¬ raised.ambiguous ≠ [] := fun h' => hempty (hambiguous.mp h')
    rw [if_neg hempty, if_neg hempty', if_neg hempty, if_neg hempty']
    refine ⟨rfl, fun x hx => ?_⟩
    rw [← Option.some.inj hx, add_div]

/-- The coverage of a map is an exact and monotone measure, and a map without a coverage does not have the
ids of the propositions as its keys. -/
theorem weightedCoverage_exact (task : SummarizationTaskSpecification) (verdicts : Verdicts) :
    verdicts.Covers task.toSpecificationFields ↔
      ∃ result, weightedCoverage task verdicts = .ok result ∧ ExactMeasure task verdicts result := by
  refine ⟨fun h => ⟨coverage task verdicts, weightedCoverage_eq h, ?_⟩, fun h => ?_⟩
  · have htotal : (0 : ℚ) < task.legacyRequirements.length := requirements_pos
    exact
      { incomplete_iff := coverage_status.trans (ambiguous_ne_nil_iff h)
        fraction_eq := by
          rw [coverage_fraction]
          by_cases hempty : verdicts.ambiguous ≠ []
          · rw [if_pos hempty, coverage_status.mpr hempty, if_neg (by intro h; cases h)]
          · have hcomplete : (coverage task verdicts).status = .complete := by
              rw [coverage, if_neg hempty]
              rfl
            rw [if_neg hempty, if_pos hcomplete]
        mem_unit := fun x hx => by
          rw [fraction_eq_of_some hx]
          exact ⟨div_nonneg (weightWhere_nonneg fraction_pos) htotal.le,
            div_le_one_of_le₀ entailedWeight_le htotal.le⟩
        eq_one_iff := fun x hx => by
          rw [fraction_eq_of_some hx, div_eq_one_iff_eq htotal.ne', entailedWeight_eq_iff]
        eq_zero_iff := fun x hx => by
          rw [fraction_eq_of_some hx, div_eq_zero_iff, or_iff_left htotal.ne', entailedWeight,
            weightWhere_eq_zero_iff fraction_pos]
        raise := fun p hp raised hraise => by
          obtain ⟨hstatus, hfraction⟩ := coverage_of_raises hp h hraise
          refine ⟨coverage task raised, weightedCoverage_eq (hraise.covers h), hstatus,
            fun x hx => ⟨hfraction x hx, ?_⟩⟩
          exact lt_add_of_pos_right x (div_pos p.weight.fraction_pos htotal)
        order := fun task' verdicts' hpropositions hentries => by
          rw [weightedCoverage_eq (covers_perm hpropositions hentries h),
            coverage_perm hpropositions hentries]
        split := fun task' verdicts' p parts hcovers hsplit => by
          refine ⟨coverage task' verdicts', weightedCoverage_eq hcovers, coverage_agree ?_
            hsplit.entailedWeight_eq hsplit.total_eq⟩
          rw [ambiguous_ne_nil_iff h, ambiguous_ne_nil_iff hcovers, hsplit.ambiguous_iff] }
  · obtain ⟨_, hresult, -⟩ := h
    exact covers_of_ok hresult

end RouteLLM.Summarization
