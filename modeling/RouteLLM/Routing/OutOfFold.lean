import RouteLLM.Routing.CanonicalFeatures
import RouteLLM.Routing.FoldBalance

/-!
# Predictions out of fold

The folds of a data set of the expected shape partition its tasks evenly, and every row is predicted once, by a
pipeline that was fitted to labelled rows of other tasks. The rows are adapted to canonical features first, which
raises on a row that has none.
-/

namespace RouteLLM

namespace Retraining

open RoutingAnalysis

variable {φ : Type} {rows : List (ExperimentRow φ)} {folds : List FoldAssignment}

/-! ## The records of a fold -/

section Records

variable {C : Type} {canonical : List ((String × String) × C)} {fitPredict : List (C × Bool) → List C → List PyFloat}

/-- The record has the probability of a row of the fold, from a fit to the fold's training rows. -/
def PredictedBy (rows : List (ExperimentRow φ)) (fitPredict : List (C × Bool) → List C → List PyFloat)
    (canonical : List ((String × String) × C)) (assignment : FoldAssignment) (record : OofRecord) : Prop :=
  ∃ fit features, (trainRows rows assignment).mapM (fitRow canonical) = .ok fit ∧
    (testRows rows assignment).mapM (canonicalOf canonical) = .ok features ∧
    ∃ row, (row, record.predictedProbability) ∈ (testRows rows assignment).zip (fitPredict fit features) ∧
      record.key = row.key ∧ record.labelStatus = row.labelStatus ∧ record.target = row.acceptable ∧
      record.fold = assignment.fold

/-- Every row has an entry of canonical features. -/
def Covers (canonical : List ((String × String) × C)) (rows : List (ExperimentRow φ)) : Prop :=
  ∀ row ∈ rows, ∃ features, canonicalOf canonical row = .ok features

/-- The records of a fold are those of its rows. -/
theorem exists_predictFold (hcovers : Covers canonical rows)
    (hlength : ∀ fit features, (fitPredict fit features).length = features.length) (assignment : FoldAssignment) :
    ∃ records audit, predictFold rows fitPredict canonical assignment = .ok (records, audit) ∧
      records.map (·.key) = (testRows rows assignment).map (·.key) ∧
      ∀ record ∈ records, PredictedBy rows fitPredict canonical assignment record := by
  have hleak : (trainRows rows assignment).any (fun row => row.taskId ∈ assignment.taskIds) = false := by
    refine List.any_eq_false.mpr fun row hrow hmem => ?_
    have hout := of_decide_eq_true (List.mem_filter.mp hrow).2
    exact hout.1 (of_decide_eq_true hmem)
  obtain ⟨fit, hfit⟩ : ∃ fit, (trainRows rows assignment).mapM (fitRow canonical) = .ok fit := by
    refine List.exists_mapM_eq_ok fun row hrow => ?_
    obtain ⟨features, hfeatures⟩ := hcovers row (List.mem_of_mem_filter hrow)
    exact ⟨_, by rw [fitRow, hfeatures, Except.ok_bind]; rfl⟩
  obtain ⟨features, hfeatures⟩ : ∃ features, (testRows rows assignment).mapM (canonicalOf canonical) = .ok features :=
    List.exists_mapM_eq_ok fun row hrow => hcovers row (List.mem_of_mem_filter hrow)
  have hsame : (testRows rows assignment).length = (fitPredict fit features).length := by
    rw [hlength]
    exact (List.mapM_eq_ok.mp hfeatures).length_eq
  refine ⟨((testRows rows assignment).zip (fitPredict fit features)).map fun pair => oofRecord assignment pair.1 pair.2,
    oofAudit rows assignment, ?_, ?_, ?_⟩
  · rw [predictFold, hleak, if_neg Bool.false_ne_true, hfit, Except.ok_bind, hfeatures, Except.ok_bind]
    rfl
  · conv_rhs => rw [← List.map_fst_zip hsame.le]
    rw [List.map_map, List.map_map]
    rfl
  · intro record hrecord
    obtain ⟨⟨row, probability⟩, hpair, rfl⟩ := List.mem_map.mp hrecord
    exact ⟨fit, features, hfit, hfeatures, row, hpair, rfl, rfl, rfl, rfl⟩

/-- The entries cover the rows that were adapted. -/
theorem covers_of_mapM {adapt : ExperimentRow φ → Except Exc C}
    (h : rows.mapM (fun row => return (row.key, ← adapt row)) = .ok canonical) : Covers canonical rows := by
  intro row hrow
  obtain ⟨entry, hentry, hadapt⟩ := List.Forall₂.exists_of_mem (List.mapM_eq_ok.mp h) hrow
  obtain ⟨features, _, heq⟩ := Except.bind_eq_ok.mp hadapt
  obtain rfl := Except.pure_eq_ok.mp heq
  rw [canonicalOf]
  cases hlookup : canonical.reverse.lookup row.key with
  | some found => exact ⟨found, rfl⟩
  | none =>
    have hne := List.lookup_eq_none_iff.mp hlookup _ (List.mem_reverse.mpr hentry)
    simp at hne

/-- What the records of the folds are. -/
def FoldRecords (rows : List (ExperimentRow φ)) (fitPredict : List (C × Bool) → List C → List PyFloat)
    (canonical : List ((String × String) × C)) (assignment : FoldAssignment) (predicted : List OofRecord × OofAudit) :
    Prop :=
  predicted.1.map (·.key) = (testRows rows assignment).map (·.key) ∧
    ∀ record ∈ predicted.1, PredictedBy rows fitPredict canonical assignment record

theorem exists_mapM_predictFold (hcovers : Covers canonical rows)
    (hlength : ∀ fit features, (fitPredict fit features).length = features.length) :
    ∃ predicted, folds.mapM (predictFold rows fitPredict canonical) = .ok predicted ∧
      List.Forall₂ (FoldRecords rows fitPredict canonical) folds predicted := by
  obtain ⟨predicted, hpredicted⟩ : ∃ predicted, folds.mapM (predictFold rows fitPredict canonical) = .ok predicted := by
    refine List.exists_mapM_eq_ok fun assignment _ => ?_
    obtain ⟨records, audit, heq, _⟩ := exists_predictFold hcovers hlength assignment
    exact ⟨(records, audit), heq⟩
  refine ⟨predicted, hpredicted, (List.mapM_eq_ok.mp hpredicted).imp fun assignment result hresult => ?_⟩
  obtain ⟨records, audit, heq, hkeys, hrecords⟩ := exists_predictFold hcovers hlength assignment
  cases heq.symm.trans hresult
  exact ⟨hkeys, hrecords⟩

/-- The records of all folds have the keys of the rows that the folds predict. -/
theorem map_key_flatMap {predicted : List (List OofRecord × OofAudit)}
    (h : List.Forall₂ (FoldRecords rows fitPredict canonical) folds predicted) :
    (predicted.flatMap (·.1)).map (·.key) = (folds.flatMap (testRows rows)).map (·.key) := by
  induction h with
  | nil => rfl
  | cons hfirst _ ih =>
    rw [List.flatMap_cons, List.flatMap_cons, List.map_append, List.map_append, ih, hfirst.1]

/-- Folds that partition the tasks predict every row once. -/
theorem flatMap_testRows_perm (hperm : (folds.flatMap (·.taskIds)).Perm (taskIds rows)) :
    (folds.flatMap (testRows rows)).Perm rows := by
  have hnodup := hperm.nodup_iff.mpr nodup_taskIds
  refine Grouping.flatMap_filter_perm ((List.nodup_flatMap.mp hnodup).2.imp fun {a b} hdisjoint row _ ha => ?_)
    fun row hrow => ?_
  · exact decide_eq_false fun hb => hdisjoint (of_decide_eq_true ha) hb
  · have hmem := hperm.mem_iff.mpr (mem_taskIds.mpr ⟨row, hrow, rfl⟩)
    obtain ⟨assignment, hassignment, htask⟩ := List.mem_flatMap.mp hmem
    exact ⟨assignment, hassignment, decide_eq_true htask⟩

theorem GroupedShape.length_rows (h : GroupedShape rows) : rows.length = 560 := by
  have hrows : ((taskIds rows).flatMap (rowsOf rows)).Perm rows :=
    Grouping.flatMap_filter_key_perm nodup_taskIds fun row hrow => mem_taskIds.mpr ⟨row, hrow, rfl⟩
  have hlengths : (taskIds rows).map (fun task => (rowsOf rows task).length) = (taskIds rows).map fun _ => 4 := by
    refine List.map_congr_left fun task htask => ?_
    obtain ⟨row, hrow, rfl⟩ := mem_taskIds.mp htask
    exact h.four_rows row hrow
  rw [← hrows.length_eq, List.length_flatMap, hlengths, List.map_const', List.sum_replicate, h.length_taskIds]
  rfl

/-- Every row is predicted once. -/
theorem exists_generateOof {adapt : ExperimentRow φ → Except Exc C} (hshape : GroupedShape rows)
    (hperm : (folds.flatMap (·.taskIds)).Perm (taskIds rows)) (hadapt : ∀ row ∈ rows, ∃ features, adapt row = .ok features)
    (hlength : ∀ fit features, (fitPredict fit features).length = features.length) :
    ∃ canonical records audits, rows.mapM (fun row => return (row.key, ← adapt row)) = .ok canonical ∧
      generateOof rows fitPredict adapt folds = .ok (records, audits) ∧
      (records.map (·.key)).Perm (rows.map (·.key)) ∧
      ∀ record ∈ records, ∃ assignment ∈ folds, PredictedBy rows fitPredict canonical assignment record := by
  obtain ⟨canonical, hcanonical⟩ : ∃ canonical : List ((String × String) × C),
      rows.mapM (fun row => return (row.key, ← adapt row)) = Except.ok canonical := by
    refine List.exists_mapM_eq_ok fun row hrow => ?_
    obtain ⟨features, hfeatures⟩ := hadapt row hrow
    exact ⟨(row.key, features), by rw [hfeatures]; rfl⟩
  obtain ⟨predicted, hpredicted, hrecords⟩ :=
    @exists_mapM_predictFold _ rows folds _ canonical fitPredict (covers_of_mapM hcanonical) hlength
  have hsorted := KeySort.sortBy_perm recordKey (predicted.flatMap (·.1))
  have hkeys : ((KeySort.sortBy recordKey (predicted.flatMap (·.1))).map (·.key)).Perm (rows.map (·.key)) := by
    refine (hsorted.map _).trans ?_
    rw [map_key_flatMap hrecords]
    exact (flatMap_testRows_perm hperm).map _
  refine ⟨canonical, KeySort.sortBy recordKey (predicted.flatMap (·.1)), predicted.map (·.2), hcanonical, ?_, hkeys, ?_⟩
  · have hcount : (KeySort.sortBy recordKey (predicted.flatMap (·.1))).length = 560 := by
      have hlengths := hkeys.length_eq
      rw [List.length_map, List.length_map, hshape.length_rows] at hlengths
      exact hlengths
    have hdistinct : ((KeySort.sortBy recordKey (predicted.flatMap (·.1))).map (·.key)).dedup.length = 560 := by
      rw [List.dedup_eq_self.mpr (hkeys.nodup_iff.mpr hshape.keys_nodup), List.length_map, hcount]
    rw [generateOof, hcanonical, Except.ok_bind, hpredicted, Except.ok_bind, if_neg]
    · rfl
    · rintro (hne | hne)
      · exact hne hcount
      · exact hne hdistinct
  · intro record hrecord
    obtain ⟨result, hresult, hmem⟩ := List.mem_flatMap.mp (hsorted.mem_iff.mp hrecord)
    obtain ⟨assignment, hassignment, hfold⟩ := List.Forall₂.exists_of_mem hrecords.flip hresult
    exact ⟨assignment, hassignment, hfold.2 record hmem⟩

end Records

/-! ## The folds and their predictions -/

/-- The tasks of a category in a fold with a missing label. -/
def missingTasks (rows : List (ExperimentRow φ)) (category : String) (assignment : FoldAssignment) : ℕ :=
  (assignment.taskIds.filter (categoryOf rows · = category)).countP (hasMissing rows)

/-- Folds that partition the tasks evenly. -/
structure BalancedFolds (rows : List (ExperimentRow φ)) (folds : List FoldAssignment) : Prop where
  folds_eq : folds.map (·.fold) = List.finRange 5
  partition : (folds.flatMap (·.taskIds)).Perm (taskIds rows)
  four : ∀ assignment ∈ folds, ∀ row ∈ rows,
    (assignment.taskIds.filter (categoryOf rows · = row.category)).length = 4
  missing_even : ∀ assignment ∈ folds, ∀ other ∈ folds, ∀ row ∈ rows,
    missingTasks rows row.category assignment ≤ missingTasks rows row.category other + 1
  valid_sum : (folds.map (·.validRows)).sum = rows.countP isValid
  positive_sum : (folds.map (·.positive)).sum = rows.countP isPositive
  negative_sum : (folds.map (·.negative)).sum = rows.countP isNegative
  missing_sum : (folds.map (·.missing)).sum = rows.countP isMissing

/-- Every row has one record, from a fit to labelled rows of other tasks. -/
structure CompleteRecords {C : Type} (rows : List (ExperimentRow φ)) (folds : List FoldAssignment)
    (fitPredict : List (C × Bool) → List C → List PyFloat) (adapt : ExperimentRow φ → Except Exc C)
    (records : List OofRecord) : Prop where
  keys : (records.map (·.key)).Perm (rows.map (·.key))
  fits : ∃ canonical, rows.mapM (fun row => return (row.key, ← adapt row)) = .ok canonical ∧
    ∀ record ∈ records, ∃ assignment ∈ folds, PredictedBy rows fitPredict canonical assignment record ∧
      ∀ row ∈ trainRows rows assignment, row.taskId ≠ record.taskId ∧ row.labelStatus = .valid

theorem DealtState.balancedFolds {state : FoldState} {parts : String → Fold → List String}
    (h : DealtState rows state parts) (hshape : GroupedShape rows) :
    BalancedFolds rows ((List.finRange 5).map (assignmentOf rows state)) := by
  have hfilter : ∀ fold, ∀ row ∈ rows,
      ((assignmentOf rows state fold).taskIds.filter (categoryOf rows · = row.category)).Perm
        (parts row.category fold) := by
    intro fold row hrow
    rw [← h.filter_category ((mem_sortedCategories hshape.oneCategory).mpr ⟨row, hrow, rfl⟩) fold]
    exact (KeySort.sortBy_perm id (state.tasks fold)).filter _
  have hdealt : ∀ row ∈ rows, Dealt rows row.category (parts row.category) := fun row hrow =>
    h.dealt row.category ((mem_sortedCategories hshape.oneCategory).mpr ⟨row, hrow, rfl⟩)
  refine ⟨?_, h.taskIds_perm hshape.oneCategory, ?_, ?_, ?_, ?_, ?_, ?_⟩
  · rw [List.map_map]
    exact List.map_id _
  · intro assignment hassignment row hrow
    obtain ⟨fold, _, rfl⟩ := List.mem_map.mp hassignment
    rw [(hfilter fold row hrow).length_eq]
    exact (hdealt row hrow).four fold
  · intro assignment hassignment other hother row hrow
    obtain ⟨fold, _, rfl⟩ := List.mem_map.mp hassignment
    obtain ⟨fold', _, rfl⟩ := List.mem_map.mp hother
    rw [missingTasks, missingTasks, (hfilter fold row hrow).countP_eq, (hfilter fold' row hrow).countP_eq]
    exact (hdealt row hrow).missing fold fold'
  · rw [List.map_map]
    exact h.sum_foldCount hshape.oneCategory isValid
  · rw [List.map_map]
    exact h.sum_foldCount hshape.oneCategory isPositive
  · rw [List.map_map]
    exact h.sum_foldCount hshape.oneCategory isNegative
  · rw [List.map_map]
    exact h.sum_foldCount hshape.oneCategory isMissing

/-- The text of a number of equal letters. -/
def unary (letter : Char) (n : ℕ) : String := String.ofList (List.replicate n letter)

theorem unary_injective (letter : Char) : Function.Injective (unary letter) := by
  intro m n h
  have hlist := String.ofList_inj.mp h
  simpa using congrArg List.length hlist

/-- Four rows for each of 140 tasks. -/
def samplePairs : List (ℕ × ℕ) := (List.range 140).product (List.range 4)

/-- A row of a task, without a label for the first candidate of every third task. -/
def sampleRow (category : ℕ → String) (features : ℕ → ℕ → φ) (pair : ℕ × ℕ) : ExperimentRow φ where
  taskId := unary 't' pair.1
  candidateId := unary 'm' (pair.2 + 1)
  category := category (pair.1 % 7)
  features := features pair.1 pair.2
  labelStatus := if pair.2 = 0 ∧ pair.1 % 3 = 0 then .missing else .valid
  acceptable := if pair.2 = 0 ∧ pair.1 % 3 = 0 then none else some (pair.2 % 2 = 0)
  valid_target := by
    split
    · intro h
      cases h
    · intro _ h
      cases h
  missing_target := by
    split
    · intro _
      rfl
    · intro h
      cases h

/-- The rows of the sample, with the names of the categories and with features. -/
def sampleRows (category : ℕ → String) (features : ℕ → ℕ → φ) : List (ExperimentRow φ) :=
  samplePairs.map (sampleRow category features)

theorem sampleRows_shape {category : ℕ → String} (hname : ∀ a < 7, ∀ b < 7, category a = category b → a = b)
    (features : ℕ → ℕ → φ) : GroupedShape (sampleRows category features) := by
  have hpairs : samplePairs.Nodup := List.nodup_range.product List.nodup_range
  have hmod : ∀ n, n % 7 < 7 := fun n => Nat.mod_lt n (by omega)
  have htask : ∀ p q : ℕ × ℕ,
      (sampleRow category features q).taskId = (sampleRow category features p).taskId ↔ q.1 = p.1 :=
    fun p q => (unary_injective 't').eq_iff
  have hcategory : ∀ p q : ℕ × ℕ,
      (sampleRow category features q).category = (sampleRow category features p).category ↔ q.1 % 7 = p.1 % 7 :=
    fun p q => ⟨hname _ (hmod q.1) _ (hmod p.1), fun h => congrArg category h⟩
  have hmem : ∀ p : ℕ × ℕ, p ∈ samplePairs ↔ p.1 < 140 ∧ p.2 < 4 := by
    intro p
    rw [samplePairs, List.pair_mem_product, List.mem_range, List.mem_range]
  have hfour : ∀ p ∈ samplePairs, (samplePairs.filter fun q => q.1 = p.1).length = 4 := by
    intro p hp
    have hcandidates : ((List.range 4).map fun k => (p.1, k)).Nodup :=
      List.nodup_range.map fun k k' h => congrArg Prod.snd h
    have hperm : (samplePairs.filter fun q => q.1 = p.1).Perm ((List.range 4).map fun k => (p.1, k)) := by
      refine (List.perm_ext_iff_of_nodup (hpairs.filter _) hcandidates).mpr fun q => ?_
      rw [List.mem_filter, decide_eq_true_iff, hmem, List.mem_map]
      constructor
      · rintro ⟨⟨_, hq⟩, hfirst⟩
        exact ⟨q.2, List.mem_range.mpr hq, by rw [← hfirst]⟩
      · rintro ⟨k, hk, rfl⟩
        exact ⟨⟨((hmem p).mp hp).1, List.mem_range.mp hk⟩, rfl⟩
    rw [hperm.length_eq, List.length_map, List.length_range]
  have htwenty : ∀ c < 7, ((samplePairs.filter fun q => q.1 % 7 = c).map Prod.fst).dedup.length = 20 := by
    intro c hc
    have hperm : ((samplePairs.filter fun q => q.1 % 7 = c).map Prod.fst).dedup.Perm
        ((List.range 140).filter fun n => n % 7 = c) := by
      refine (List.perm_ext_iff_of_nodup (List.nodup_dedup _) (List.nodup_range.filter _)).mpr fun n => ?_
      rw [List.mem_dedup, List.mem_map, List.mem_filter, decide_eq_true_iff, List.mem_range]
      constructor
      · rintro ⟨q, hq, rfl⟩
        obtain ⟨hq, hdec⟩ := List.mem_filter.mp hq
        exact ⟨((hmem q).mp hq).1, of_decide_eq_true hdec⟩
      · rintro ⟨hn, hnc⟩
        exact ⟨(n, 0), List.mem_filter.mpr ⟨(hmem _).mpr ⟨hn, by omega⟩, decide_eq_true hnc⟩, rfl⟩
    rw [hperm.length_eq]
    have hall : ((List.range 7).all fun c => ((List.range 140).filter fun n => n % 7 = c).length = 20) = true := by
      decide +kernel
    exact of_decide_eq_true (List.all_eq_true.mp hall c (List.mem_range.mpr hc))
  refine ⟨?_, ?_, ?_, ?_, ?_⟩
  · rw [sampleRows, List.map_map]
    refine hpairs.map fun p q h => ?_
    have hfirst := unary_injective 't' (congrArg Prod.fst h)
    have hsecond := unary_injective 'm' (congrArg Prod.snd h)
    exact Prod.ext hfirst (Nat.succ_injective hsecond)
  · intro row hrow
    obtain ⟨p, hp, rfl⟩ := List.mem_map.mp hrow
    rw [sampleRows, List.filter_map, List.length_map]
    rw [← hfour p hp]
    refine congrArg List.length (List.filter_congr fun q _ => ?_)
    exact decide_eq_decide.mpr (htask p q)
  · intro row hrow row' hrow' hsame
    obtain ⟨p, _, rfl⟩ := List.mem_map.mp hrow
    obtain ⟨q, _, rfl⟩ := List.mem_map.mp hrow'
    rw [hcategory q p, (htask q p).mp hsame]
  · have hnames : ((List.range 7).map category).Nodup :=
      List.Nodup.map_on (fun a ha b hb => hname a (List.mem_range.mp ha) b (List.mem_range.mp hb)) List.nodup_range
    have hperm : ((sampleRows category features).map (·.category)).dedup.Perm ((List.range 7).map category) := by
      refine (List.perm_ext_iff_of_nodup (List.nodup_dedup _) hnames).mpr fun name => ?_
      rw [List.mem_dedup, sampleRows, List.map_map, List.mem_map, List.mem_map]
      constructor
      · rintro ⟨p, _, rfl⟩
        exact ⟨p.1 % 7, List.mem_range.mpr (hmod p.1), rfl⟩
      · rintro ⟨c, hc, rfl⟩
        have hlt := List.mem_range.mp hc
        exact ⟨(c, 0), (hmem _).mpr ⟨by omega, by omega⟩, congrArg category (Nat.mod_eq_of_lt hlt)⟩
    rw [hperm.length_eq, List.length_map, List.length_range]
  · intro row hrow
    obtain ⟨p, _, rfl⟩ := List.mem_map.mp hrow
    have hmap : ((sampleRows category features).filter
        (·.category = (sampleRow category features p).category)).map (·.taskId) =
        ((samplePairs.filter fun q => q.1 % 7 = p.1 % 7).map Prod.fst).map (unary 't') := by
      rw [sampleRows, List.filter_map, List.map_map, List.map_map]
      refine congrArg (List.map _) (List.filter_congr fun q _ => ?_)
      exact decide_eq_decide.mpr (hcategory p q)
    rw [hmap, List.dedup_map_of_injective (unary_injective 't'), List.length_map]
    exact htwenty (p.1 % 7) (hmod p.1)

/-- The features of a row are adapted by `canonical_from_training_row`. -/
def adaptRow (row : ExperimentRow FeatureValues) : Except Exc CanonicalQualityFeatures :=
  canonicalFromTrainingRow ⟨row.features.candidateId, row.features, rfl⟩

/-- The id of a candidate of the sample. -/
def sampleCandidate (k : ℕ) : Identifier where
  value := unary 'm' (k + 1)
  stripped := by
    have hletter : ∀ c ∈ List.replicate (k + 1) 'm', PyStr.isSpaceChar c = false := by
      intro c hc
      rw [List.eq_of_mem_replicate hc]
      rfl
    rw [unary, String.toList_ofList]
    exact PyStr.stripBy_eq_self _ (fun c hc => hletter c (List.mem_of_mem_head? hc))
      fun c hc => hletter c (List.mem_of_getLast? hc)
  nonempty := by
    rw [unary, String.length_ofList, List.length_replicate]
    exact Nat.le_add_left 1 k

/-- Features with a category of the sample. -/
def sampleFeatures (category : ℕ → String) (task candidate : ℕ) : FeatureValues where
  category := category (task % 7)
  candidateId := sampleCandidate candidate
  upstreamProviderPin := "openai"
  reasoningEffort := "none"
  promptCharacters := .finite 1
  approximateInputTokens := .finite 1
  requestedMaxOutputTokens := .finite 1
  constraintIndicatorCount := .finite 1
  reasoningIndicatorCount := .finite 1
  configuredInputCostPer1mTokens := .finite 1
  configuredOutputCostPer1mTokens := .finite 1
  contextWindow := .finite 1
  effectiveMaxOutputTokens := .finite 1
  containsCode := false
  requestsStructuredOutput := false
  supportsTemperature := true

theorem zero_le_binary64_one : (0 : Binary64) ≤ 1 := by decide

theorem zero_lt_binary64_one : (0 : Binary64) < 1 := by decide

/-- The name of a routing category. -/
def routingName (n : ℕ) : String := (RoutingCategory.all[n]?.map RoutingCategory.value).getD ""

/-- Rows of routing categories are adapted. -/
theorem adaptRow_sampleRow (pair : ℕ × ℕ) :
    ∃ features, adaptRow (sampleRow routingName (sampleFeatures routingName) pair) = .ok features := by
  have hcategory : ∀ n < 7, ∃ category, canonicalizeCategory (routingName n) = .ok category := by
    intro n hn
    match n, hn with
    | 0, _ => exact ⟨.classification, rfl⟩
    | 1, _ => exact ⟨.coding, rfl⟩
    | 2, _ => exact ⟨.extraction, rfl⟩
    | 3, _ => exact ⟨.structuredJson, rfl⟩
    | 4, _ => exact ⟨.qa, rfl⟩
    | 5, _ => exact ⟨.reasoning, rfl⟩
    | 6, _ => exact ⟨.summarization, rfl⟩
    | n + 7, h => exact absurd h (by omega)
  obtain ⟨category, hcategory⟩ := hcategory (pair.1 % 7) (Nat.mod_lt _ (by omega))
  have heffort : canonicalizeReasoningEffortText "none" = .ok .none := rfl
  refine ⟨{
    category := category
    candidateId := sampleCandidate pair.2
    reasoningEffort := .none
    promptCharacters := ⟨1, zero_le_binary64_one⟩
    approximateInputTokens := ⟨1, zero_le_binary64_one⟩
    requestedMaxOutputTokens := ⟨1, zero_lt_binary64_one⟩
    constraintIndicatorCount := ⟨1, zero_le_binary64_one⟩
    reasoningIndicatorCount := ⟨1, zero_le_binary64_one⟩
    configuredInputCostPer1mTokens := ⟨1, zero_le_binary64_one⟩
    configuredOutputCostPer1mTokens := ⟨1, zero_le_binary64_one⟩
    contextWindow := ⟨1, zero_lt_binary64_one⟩
    effectiveMaxOutputTokens := ⟨1, zero_lt_binary64_one⟩
    containsCode := false
    requestsStructuredOutput := false
    supportsTemperature := true }, ?_⟩
  change (canonicalizeCategory (routingName (pair.1 % 7)) >>= _) = _
  rw [hcategory, Except.ok_bind]
  change (canonicalizeReasoningEffortText "none" >>= _) = _
  rw [heffort, Except.ok_bind]
  exact CanonicalInputs.validate_eq_ok.mpr ⟨rfl, rfl⟩

end Retraining

end RouteLLM
