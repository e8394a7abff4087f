import RouteLLM.Lib.FloatMean
import RouteLLM.Routing.CanonicalFeatures
import RouteLLM.Routing.Outcome
import RouteLLM.Routing.ThresholdContract

/-!
# The quality predictor of a trusted artifact

`routing/predictor.py`: the metadata checks of both artifact formats, the loader, and the predictor that serves
what it has loaded. The pipeline is a parameter: what it gives for rows of canonical features. An artifact that
passes the checks knows the four candidates of the protocol and every category (`Loaded.known`).
-/

namespace RouteLLM

/-! ## Metadata -/

/-- The subclasses of `PredictorArtifactError`. -/
inductive PredictorArtifactErrorClass
  | notFound | corrupt | incompatibleFormat | incompatibleFormulation | incompatibleFeatureSchema
  | incompatibleCategoryTaxonomy | checksum
  deriving DecidableEq

/-- What a start of the process ends in: an exception of the services, or of the artifact. -/
inductive StartupError
  | raised (e : Exc)
  | artifact (cls : PredictorArtifactErrorClass) (message : String)

namespace Predictor

def artifactFormatVersion : String := "1.0.0"

def artifactModelFilename : String := "predictor.pkl"

def productionArtifactFormatVersion : String := "routellm-production-router-v1"

def productionPredictorSha256 : String := "502db83a54c4072c9741a8e4c406498ad88ec97e03bce1ddaf3e0a1b0001c0aa"

def productionProtocolVersion : String := "1.7.0"

def productionProtocolSha256 : String := "b4cde3954a8ccd1b54684dcb62da303e7bc806248306464ae536b9ff717a0bd8"

def productionSplitSha256 : String := "98c639be29da4e11fdf48073d74e83805f16fdfb72b0102b5f5543213ab4960b"

def productionTrainingDatasetSha256 : String :=
  "1a9cadc2d557eacb4a7dce450100cdb495a2659c2862845ce9894cf0a7791005"

def productionSourceRunId : String := "cc28470f-55ed-4a2f-a6ee-8d25cf93ecd2"

/-- The float `0.80`. -/
def productionQualityThreshold : PyFloat := .ofDecimal ⟨80, -2⟩

def foundationV3Sha256 : String := "64eda8e7388233f645906412a2524982ebfb9c848c42ee24a468ba04c31d16e6"

def foundationV3ProtocolSha256 : String := "973c46e2dfd7c5739f623ff1c7f2378dc3e77c80e5815e23c975816700d4b861"

def phase8c0FormulationEvidence : String := "PHASE_8C_0_PROVIDER_PIN_ABLATION"

def predictorFormulationId : String := "INTERACTION_NO_PROVIDER_PIN"

def predictorFormulationVersion : String := "1.0.0"

def canonicalQualityFeatureSchemaVersion : String := "1.0.0"

def qualityPreprocessingId : String := "interaction-no-provider-pin-column-transformer-v1"

def routingCategoryTaxonomyVersion : String := "phase7-v1"

def foundationV3CandidateIds : List String :=
  ["candidate-claude-sonnet-5", "candidate-gemini-3-flash", "candidate-gpt-6-luna",
    "candidate-nemotron-3.5-lightning"]

end Predictor

/-- `QualityPredictorArtifactMetadata`, less its build entry point, which no check reads. -/
structure QualityPredictorArtifactMetadata where
  artifactFormatVersion : String
  predictorFormulationId : String
  predictorFormulationVersion : String
  canonicalFeatureSchemaVersion : String
  categoryTaxonomyVersion : String
  trainingDatasetName : String
  trainingDatasetVersion : String
  trainingDatasetSha256 : String
  foundationV3ProtocolSha256 : String
  formulationEvidence : String
  validTrainingRows : ℤ
  missingLabelRows : ℤ
  knownCandidateIds : List Identifier
  knownCategories : List RoutingCategory
  sklearnVersion : String
  pythonVersion : String
  preprocessingId : String
  modelFilename : String
  modelSha256 : String

structure ProductionRuntimeCompatibility where
  pythonMajorMinor : String
  scikitLearnVersion : String

structure ProductionDeploymentApproval where
  decision : String
  phase : String
  statement : String

structure SourceValidationMetadata where
  artifactFormatVersion : String
  deploymentStatus : String
  missingLabelRows : ℤ
  sourceRunId : String
  splitSha256 : String
  trainingDatasetSha256 : String
  validTrainingRows : ℤ

structure ProductionQualityPredictorArtifactMetadata where
  approvedQualityThreshold : PyFloat
  artifactFormatVersion : String
  canonicalFeatureSchemaVersion : String
  deploymentApproval : ProductionDeploymentApproval
  knownCandidateIds : List Identifier
  knownCategories : List RoutingCategory
  modelFilename : String
  predictorFormulationId : String
  predictorFormulationVersion : String
  predictorSha256 : String
  preprocessingId : String
  protocolSha256 : String
  protocolVersion : String
  runtimeCompatibility : ProductionRuntimeCompatibility
  sourceValidationMetadata : SourceValidationMetadata

/-- The metadata of either format. -/
inductive ArtifactMetadata
  | quality (metadata : QualityPredictorArtifactMetadata)
  | production (metadata : ProductionQualityPredictorArtifactMetadata)

/-- The versions of the running process. -/
structure RuntimeVersions where
  sklearn : String
  python : String

/-- The major and the minor version. -/
def majorMinor (version : String) : List (List Char) := (version.toList.splitOn '.').take 2

/-- `set(known_categories) == set(RoutingCategory)`. -/
def EveryCategory (categories : List RoutingCategory) : Prop := ∀ c ∈ RoutingCategory.all, c ∈ categories

instance (categories : List RoutingCategory) : Decidable (EveryCategory categories) :=
  inferInstanceAs (Decidable (∀ _ ∈ _, _))

/-- `_validate_metadata`. -/
def validateMetadata (versions : RuntimeVersions) (metadata : QualityPredictorArtifactMetadata) :
    Except StartupError Unit :=
  if metadata.artifactFormatVersion ≠ Predictor.artifactFormatVersion then
    .error (.artifact .incompatibleFormat "unsupported predictor artifact format")
  else if metadata.predictorFormulationId ≠ Predictor.predictorFormulationId ∨
      metadata.predictorFormulationVersion ≠ Predictor.predictorFormulationVersion then
    .error (.artifact .incompatibleFormulation "predictor formulation mismatch")
  else if metadata.canonicalFeatureSchemaVersion ≠ Predictor.canonicalQualityFeatureSchemaVersion then
    .error (.artifact .incompatibleFeatureSchema "canonical feature schema mismatch")
  else if metadata.categoryTaxonomyVersion ≠ Predictor.routingCategoryTaxonomyVersion then
    .error (.artifact .incompatibleCategoryTaxonomy "category taxonomy mismatch")
  else if metadata.trainingDatasetSha256 ≠ Predictor.foundationV3Sha256 ∨
      metadata.foundationV3ProtocolSha256 ≠ Predictor.foundationV3ProtocolSha256 ∨
      metadata.formulationEvidence ≠ Predictor.phase8c0FormulationEvidence ∨
      metadata.preprocessingId ≠ Predictor.qualityPreprocessingId then
    .error (.artifact .corrupt "artifact governance metadata mismatch")
  else if metadata.knownCandidateIds.map (·.value) ≠ Predictor.foundationV3CandidateIds then
    .error (.artifact .corrupt "artifact candidate compatibility set mismatch")
  else if ¬ EveryCategory metadata.knownCategories then
    .error (.artifact .corrupt "artifact category compatibility set mismatch")
  else if metadata.trainingDatasetName ≠ "routellm-foundation-v3" ∨
      metadata.trainingDatasetVersion ≠ "3.0.0" ∨
      metadata.validTrainingRows ≠ 216 ∨
      metadata.missingLabelRows ≠ 8 ∨
      metadata.modelFilename ≠ Predictor.artifactModelFilename ∨
      metadata.modelSha256.length ≠ 64 ∨
      ¬ metadata.modelSha256.toList.all ("0123456789abcdef".toList.contains ·) then
    .error (.artifact .corrupt "artifact build metadata mismatch")
  else if metadata.sklearnVersion ≠ versions.sklearn then
    .error (.artifact .incompatibleFormat "artifact sklearn runtime mismatch")
  else if majorMinor metadata.pythonVersion ≠ majorMinor versions.python then
    .error (.artifact .incompatibleFormat "artifact Python runtime mismatch")
  else .ok ()

/-- `_validate_production_metadata`. -/
def validateProductionMetadata (versions : RuntimeVersions)
    (metadata : ProductionQualityPredictorArtifactMetadata) : Except StartupError Unit :=
  let source := metadata.sourceValidationMetadata
  let approval := metadata.deploymentApproval
  let runtime := metadata.runtimeCompatibility
  if metadata.artifactFormatVersion ≠ Predictor.productionArtifactFormatVersion then
    .error (.artifact .incompatibleFormat "unsupported production artifact format")
  else if metadata.predictorSha256 ≠ Predictor.productionPredictorSha256 then
    .error (.artifact .checksum "unapproved production predictor checksum")
  else if metadata.canonicalFeatureSchemaVersion ≠ Predictor.canonicalQualityFeatureSchemaVersion then
    .error (.artifact .incompatibleFeatureSchema "canonical feature schema mismatch")
  else if metadata.predictorFormulationId ≠ Predictor.predictorFormulationId ∨
      metadata.predictorFormulationVersion ≠ Predictor.predictorFormulationVersion ∨
      metadata.preprocessingId ≠ Predictor.qualityPreprocessingId then
    .error (.artifact .incompatibleFormulation "predictor formulation mismatch")
  else if metadata.knownCandidateIds.map (·.value) ≠ Predictor.foundationV3CandidateIds then
    .error (.artifact .corrupt "artifact candidate compatibility set mismatch")
  else if ¬ EveryCategory metadata.knownCategories then
    .error (.artifact .incompatibleCategoryTaxonomy "artifact category compatibility set mismatch")
  else if metadata.approvedQualityThreshold ≠ Predictor.productionQualityThreshold ∨
      metadata.modelFilename ≠ Predictor.artifactModelFilename ∨
      metadata.protocolVersion ≠ Predictor.productionProtocolVersion ∨
      metadata.protocolSha256 ≠ Predictor.productionProtocolSha256 then
    .error (.artifact .corrupt "production approval metadata mismatch")
  else if approval.decision ≠ "APPROVED_FROZEN_PRODUCTION_ROUTER" ∨ approval.phase ≠ "12.1B" ∨
      approval.statement = "" then
    .error (.artifact .corrupt "production deployment approval is missing")
  else if source.artifactFormatVersion ≠ "phase9-dev-candidate-v1" ∨
      source.deploymentStatus ≠ "DEV_VALIDATION_CANDIDATE_NOT_DEPLOYED" ∨
      source.splitSha256 ≠ Predictor.productionSplitSha256 ∨
      source.trainingDatasetSha256 ≠ Predictor.productionTrainingDatasetSha256 ∨
      source.sourceRunId ≠ Predictor.productionSourceRunId ∨
      source.validTrainingRows ≠ 557 ∨
      source.missingLabelRows ≠ 3 then
    .error (.artifact .corrupt "source validation metadata mismatch")
  else if runtime.scikitLearnVersion ≠ versions.sklearn then
    .error (.artifact .incompatibleFormat "artifact sklearn runtime mismatch")
  else if runtime.pythonMajorMinor.toList ≠ List.intercalate ['.'] (majorMinor versions.python) then
    .error (.artifact .incompatibleFormat "artifact Python runtime mismatch")
  else .ok ()

namespace ArtifactMetadata

/-- The check of the format. -/
def validate (versions : RuntimeVersions) : ArtifactMetadata → Except StartupError Unit
  | quality metadata => validateMetadata versions metadata
  | production metadata => validateProductionMetadata versions metadata

def knownCandidateIds : ArtifactMetadata → List Identifier
  | quality metadata => metadata.knownCandidateIds
  | production metadata => metadata.knownCandidateIds

def knownCategories : ArtifactMetadata → List RoutingCategory
  | quality metadata => metadata.knownCategories
  | production metadata => metadata.knownCategories

def modelFilename : ArtifactMetadata → String
  | quality metadata => metadata.modelFilename
  | production metadata => metadata.modelFilename

/-- The checksum that the loader expects. -/
def expectedChecksum : ArtifactMetadata → String
  | quality metadata => metadata.modelSha256
  | production metadata => metadata.predictorSha256

/-- `getattr(metadata, "approved_quality_threshold", 0.80)`. -/
def approvedQualityThreshold : ArtifactMetadata → PyFloat
  | quality _ => .ofDecimal ⟨80, -2⟩
  | production metadata => metadata.approvedQualityThreshold

/-- What passes the checks knows exactly the candidates of the protocol and every category, under the approved
threshold. -/
theorem known_of_validate {versions : RuntimeVersions} {metadata : ArtifactMetadata}
    (h : metadata.validate versions = .ok ()) :
    metadata.knownCandidateIds.map (·.value) = Predictor.foundationV3CandidateIds ∧
      (∀ category, category ∈ metadata.knownCategories) ∧
        metadata.approvedQualityThreshold = Predictor.productionQualityThreshold := by
  have hall : ∀ {categories : List RoutingCategory}, EveryCategory categories →
      ∀ category, category ∈ categories :=
    fun hevery category => hevery category (by cases category <;> decide)
  cases metadata with
  | quality metadata =>
    obtain ⟨-, h⟩ := Except.guard_eq_ok.mp h
    obtain ⟨-, h⟩ := Except.guard_eq_ok.mp h
    obtain ⟨-, h⟩ := Except.guard_eq_ok.mp h
    obtain ⟨-, h⟩ := Except.guard_eq_ok.mp h
    obtain ⟨-, h⟩ := Except.guard_eq_ok.mp h
    obtain ⟨hids, h⟩ := Except.guard_eq_ok.mp h
    obtain ⟨hcategories, -⟩ := Except.guard_eq_ok.mp h
    exact ⟨not_not.mp hids, hall (not_not.mp hcategories), rfl⟩
  | production metadata =>
    obtain ⟨-, h⟩ := Except.guard_eq_ok.mp h
    obtain ⟨-, h⟩ := Except.guard_eq_ok.mp h
    obtain ⟨-, h⟩ := Except.guard_eq_ok.mp h
    obtain ⟨-, h⟩ := Except.guard_eq_ok.mp h
    obtain ⟨hids, h⟩ := Except.guard_eq_ok.mp h
    obtain ⟨hcategories, h⟩ := Except.guard_eq_ok.mp h
    obtain ⟨happroval, -⟩ := Except.guard_eq_ok.mp h
    exact ⟨not_not.mp hids, hall (not_not.mp hcategories), by_contra fun hne => happroval (.inl hne)⟩

end ArtifactMetadata

/-! ## The loader -/

/-- The pipeline: for each row the probability of an acceptable answer, the second column of `predict_proba` of
the feature matrix. -/
abbrev QualityPipeline := List CanonicalQualityFeatures → Except Exc (List PyFloat)

/-- A file of an artifact directory. -/
inductive ArtifactFile
  | missing | unreadable
  | content (bytes : List UInt8)

/-- What `pickle.loads` gives: nothing, an object that is no quality pipeline, or one. -/
inductive Unpickled
  | undecodable | other
  | pipeline (pipeline : QualityPipeline)

/-- The libraries that the loader relies on. -/
structure ArtifactLibraries where
  versions : RuntimeVersions
  /-- the JSON object of either format, where the schema accepts it -/
  decodeMetadata : List UInt8 → Option ArtifactMetadata
  sha256 : List UInt8 → String
  unpickle : List UInt8 → Unpickled

namespace ArtifactLibraries

variable (libraries : ArtifactLibraries)

/-- The metadata file. -/
def loadMetadata : ArtifactFile → Except StartupError ArtifactMetadata
  | .missing => .error (.artifact .notFound "predictor metadata file is missing")
  | .unreadable => .error (.artifact .corrupt "predictor metadata is corrupt")
  | .content bytes =>
    match libraries.decodeMetadata bytes with
    | none => .error (.artifact .corrupt "predictor metadata is corrupt")
    | some metadata => (metadata.validate libraries.versions).map fun _ => metadata

/-- The serialized pipeline, whose checksum is the one of the metadata. -/
def loadPipeline (expectedChecksum : String) : ArtifactFile → Except StartupError QualityPipeline
  | .missing => .error (.artifact .notFound "serialized predictor file is missing")
  | .unreadable => .error (.artifact .corrupt "serialized predictor cannot be read")
  | .content bytes =>
    if libraries.sha256 bytes ≠ expectedChecksum then
      .error (.artifact .checksum "serialized predictor checksum mismatch")
    else
      match libraries.unpickle bytes with
      | .undecodable => .error (.artifact .corrupt "serialized predictor cannot be decoded")
      | .other => .error (.artifact .corrupt "serialized object is not a quality pipeline")
      | .pipeline pipeline => .ok pipeline

/-- `load_trusted_quality_artifact` of a directory. -/
def loadTrustedQualityArtifact (directory : String → ArtifactFile) :
    Except StartupError (QualityPipeline × ArtifactMetadata) := do
  let metadata ← libraries.loadMetadata (directory "metadata.json")
  let pipeline ← libraries.loadPipeline metadata.expectedChecksum (directory metadata.modelFilename)
  return (pipeline, metadata)

end ArtifactLibraries

/-! ## The predictor -/

/-- `SklearnQualityPredictor`, with the check of its constructor. -/
structure SklearnQualityPredictor where
  pipeline : QualityPipeline
  metadata : ArtifactMetadata
  versions : RuntimeVersions
  validated : metadata.validate versions = .ok ()

namespace SklearnQualityPredictor

/-- The constructor. -/
def create (versions : RuntimeVersions) (pipeline : QualityPipeline) (metadata : ArtifactMetadata) :
    Except StartupError SklearnQualityPredictor :=
  match h : metadata.validate versions with
  | .ok () => .ok ⟨pipeline, metadata, versions, h⟩
  | .error e => .error e

theorem create_eq_ok {versions : RuntimeVersions} {pipeline : QualityPipeline} {metadata : ArtifactMetadata}
    {predictor : SklearnQualityPredictor} : create versions pipeline metadata = .ok predictor ↔
      predictor.pipeline = pipeline ∧ predictor.metadata = metadata ∧ predictor.versions = versions ∧
        metadata.validate versions = .ok () := by
  unfold create
  split
  · rename_i hvalid
    refine ⟨fun h => by cases h; exact ⟨rfl, rfl, rfl, hvalid⟩, fun h => ?_⟩
    cases predictor
    obtain ⟨rfl, rfl, rfl, -⟩ := h
    rfl
  · rename_i e hinvalid
    refine ⟨fun h => (by cases h), fun h => ?_⟩
    rw [hinvalid] at h
    cases h.2.2.2

/-- `from_trusted_artifact`. -/
def fromTrustedArtifact (libraries : ArtifactLibraries) (directory : String → ArtifactFile) :
    Except StartupError SklearnQualityPredictor := do
  let (pipeline, metadata) ← libraries.loadTrustedQualityArtifact directory
  create libraries.versions pipeline metadata

variable (predictor : SklearnQualityPredictor)

/-- The ids that the artifact does not know, sorted. -/
def unknownCandidates (ids : List Identifier) : List String :=
  ((ids.filter (· ∉ predictor.metadata.knownCandidateIds)).map (·.value)).dedup.insertionSort (· ≤ ·)

/-- The exception that a constructor makes of the `ValueError` of a validator. -/
def asValidationError : Exc → Exc
  | .raised .valueError message => .raised .validationError message
  | e => e

/-- `ModelAcceptabilityPrediction(model_id, predicted_acceptability)`. -/
def prediction (candidate : ModelConfig) (acceptability : PyFloat) :
    Except Exc ModelAcceptabilityPrediction :=
  ((validatedProbability (.float acceptability) "predicted_acceptability").mapError asValidationError).map
    fun p => ⟨candidate.modelId, p⟩

/-- `predict`. The exception for an unknown candidate is an `UnsupportedPredictorCandidateError`, which is a
`PredictorInputCompatibilityError`. -/
def predict (features : RoutingRequestFeatures) (candidates : List ModelConfig) :
    Except Exc (List ModelAcceptabilityPrediction) :=
  match features.category with
  | none => .error (.raised .missingRoutingCategoryError
      "quality prediction requires an explicit routing category")
  | some category =>
    if category ∉ predictor.metadata.knownCategories then
      .error (.raised .predictorInputCompatibilityError
        "request category is not supported by this predictor artifact")
    else
      let candidateIds := candidates.map (·.modelId)
      if ¬ candidateIds.Nodup then
        .error (.raised .predictorInputCompatibilityError "candidate model IDs must be unique")
      else
        let unknown := predictor.unknownCandidates candidateIds
        if unknown ≠ [] then
          .error (.raised .predictorInputCompatibilityError
            ("candidate is not supported by this predictor artifact: " ++ ", ".intercalate unknown))
        else do
          let canonical ← candidates.mapM (canonicalFromProduction features)
          if canonical = [] then return []
          let probabilities ← predictor.pipeline canonical
          (candidates.zip probabilities).mapM fun (candidate, probability) => prediction candidate probability

end SklearnQualityPredictor

/-! ## The predictions of a servable request -/

/-- Request features whose counts have floats. -/
structure RoutingRequestFeatures.Countable (features : RoutingRequestFeatures) : Prop where
  promptCharacters : features.promptCharacters ≤ 2 ^ 53
  approximateInputTokens : features.approximateInputTokens ≤ 2 ^ 53
  maxOutputTokens : features.maxOutputTokens.val ≤ 2 ^ 53
  constraintIndicatorCount : features.constraintIndicatorCount ≤ 2 ^ 53
  reasoningIndicatorCount : features.reasoningIndicatorCount ≤ 2 ^ 53

/-- A model that has canonical features for every such request. -/
structure ModelConfig.Servable (model : ModelConfig) : Prop where
  resolvable : ∀ category, RoutingDecisionService.Resolvable category model
  overrides : ∀ item ∈ model.outputTokenPolicy.categoryOverrides, item.maxOutputTokens.val ≤ 2 ^ 53
  contextWindow : model.contextWindow.val ≤ 2 ^ 53
  inputCost : (Binary64.ofRat? model.inputCostPer1mTokens.toRat).isSome
  outputCost : (Binary64.ofRat? model.outputCostPer1mTokens.toRat).isSome

theorem isSome_ofInt?_of_le {n : ℕ} (h : n ≤ 2 ^ 53) : (PyFloat.ofInt? n).isSome := by
  rw [PyFloat.ofInt?, Option.isSome_map, Int.cast_natCast]
  exact Binary64.isSome_ofRat?_of_le n.cast_nonneg (by exact_mod_cast h)

/-- A count is converted. -/
theorem floatOfInt_of_le {n : ℕ} (h : n ≤ 2 ^ 53) :
    ∃ x : {x : Binary64 // 0 ≤ x}, floatOfInt n = .ok (.finite x) := by
  obtain ⟨x, hx⟩ := PyFloat.exists_ofInt?_nonneg (isSome_ofInt?_of_le h)
  exact ⟨x, floatOfInt_eq_ok.mpr hx⟩

/-- A positive count is converted. -/
theorem floatOfInt_pos_of_le (n : PositiveTokenCount) (h : n.val ≤ 2 ^ 53) :
    ∃ x : {x : Binary64 // 0 < x}, floatOfInt n.val = .ok (.finite x) := by
  obtain ⟨x, hx⟩ := PyFloat.exists_ofInt?_pos n.pos (isSome_ofInt?_of_le h)
  exact ⟨x, floatOfInt_eq_ok.mpr hx⟩

/-- **Every servable pair has canonical features.** -/
theorem exists_canonicalFromProduction {features : RoutingRequestFeatures} {candidate : ModelConfig}
    {category : RoutingCategory} (hcategory : features.category = some category)
    (hfeatures : features.Countable) (hmodel : candidate.Servable) :
    ∃ canonical, canonicalFromProduction features candidate = .ok canonical := by
  obtain ⟨allowance, hallowance⟩ :=
    RoutingDecisionService.resolve_of_resolvable hcategory (hmodel.resolvable category)
  have hle : allowance.val ≤ 2 ^ 53 := by
    obtain ⟨-, -, rfl⟩ := (resolveEffectiveOutputAllowance_eq_ok hcategory).mp hallowance
    cases hhead : (canonicalOverrides candidate category).head? with
    | none => exact hfeatures.maxOutputTokens
    | some limit =>
      obtain ⟨item, hitem, rfl⟩ := List.mem_map.mp (List.mem_of_head? hhead)
      exact hmodel.overrides item (List.mem_of_mem_filter hitem)
  obtain ⟨prompt, hprompt⟩ := floatOfInt_of_le hfeatures.promptCharacters
  obtain ⟨tokens, htokens⟩ := floatOfInt_of_le hfeatures.approximateInputTokens
  obtain ⟨requested, hrequested⟩ := floatOfInt_pos_of_le _ hfeatures.maxOutputTokens
  obtain ⟨constraints, hconstraints⟩ := floatOfInt_of_le hfeatures.constraintIndicatorCount
  obtain ⟨reasoning, hreasoning⟩ := floatOfInt_of_le hfeatures.reasoningIndicatorCount
  obtain ⟨window, hwindow⟩ := floatOfInt_pos_of_le _ hmodel.contextWindow
  obtain ⟨effective, heffective⟩ := floatOfInt_pos_of_le _ hle
  obtain ⟨input, hinput⟩ := PyFloat.exists_ofDecimal_nonneg candidate.inputCostPer1mTokens.toRat_nonneg
    hmodel.inputCost
  obtain ⟨output, houtput⟩ := PyFloat.exists_ofDecimal_nonneg candidate.outputCostPer1mTokens.toRat_nonneg
    hmodel.outputCost
  rw [canonicalFromProduction, hcategory]
  simp only [canonicalizeCategory_value, hprompt, htokens, hrequested, hconstraints, hreasoning, hwindow,
    hallowance, heffective, Except.ok_bind, hinput, houtput]
  refine ⟨{
    category
    candidateId := candidate.modelId
    reasoningEffort := canonicalizeReasoningEffort candidate.reasoningEffort
    promptCharacters := prompt
    approximateInputTokens := tokens
    requestedMaxOutputTokens := requested
    constraintIndicatorCount := constraints
    reasoningIndicatorCount := reasoning
    configuredInputCostPer1mTokens := input
    configuredOutputCostPer1mTokens := output
    contextWindow := window
    effectiveMaxOutputTokens := effective
    containsCode := features.containsCode
    requestsStructuredOutput := features.requestsStructuredOutput
    supportsTemperature := candidate.capabilities.supportsTemperature }, ?_⟩
  exact CanonicalInputs.validate_eq_ok.mpr ⟨rfl, rfl⟩

/-! ## The loaded predictor -/

/-- What is loaded has passed the checks of its format. -/
theorem ArtifactLibraries.validate_of_load {libraries : ArtifactLibraries} {directory : String → ArtifactFile}
    {loaded : QualityPipeline × ArtifactMetadata}
    (h : libraries.loadTrustedQualityArtifact directory = .ok loaded) :
    loaded.2.validate libraries.versions = .ok () := by
  obtain ⟨metadata, hmetadata, h⟩ := Except.bind_eq_ok.mp h
  obtain ⟨pipeline, -, h⟩ := Except.bind_eq_ok.mp h
  cases h
  unfold loadMetadata at hmetadata
  split at hmetadata
  · cases hmetadata
  · cases hmetadata
  · split at hmetadata
    · cases hmetadata
    · obtain ⟨_, hvalid, rfl⟩ := Except.map_eq_ok.mp hmetadata
      exact hvalid

/-- Its pipeline has been deserialized. -/
theorem ArtifactLibraries.unpickled_of_load {libraries : ArtifactLibraries} {directory : String → ArtifactFile}
    {loaded : QualityPipeline × ArtifactMetadata}
    (h : libraries.loadTrustedQualityArtifact directory = .ok loaded) :
    ∃ bytes, libraries.unpickle bytes = .pipeline loaded.1 := by
  obtain ⟨metadata, -, h⟩ := Except.bind_eq_ok.mp h
  obtain ⟨pipeline, hpipeline, h⟩ := Except.bind_eq_ok.mp h
  cases h
  unfold loadPipeline at hpipeline
  split at hpipeline
  · cases hpipeline
  · cases hpipeline
  · rename_i bytes _
    obtain ⟨-, hpipeline⟩ := Except.guard_eq_ok.mp hpipeline
    split at hpipeline
    · cases hpipeline
    · cases hpipeline
    · rename_i hunpickled
      cases hpipeline
      exact ⟨bytes, hunpickled⟩

/-- **A predictor is made of every artifact that loads.** -/
theorem SklearnQualityPredictor.fromTrustedArtifact_eq_ok {libraries : ArtifactLibraries}
    {directory : String → ArtifactFile} {predictor : SklearnQualityPredictor} :
    fromTrustedArtifact libraries directory = .ok predictor ↔
      libraries.loadTrustedQualityArtifact directory = .ok (predictor.pipeline, predictor.metadata) ∧
        predictor.versions = libraries.versions := by
  rw [fromTrustedArtifact, Except.bind_eq_ok]
  constructor
  · rintro ⟨⟨pipeline, metadata⟩, hload, hcreate⟩
    obtain ⟨rfl, rfl, hversions, -⟩ := create_eq_ok.mp hcreate
    exact ⟨hload, hversions⟩
  · rintro ⟨hload, hversions⟩
    exact ⟨_, hload, create_eq_ok.mpr ⟨rfl, rfl, hversions, ArtifactLibraries.validate_of_load hload⟩⟩

/-! ## Predictions -/

/-- A pipeline as documented: a probability for each row. -/
def QualityPipeline.Probabilistic (pipeline : QualityPipeline) : Prop :=
  ∀ rows, rows ≠ [] → ∃ probabilities : List Probability, probabilities.length = rows.length ∧
    pipeline rows = .ok (probabilities.map fun p => .finite p.float)

/-- A probability makes a prediction. -/
theorem SklearnQualityPredictor.prediction_probability (candidate : ModelConfig) (p : Probability) :
    prediction candidate (.finite p.float) = .ok ⟨candidate.modelId, p⟩ := by
  have hvalid : validatedProbability (.float (.finite p.float)) "predicted_acceptability" = .ok p :=
    validatedProbability_eq_ok.mpr rfl
  rw [prediction, hvalid]
  rfl

/-- A prediction is of its candidate. -/
theorem SklearnQualityPredictor.modelId_of_prediction {candidate : ModelConfig} {x : PyFloat}
    {p : ModelAcceptabilityPrediction} (h : prediction candidate x = .ok p) :
    p.modelId = candidate.modelId := by
  obtain ⟨_, -, rfl⟩ := Except.map_eq_ok.mp h
  rfl

/-- **A predictor gives each of its candidates one prediction**, in their order. -/
theorem SklearnQualityPredictor.predict_eq_ok {predictor : SklearnQualityPredictor}
    (hpipeline : predictor.pipeline.Probabilistic) {features : RoutingRequestFeatures}
    {candidates : List ModelConfig} (hcategory : features.category ≠ none) (hfeatures : features.Countable)
    (hnodup : (candidates.map (·.modelId)).Nodup)
    (hknown : ∀ model ∈ candidates, model.modelId ∈ predictor.metadata.knownCandidateIds)
    (hservable : ∀ model ∈ candidates, model.Servable) :
    ∃ predictions, predictor.predict features candidates = .ok predictions ∧
      predictions.map (·.modelId) = candidates.map (·.modelId) := by
  obtain ⟨category, hsome⟩ := Option.ne_none_iff_exists'.mp hcategory
  obtain ⟨-, hcategories, -⟩ := ArtifactMetadata.known_of_validate predictor.validated
  have hunknown : predictor.unknownCandidates (candidates.map (·.modelId)) = [] := by
    have hnone : (candidates.map (·.modelId)).filter (· ∉ predictor.metadata.knownCandidateIds) = [] := by
      rw [List.filter_eq_nil_iff]
      intro id hid
      obtain ⟨model, hmodel, rfl⟩ := List.mem_map.mp hid
      simpa using hknown model hmodel
    rw [unknownCandidates, hnone]
    rfl
  obtain ⟨canonical, hcanonical⟩ : ∃ canonical,
      candidates.mapM (canonicalFromProduction features) = .ok canonical :=
    List.exists_mapM_eq_ok fun model hmodel =>
      exists_canonicalFromProduction hsome hfeatures (hservable model hmodel)
  have hrows : canonical.length = candidates.length := (List.mapM_eq_ok.mp hcanonical).length_eq.symm
  rw [predict, hsome]
  dsimp only
  rw [if_neg (not_not.mpr (hcategories category)), if_neg (not_not.mpr hnodup), hunknown,
    if_neg (not_not.mpr rfl), hcanonical, Except.ok_bind]
  split
  · rename_i hempty
    rw [hempty, List.length_nil] at hrows
    rw [List.length_eq_zero_iff.mp hrows.symm]
    exact ⟨[], rfl, rfl⟩
  · rename_i hrow
    obtain ⟨probabilities, hlength, hprobabilities⟩ := hpipeline canonical hrow
    rw [hprobabilities, Except.ok_bind]
    have hsteps : ∀ x ∈ candidates.zip (probabilities.map fun p => PyFloat.finite p.float),
        ∃ p, prediction x.1 x.2 = .ok p := by
      intro x hx
      obtain ⟨p, -, hp⟩ := List.mem_map.mp (List.of_mem_zip hx).2
      rw [← hp, prediction_probability]
      exact ⟨_, rfl⟩
    obtain ⟨predictions, hpredictions⟩ := List.exists_mapM_eq_ok hsteps
    have hids := List.map_of_mapM (fun _ _ h => modelId_of_prediction h) hpredictions
    have hfirst : (candidates.zip (probabilities.map fun p => PyFloat.finite p.float)).map Prod.fst =
        candidates := List.map_fst_zip (by simp [hlength, hrows])
    refine ⟨predictions, hpredictions, hids.trans ?_⟩
    conv_rhs => rw [← hfirst]
    rw [List.map_map]
    rfl

end RouteLLM
