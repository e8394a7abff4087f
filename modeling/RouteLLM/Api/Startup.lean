import RouteLLM.Api.Conformance
import RouteLLM.Providers.Portfolio

/-!
# The start of the process

From the environment to the application: `application/adaptive_config.py`, the constructors of
`application/adaptive.py` and `application/chat.py` that a start uses, and the composition of `bootstrap.py`,
`runtime.py` and the lifespan of `api/app.py`. The settings of the database, the timeouts, the deadline, the rate
limiter and the request limits are values of the process.
-/

namespace RouteLLM

/-! ## The environment -/

/-- `os.environ.get(name, "").strip()`. -/
def environmentText (environ : String → Option String) (name : String) : String :=
  stripText ((environ name).getD "")

/-- An `Identifier` field. -/
def Identifier.validate (s : String) : Except Exc Identifier :=
  if h : 1 ≤ (stripText s).length then
    .ok ⟨stripText s, by simp [stripText, PyStr.strip], h⟩
  else .error (.raised .validationError "String should have at least 1 character")

theorem Identifier.validate_eq_ok {s : String} {id : Identifier} :
    Identifier.validate s = .ok id ↔ id.value = stripText s := by
  unfold Identifier.validate
  split
  · refine ⟨fun h => by cases h; rfl, fun h => congrArg _ (Identifier.ext h.symm)⟩
  · rename_i hempty
    exact ⟨fun h => (by cases h), fun h => absurd (h ▸ id.nonempty) hempty⟩

@[simp] theorem stripText_stripText (s : String) : stripText (stripText s) = stripText s := by
  simp [stripText, PyStr.strip]

theorem stripText_environmentText (environ : String → Option String) (name : String) :
    stripText (environmentText environ name) = environmentText environ name := stripText_stripText _

/-- `AdaptiveRoutingConfig`, with the checks of `validate_complete_configuration`. -/
structure AdaptiveRoutingConfig where
  artifactPath : Option String
  candidateModelIds : List Identifier
  complete : artifactPath = none ↔ candidateModelIds = []
  candidates_nodup : candidateModelIds.Nodup

namespace AdaptiveRoutingConfig

/-- The constructor. -/
def create (artifactPath : Option String) (candidateModelIds : List Identifier) :
    Except Exc AdaptiveRoutingConfig :=
  if h : artifactPath = none ↔ candidateModelIds = [] then
    if hnodup : candidateModelIds.Nodup then .ok ⟨artifactPath, candidateModelIds, h, hnodup⟩
    else .error (.raised .validationError "adaptive candidate model IDs must be unique")
  else .error (.raised .validationError "adaptive routing requires both an artifact path and candidate models")

/-- `candidates.split(",")`, each part stripped. -/
def candidateTexts (candidates : String) : List String :=
  (candidates.toList.splitOn ',').map fun part => String.ofList (PyStr.strip part)

/-- `from_environment`. -/
def fromEnvironment (environ : String → Option String) : Except Exc AdaptiveRoutingConfig :=
  let artifact := environmentText environ "ROUTELLM_ADAPTIVE_ARTIFACT_PATH"
  let candidates := environmentText environ "ROUTELLM_ADAPTIVE_CANDIDATES"
  if artifact = "" ∧ candidates = "" then create none []
  else if artifact = "" ∨ candidates = "" then
    .error (.raised .valueError "adaptive routing environment configuration is incomplete")
  else if "" ∈ candidateTexts candidates then
    .error (.raised .valueError "adaptive candidate list contains an empty model ID")
  else do
    let ids ← (candidateTexts candidates).mapM Identifier.validate
    create (some artifact) ids

theorem create_eq_ok {artifactPath : Option String} {ids : List Identifier} {config : AdaptiveRoutingConfig} :
    create artifactPath ids = .ok config ↔
      config.artifactPath = artifactPath ∧ config.candidateModelIds = ids := by
  unfold create
  split
  · split
    · refine ⟨fun h => by cases h; exact ⟨rfl, rfl⟩, fun h => ?_⟩
      cases config
      obtain ⟨rfl, rfl⟩ := h
      rfl
    · rename_i hnodup
      refine ⟨fun h => (by cases h), ?_⟩
      rintro ⟨-, rfl⟩
      exact absurd config.candidates_nodup hnodup
  · rename_i hcomplete
    refine ⟨fun h => (by cases h), ?_⟩
    rintro ⟨rfl, rfl⟩
    exact absurd config.complete hcomplete

theorem candidateTexts_ne_nil (candidates : String) : candidateTexts candidates ≠ [] := by
  rw [candidateTexts, Ne, List.map_eq_nil_iff]
  exact List.splitOnP_ne_nil _ _

theorem stripText_of_mem_candidateTexts {candidates text : String} (h : text ∈ candidateTexts candidates) :
    stripText text = text := by
  obtain ⟨part, -, rfl⟩ := List.mem_map.mp h
  simp [stripText, PyStr.strip]

/-- The ids of stripped texts. -/
theorem mapM_validate_eq_ok {texts : List String} (h : ∀ text ∈ texts, stripText text = text)
    {ids : List Identifier} : texts.mapM Identifier.validate = .ok ids ↔ ids.map (·.value) = texts := by
  rw [List.mapM_eq_ok]
  induction texts generalizing ids with
  | nil => rw [List.forall₂_nil_left_iff, List.map_eq_nil_iff]
  | cons text texts ih =>
    obtain ⟨htext, htexts⟩ := List.forall_mem_cons.mp h
    cases ids with
    | nil => simp
    | cons id ids =>
      rw [List.forall₂_cons, ih htexts, Identifier.validate_eq_ok, htext, List.map_cons, List.cons.injEq]

/-- Distinct nonempty texts configure their ids. -/
theorem exists_of_texts {candidates : String} (hnodup : (candidateTexts candidates).Nodup)
    (hne : ∀ text ∈ candidateTexts candidates, text ≠ "") (path : String) :
    ∃ config : AdaptiveRoutingConfig, config.artifactPath = some path ∧
      config.candidateModelIds.map (·.value) = candidateTexts candidates := by
  have hstripped := fun text => @stripText_of_mem_candidateTexts candidates text
  obtain ⟨ids, hids⟩ : ∃ ids, (candidateTexts candidates).mapM Identifier.validate = .ok ids := by
    refine List.exists_mapM_eq_ok fun text htext => ?_
    have hlength : 1 ≤ (stripText text).length := by
      rw [hstripped text htext, Nat.one_le_iff_ne_zero, Ne, String.length_eq_zero_iff]
      exact hne text htext
    rw [Identifier.validate, dif_pos hlength]
    exact ⟨_, rfl⟩
  have hvalues := (mapM_validate_eq_ok hstripped).mp hids
  refine ⟨⟨some path, ids, ?_, .of_map _ (hvalues ▸ hnodup)⟩, rfl, hvalues⟩
  refine iff_of_false (Option.some_ne_none _) ?_
  rintro rfl
  exact candidateTexts_ne_nil candidates hvalues.symm

/-- **The environment configures adaptive routing** in both variables or in none. -/
theorem fromEnvironment_eq_ok {environ : String → Option String} {config : AdaptiveRoutingConfig} :
    fromEnvironment environ = .ok config ↔
      (environmentText environ "ROUTELLM_ADAPTIVE_ARTIFACT_PATH" = "" ∧
        environmentText environ "ROUTELLM_ADAPTIVE_CANDIDATES" = "" ∧ config.artifactPath = none) ∨
      (environmentText environ "ROUTELLM_ADAPTIVE_ARTIFACT_PATH" ≠ "" ∧
        environmentText environ "ROUTELLM_ADAPTIVE_CANDIDATES" ≠ "" ∧
        config.artifactPath = some (environmentText environ "ROUTELLM_ADAPTIVE_ARTIFACT_PATH") ∧
        config.candidateModelIds.map (·.value) =
          candidateTexts (environmentText environ "ROUTELLM_ADAPTIVE_CANDIDATES")) := by
  rw [fromEnvironment]
  generalize environmentText environ "ROUTELLM_ADAPTIVE_ARTIFACT_PATH" = artifact
  generalize environmentText environ "ROUTELLM_ADAPTIVE_CANDIDATES" = candidates
  by_cases hartifact : artifact = ""
  · by_cases hcandidates : candidates = ""
    · have hempty : config.artifactPath = none ↔
          config.artifactPath = none ∧ config.candidateModelIds = [] :=
        ⟨fun h => ⟨h, config.complete.mp h⟩, And.left⟩
      simp [hartifact, hcandidates, create_eq_ok, ← hempty]
    · simp [hartifact, hcandidates]
  · by_cases hcandidates : candidates = ""
    · simp [hartifact, hcandidates]
    · have hstripped := fun text => @stripText_of_mem_candidateTexts candidates text
      simp only [hartifact, hcandidates, false_and, if_false, or_self, false_or, ne_eq, not_false_eq_true,
        true_and]
      constructor
      · intro h
        obtain ⟨-, h⟩ := Except.guard_eq_ok.mp h
        obtain ⟨ids, hids, h⟩ := Except.bind_eq_ok.mp h
        obtain ⟨hpath, rfl⟩ := create_eq_ok.mp h
        exact ⟨hpath, (mapM_validate_eq_ok hstripped).mp hids⟩
      · rintro ⟨hpath, hids⟩
        refine Except.guard_eq_ok.mpr ⟨fun hmem => ?_, Except.bind_eq_ok.mpr
          ⟨_, (mapM_validate_eq_ok hstripped).mpr hids, create_eq_ok.mpr ⟨hpath, rfl⟩⟩⟩
        rw [← hids] at hmem
        obtain ⟨id, -, hid⟩ := List.mem_map.mp hmem
        exact absurd id.nonempty (by rw [hid]; decide)

end AdaptiveRoutingConfig

/-- `ChatConfiguration.from_environment`. -/
def chatConfigurationFromEnvironment (environ : String → Option String) : Except Exc Identifier :=
  let modelId := environmentText environ "ROUTELLM_DEFAULT_MODEL_ID"
  if modelId = "" then .error (.raised .valueError "ROUTELLM_DEFAULT_MODEL_ID is required")
  else Identifier.validate modelId

/-- `GatewaySettings.from_environment().api_key`. -/
def apiKeyFromEnvironment (environ : String → Option String) : Option String :=
  let key := environmentText environ "AI_GATEWAY_API_KEY"
  if key = "" then none else some key

/-! ## The composition -/

/-- What the process is started with: its environment, the files and libraries of the artifact, the adapters, the
clocks and the repositories. -/
structure Process (σ : Type) where
  environ : String → Option String
  directory : String → String → ArtifactFile
  libraries : ArtifactLibraries
  indicators : TextIndicators
  recursionLimit : ℕ
  fakeProvider : ModelConfig → σ → Except Exc (Provider σ) × σ
  vercelProvider : String → ModelConfig → σ → Except Exc (Provider σ) × σ
  telemetry : Option (TelemetryEvent → ℚ → σ → Except Exc Unit × σ)
  recordAdaptiveExecution : Option (AdaptiveExecutionTelemetry → ℚ → σ → Except Exc Unit × σ)
  recordChatActivity : Option (ChatActivityRecord → ℚ → σ → Except Exc Unit × σ)
  telemetryTimeout : ℚ
  inferenceDeadlineSeconds : ℚ
  deadline_pos : 0 < inferenceDeadlineSeconds
  clock : σ → ℚ × σ
  durationSeconds : σ → ℚ≥0 × σ
  newUuid : σ → Uuid × σ
  rateLimiter : InferenceRateLimiter σ
  requestLimits : RequestLimitSettings

namespace Process

variable {σ : Type} (process : Process σ)

/-- The key of the environment. -/
def apiKey : Option String := apiKeyFromEnvironment process.environ

/-- The service of `create_development_service` after `configure_gateway`. -/
def inferenceService (registry : ModelRegistry) : InferenceService σ where
  registry
  resolver := ⟨(fake_identifier.identifier, process.fakeProvider) ::
    (process.apiKey.map fun key => (vercel_identifier.identifier, process.vercelProvider key)).toList⟩
  telemetry := process.telemetry
  telemetryTimeout := process.telemetryTimeout
  inferenceDeadlineSeconds := process.inferenceDeadlineSeconds
  clock := process.clock
  durationSeconds := process.durationSeconds
  newUuid := process.newUuid
  deadline_pos := process.deadline_pos

theorem defaultAttempts_range : 1 ≤ 3 ∧ 3 ≤ 3 := by decide

/-- The runtime over a predictor. -/
def runtime (predictor : SklearnQualityPredictor) (candidateModelIds : List Identifier) :
    AdaptiveRuntime σ where
  routing := { predict := predictor.predict, indicators := process.indicators }
  unfiltered := rfl
  recursionLimit := process.recursionLimit
  recordAdaptiveExecution := process.recordAdaptiveExecution
  maxValidationAttempts := 3
  attempts_range := defaultAttempts_range
  candidateModelIds
  approvedQualityThreshold := predictor.metadata.approvedQualityThreshold

/-- `build_adaptive_runtime`, with the checks of `AdaptiveInferenceService.from_trusted_artifact`. The exception
for a candidate that the artifact does not know is an `UnsupportedPredictorCandidateError`, which is a
`PredictorInputCompatibilityError`. -/
def buildAdaptiveRuntime (inference : InferenceService σ) (config : AdaptiveRoutingConfig) :
    Except StartupError (Option (AdaptiveRuntime σ)) :=
  match config.artifactPath with
  | none => .ok none
  | some path => do
    let predictor ← SklearnQualityPredictor.fromTrustedArtifact process.libraries (process.directory path)
    let runtime := process.runtime predictor config.candidateModelIds
    let candidates ← ((runtime.service inference).resolveCandidates
      (config.candidateModelIds.map (·.value))).mapError .raised
    if ∃ candidate ∈ candidates, candidate.modelId ∉ predictor.metadata.knownCandidateIds then
      .error (.raised (.raised .predictorInputCompatibilityError
        "configured candidate is not supported by the predictor artifact"))
    else return some runtime

/-- `build_chat_orchestration_service`. -/
def buildChatOrchestrationService (inference : InferenceService σ) (defaultModelId : Identifier)
    (adaptiveRuntime : Option (AdaptiveRuntime σ)) : Except Exc (ChatOrchestrationService σ) :=
  match inference.registry.get defaultModelId.value with
  | .error _ => .error (.raised .valueError "configured default model is not registered")
  | .ok model =>
    if ¬ model.enabled then .error (.raised .valueError "configured default model is disabled")
    else .ok {
      inferenceService := inference
      recordChatActivity := process.recordChatActivity
      defaultModelId := model.modelId
      adaptiveRuntime }

/-- The lifespan of the application up to its first request. -/
def start : Except StartupError (GatewayApp σ) := do
  let registry ← (gatewayRegistry process.apiKey).mapError .raised
  let inference := process.inferenceService registry
  let config ← (AdaptiveRoutingConfig.fromEnvironment process.environ).mapError .raised
  let runtime ← process.buildAdaptiveRuntime inference config
  let defaultModelId ← (chatConfigurationFromEnvironment process.environ).mapError .raised
  let chat ← (process.buildChatOrchestrationService inference defaultModelId runtime).mapError .raised
  return {
    inferenceService := inference
    adaptiveRuntime := runtime
    chatService := some chat
    rateLimiter := process.rateLimiter
    requestLimits := process.requestLimits }

end Process

end RouteLLM
