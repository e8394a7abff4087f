import RouteLLM.Api.Startup
import RouteLLM.Lib.Words

/-!
# Started processes

When a process starts (`start_iff`), and what it then is: an application that is configured, so that every request
to it is answered as documented (`started_served`).
-/

namespace RouteLLM

namespace Process

variable {σ : Type}

/-! ## What a start has composed -/

variable {process : Process σ} {app : GatewayApp σ}

/-- A runtime of the process: over a predictor of the artifact, with candidates that the artifact knows. -/
structure RuntimeOf (process : Process σ) (runtime : AdaptiveRuntime σ) (predictor : SklearnQualityPredictor)
    (ids : List Identifier) : Prop where
  eq : runtime = process.runtime predictor ids
  nodup : ids.Nodup
  known : ∀ id ∈ ids, id ∈ predictor.metadata.knownCandidateIds
  pipeline : ∃ bytes, process.libraries.unpickle bytes = .pipeline predictor.pipeline

/-- What a start has composed: one service with the whole portfolio, and one runtime for both endpoints. -/
structure Started (process : Process σ) (app : GatewayApp σ) : Prop where
  models : app.inferenceService.registry.models = portfolio process.apiKey
  runtime : ∀ runtime ∈ app.adaptiveRuntime, ∃ predictor ids, process.RuntimeOf runtime predictor ids
  chat : ∀ chat ∈ app.chatService, chat.inferenceService = app.inferenceService ∧
    chat.adaptiveRuntime = app.adaptiveRuntime
  requestLimits : app.requestLimits = process.requestLimits

theorem runtimeOf_of_build {inference : InferenceService σ} {config : AdaptiveRoutingConfig}
    {built : Option (AdaptiveRuntime σ)} (h : process.buildAdaptiveRuntime inference config = .ok built) :
    ∀ runtime ∈ built, ∃ predictor ids, process.RuntimeOf runtime predictor ids := by
  unfold buildAdaptiveRuntime at h
  split at h
  · cases h
    exact fun _ h => nomatch h
  obtain ⟨predictor, hpredictor, h⟩ := Except.bind_eq_ok.mp h
  obtain ⟨hload, -⟩ := SklearnQualityPredictor.fromTrustedArtifact_eq_ok.mp hpredictor
  obtain ⟨candidates, hcandidates, h⟩ := Except.bind_eq_ok.mp h
  obtain ⟨hsupported, h⟩ := Except.guard_eq_ok.mp h
  cases h
  rintro _ ⟨⟩
  refine ⟨predictor, config.candidateModelIds, rfl, config.candidates_nodup, fun id hid => ?_,
    ArtifactLibraries.unpickled_of_load hload⟩
  obtain ⟨hids, -⟩ := AdaptiveRuntime.resolveCandidates_eq_ok (Except.mapError_eq_ok.mp hcandidates)
  rw [← hids] at hid
  obtain ⟨model, hmodel, rfl⟩ := List.mem_map.mp hid
  by_contra hunknown
  exact hsupported ⟨model, hmodel, hunknown⟩

theorem started_of_start (h : process.start = .ok app) : process.Started app := by
  obtain ⟨registry, hregistry, h⟩ := Except.bind_eq_ok.mp h
  obtain ⟨config, -, h⟩ := Except.bind_eq_ok.mp h
  obtain ⟨runtime, hruntime, h⟩ := Except.bind_eq_ok.mp h
  obtain ⟨defaultModelId, -, h⟩ := Except.bind_eq_ok.mp h
  obtain ⟨chat, hchat, h⟩ := Except.bind_eq_ok.mp h
  cases h
  refine ⟨?_, runtimeOf_of_build hruntime, ?_, rfl⟩
  · obtain ⟨found, hfound, hmodels⟩ := gatewayRegistry_eq_ok process.apiKey
    rw [Except.mapError_eq_ok, hfound] at hregistry
    cases hregistry
    exact hmodels
  · rintro _ ⟨⟩
    have hchat := Except.mapError_eq_ok.mp hchat
    unfold buildChatOrchestrationService at hchat
    split at hchat
    · cases hchat
    · obtain ⟨-, hchat⟩ := Except.guard_eq_ok.mp hchat
      cases hchat
      exact ⟨rfl, rfl⟩

/-! ## When a process starts -/

/-- The candidates are resolved exactly where each is registered. -/
theorem exists_resolveCandidates_iff {registry : ModelRegistry} (hmodels : registry.models = portfolio process.apiKey)
    (predictor : SklearnQualityPredictor) (ids : List Identifier) {texts : List String} :
    (∃ models, ((process.runtime predictor ids).service
        (process.inferenceService registry)).resolveCandidates texts = .ok models) ↔
      ∀ text ∈ texts, ∃ model ∈ portfolio process.apiKey, model.modelId.value = text := by
  constructor
  · rintro ⟨models, hresolved⟩ text htext
    obtain ⟨model, -, hstep⟩ := (List.mapM_eq_ok.mp hresolved).exists_of_mem htext
    obtain ⟨found, hget, -⟩ := Except.bind_eq_ok.mp hstep
    obtain ⟨hmem, hid⟩ := ModelRegistry.get_eq_ok hget
    exact ⟨found, hmodels ▸ hmem, hid⟩
  · intro hregistered
    refine List.exists_mapM_eq_ok fun text htext => ?_
    obtain ⟨model, hmodel, rfl⟩ := hregistered text htext
    have hget : registry.get model.modelId.value = .ok model := ModelRegistry.get_of_mem (hmodels ▸ hmodel)
    have hsupports : (process.inferenceService registry).resolver.supports model.provider = true := by
      rcases provider_of_mem hmodel with hfake | ⟨hkey, hvercel⟩
      · rw [hfake, ProviderResolver.supports, inferenceService, List.lookup_cons_self]
        rfl
      · obtain ⟨key, hkey⟩ := Option.isSome_iff_exists.mp hkey
        rw [hvercel, ProviderResolver.supports, inferenceService, hkey]
        rfl
    refine ⟨model, Except.bind_eq_ok.mpr ⟨model, hget, Except.guard_eq_ok.mpr ⟨?_, ?_⟩⟩⟩
    · exact not_not.mpr (routable_of_mem hmodel).enabled
    · exact Except.guard_eq_ok.mpr ⟨not_not.mpr hsupports, rfl⟩

/-- The default model is accepted exactly where it is registered. -/
theorem exists_chat_iff {registry : ModelRegistry} (hmodels : registry.models = portfolio process.apiKey)
    (runtime : Option (AdaptiveRuntime σ)) :
    (∃ id chat, chatConfigurationFromEnvironment process.environ = .ok id ∧
        process.buildChatOrchestrationService (process.inferenceService registry) id runtime = .ok chat) ↔
      ∃ model ∈ portfolio process.apiKey,
        model.modelId.value = environmentText process.environ "ROUTELLM_DEFAULT_MODEL_ID" := by
  constructor
  · rintro ⟨id, chat, hid, hchat⟩
    obtain ⟨-, hid⟩ := Except.guard_eq_ok.mp hid
    rw [Identifier.validate_eq_ok, stripText_environmentText] at hid
    unfold buildChatOrchestrationService at hchat
    split at hchat
    · cases hchat
    · rename_i model hget
      obtain ⟨hmem, hvalue⟩ := ModelRegistry.get_eq_ok hget
      exact ⟨model, hmodels ▸ hmem, hvalue.trans hid⟩
  · rintro ⟨model, hmodel, hid⟩
    have hne : environmentText process.environ "ROUTELLM_DEFAULT_MODEL_ID" ≠ "" := by
      intro hempty
      exact absurd model.modelId.nonempty (by rw [hid, hempty]; decide)
    have hget : (process.inferenceService registry).registry.get model.modelId.value = .ok model :=
      ModelRegistry.get_of_mem (hmodels ▸ hmodel)
    refine ⟨model.modelId, ?_⟩
    rw [buildChatOrchestrationService, hget]
    dsimp only
    rw [if_neg (not_not.mpr (routable_of_mem hmodel).enabled)]
    refine ⟨_, Except.guard_eq_ok.mpr ⟨hne, Identifier.validate_eq_ok.mpr ?_⟩, rfl⟩
    rw [hid, stripText_environmentText]

/-- The runtime is built exactly where the artifact loads and the candidates are those of the protocol, which
needs the key. -/
theorem exists_runtime_iff {registry : ModelRegistry} (hmodels : registry.models = portfolio process.apiKey)
    {config : AdaptiveRoutingConfig} {path : String} (hpath : config.artifactPath = some path) :
    (∃ built, process.buildAdaptiveRuntime (process.inferenceService registry) config = .ok built) ↔
      process.apiKey.isSome ∧
        (∀ id ∈ config.candidateModelIds, id.value ∈ Predictor.foundationV3CandidateIds) ∧
          ∃ loaded, process.libraries.loadTrustedQualityArtifact (process.directory path) = .ok loaded := by
  have hids : config.candidateModelIds ≠ [] := by
    intro hnil
    rw [config.complete.mpr hnil] at hpath
    cases hpath
  constructor
  · rintro ⟨built, h⟩
    rw [buildAdaptiveRuntime, hpath] at h
    obtain ⟨predictor, hpredictor, h⟩ := Except.bind_eq_ok.mp h
    obtain ⟨candidates, hcandidates, h⟩ := Except.bind_eq_ok.mp h
    obtain ⟨hsupported, -⟩ := Except.guard_eq_ok.mp h
    have hresolved := Except.mapError_eq_ok.mp hcandidates
    obtain ⟨heq, -⟩ := AdaptiveRuntime.resolveCandidates_eq_ok hresolved
    obtain ⟨hknown, -⟩ := ArtifactMetadata.known_of_validate predictor.validated
    have hprotocol : ∀ id ∈ config.candidateModelIds, id.value ∈ Predictor.foundationV3CandidateIds := by
      intro id hid
      rw [← heq] at hid
      obtain ⟨model, hmodel, rfl⟩ := List.mem_map.mp hid
      rw [← hknown]
      exact List.mem_map_of_mem (by_contra fun hunknown => hsupported ⟨model, hmodel, hunknown⟩)
    obtain ⟨id, hid⟩ := List.exists_mem_of_ne_nil _ hids
    refine ⟨?_, hprotocol, _, (SklearnQualityPredictor.fromTrustedArtifact_eq_ok.mp hpredictor).1⟩
    exact (exists_candidate_iff (hprotocol id hid)).mp
      ((exists_resolveCandidates_iff hmodels _ _).mp ⟨_, hresolved⟩ _ (List.mem_map_of_mem hid))
  · rintro ⟨hkey, hprotocol, ⟨pipeline, metadata⟩, hload⟩
    have hvalid := ArtifactLibraries.validate_of_load hload
    let predictor : SklearnQualityPredictor := ⟨pipeline, metadata, process.libraries.versions, hvalid⟩
    have hpredictor : SklearnQualityPredictor.fromTrustedArtifact process.libraries (process.directory path) =
        .ok predictor := SklearnQualityPredictor.fromTrustedArtifact_eq_ok.mpr ⟨hload, rfl⟩
    have hregistered : ∀ text ∈ config.candidateModelIds.map (·.value),
        ∃ model ∈ portfolio process.apiKey, model.modelId.value = text := by
      intro text htext
      obtain ⟨id, hid, rfl⟩ := List.mem_map.mp htext
      exact (exists_candidate_iff (hprotocol id hid)).mpr hkey
    obtain ⟨candidates, hresolved⟩ :=
      (exists_resolveCandidates_iff hmodels predictor config.candidateModelIds).mpr hregistered
    obtain ⟨heq, -⟩ := AdaptiveRuntime.resolveCandidates_eq_ok hresolved
    obtain ⟨hknown, -⟩ := ArtifactMetadata.known_of_validate hvalid
    rw [buildAdaptiveRuntime, hpath]
    refine ⟨_, Except.bind_eq_ok.mpr ⟨predictor, hpredictor, Except.bind_eq_ok.mpr
      ⟨candidates, Except.mapError_eq_ok.mpr hresolved, Except.guard_eq_ok.mpr ⟨?_, rfl⟩⟩⟩⟩
    rintro ⟨model, hmodel, hunknown⟩
    have hid : model.modelId ∈ config.candidateModelIds := heq ▸ List.mem_map_of_mem hmodel
    obtain ⟨known, hmem, hsame⟩ := List.mem_map.mp (hknown ▸ hprotocol _ hid)
    exact hunknown (Identifier.ext hsame ▸ hmem)

/-- **A process starts exactly where** its default model is registered, and either no adaptive variable is set,
or the artifact loads and the candidates are distinct ones of the protocol under a key. -/
theorem start_iff : (∃ app, process.start = .ok app) ↔
    (∃ model ∈ portfolio process.apiKey,
      model.modelId.value = environmentText process.environ "ROUTELLM_DEFAULT_MODEL_ID") ∧
    (environmentText process.environ "ROUTELLM_ADAPTIVE_ARTIFACT_PATH" = "" ∧
        environmentText process.environ "ROUTELLM_ADAPTIVE_CANDIDATES" = "" ∨
      environmentText process.environ "ROUTELLM_ADAPTIVE_ARTIFACT_PATH" ≠ "" ∧
        process.apiKey.isSome ∧
        (AdaptiveRoutingConfig.candidateTexts
          (environmentText process.environ "ROUTELLM_ADAPTIVE_CANDIDATES")).Nodup ∧
        (∀ text ∈ AdaptiveRoutingConfig.candidateTexts
          (environmentText process.environ "ROUTELLM_ADAPTIVE_CANDIDATES"),
            text ∈ Predictor.foundationV3CandidateIds) ∧
        ∃ loaded, process.libraries.loadTrustedQualityArtifact
          (process.directory (environmentText process.environ "ROUTELLM_ADAPTIVE_ARTIFACT_PATH")) = .ok loaded) := by
  obtain ⟨registry, hregistry, hmodels⟩ := gatewayRegistry_eq_ok process.apiKey
  constructor
  · rintro ⟨app, h⟩
    obtain ⟨found, hfound, h⟩ := Except.bind_eq_ok.mp h
    rw [Except.mapError_eq_ok, hregistry] at hfound
    cases hfound
    obtain ⟨config, hconfig, h⟩ := Except.bind_eq_ok.mp h
    obtain ⟨runtime, hruntime, h⟩ := Except.bind_eq_ok.mp h
    obtain ⟨defaultModelId, hdefault, h⟩ := Except.bind_eq_ok.mp h
    obtain ⟨chat, hchat, -⟩ := Except.bind_eq_ok.mp h
    refine ⟨(exists_chat_iff hmodels _).mp
      ⟨_, _, Except.mapError_eq_ok.mp hdefault, Except.mapError_eq_ok.mp hchat⟩, ?_⟩
    rcases AdaptiveRoutingConfig.fromEnvironment_eq_ok.mp (Except.mapError_eq_ok.mp hconfig) with
      ⟨hartifact, hcandidates, -⟩ | ⟨hartifact, -, hpath, hids⟩
    · exact .inl ⟨hartifact, hcandidates⟩
    · obtain ⟨hkey, hprotocol, hload⟩ := (exists_runtime_iff hmodels hpath).mp ⟨_, hruntime⟩
      refine .inr ⟨hartifact, hkey, ?_, ?_, hload⟩
      · rw [← hids]
        exact config.candidates_nodup.map fun _ _ => Identifier.ext
      · rw [← hids]
        exact List.forall_mem_map.mpr hprotocol
  · rintro ⟨hdefault, hadaptive⟩
    obtain ⟨config, runtime, hconfig, hruntime⟩ : ∃ config runtime,
        AdaptiveRoutingConfig.fromEnvironment process.environ = .ok config ∧
          process.buildAdaptiveRuntime (process.inferenceService registry) config = .ok runtime := by
      rcases hadaptive with ⟨hartifact, hcandidates⟩ | ⟨hartifact, hkey, hnodup, hprotocol, hload⟩
      · refine ⟨⟨none, [], iff_of_true rfl rfl, .nil⟩, none, ?_, rfl⟩
        exact AdaptiveRoutingConfig.fromEnvironment_eq_ok.mpr (.inl ⟨hartifact, hcandidates, rfl⟩)
      · obtain ⟨config, hpath, hids⟩ :=
          AdaptiveRoutingConfig.exists_of_texts hnodup
            (fun text htext hempty => absurd (hempty ▸ hprotocol text htext) (by decide))
            (environmentText process.environ "ROUTELLM_ADAPTIVE_ARTIFACT_PATH")
        obtain ⟨runtime, hruntime⟩ := (exists_runtime_iff hmodels hpath).mpr
          ⟨hkey, fun id hid => hprotocol _ (hids ▸ List.mem_map_of_mem hid), hload⟩
        refine ⟨config, runtime, AdaptiveRoutingConfig.fromEnvironment_eq_ok.mpr
          (.inr ⟨hartifact, fun hempty => ?_, hpath, hids⟩), hruntime⟩
        rw [hempty] at hprotocol
        exact absurd (hprotocol "" (by decide)) (by decide)
    obtain ⟨defaultModelId, chat, hdefault, hchat⟩ := (exists_chat_iff hmodels runtime).mpr hdefault
    refine ⟨_, Except.bind_eq_ok.mpr ⟨registry, Except.mapError_eq_ok.mpr hregistry, Except.bind_eq_ok.mpr
      ⟨config, Except.mapError_eq_ok.mpr hconfig, Except.bind_eq_ok.mpr ⟨runtime, hruntime,
        Except.bind_eq_ok.mpr ⟨defaultModelId, Except.mapError_eq_ok.mpr hdefault, Except.bind_eq_ok.mpr
          ⟨chat, Except.mapError_eq_ok.mpr hchat, rfl⟩⟩⟩⟩⟩⟩

/-! ## A started application is configured -/

/-- Counts of the matches of an expression, of which at most one starts at each position of a text. -/
def CountsMatches (indicators : TextIndicators) : Prop :=
  ∀ text : String, indicators.constraintIndicatorCount text ≤ text.length + 1 ∧
    indicators.reasoningIndicatorCount text ≤ text.length + 1

/-- The features of a request within the limits have floats. -/
theorem countable_of_extract {indicators : TextIndicators} (hindicators : CountsMatches indicators)
    {limits : RequestLimitSettings} {request : InferenceRequest} (hlimits : limits.validateRequest request = .ok ())
    {hint : Option String} {structured : Bool} {features : RoutingRequestFeatures}
    (h : extract indicators request hint structured = .ok features) : features.Countable := by
  obtain ⟨hprompt, hlimits⟩ := Except.guard_eq_ok.mp hlimits
  obtain ⟨houtput, -⟩ := Except.guard_eq_ok.mp hlimits
  have hcharacters := limits.prompt_range
  have htokens := limits.output_range
  have htext : (requestText request).length ≤ limits.maxPromptCharacters + 1 := by
    rw [requestText]
    cases hsystem : request.systemPrompt with
    | none =>
      rw [hsystem] at hprompt
      dsimp only [Option.getD_none] at hprompt ⊢
      omega
    | some s =>
      rw [hsystem] at hprompt
      dsimp only [Option.getD_some] at hprompt ⊢
      rw [String.length_append, String.length_append]
      have hspace : " ".length = 1 := rfl
      omega
  have hwords : approximateInputTokens request ≤ (requestText request).length + 1 :=
    (PyStr.length_splitBy_le _).trans_eq (by rw [String.length_toList])
  obtain ⟨hconstraints, hreasoning⟩ := hindicators (requestText request)
  obtain ⟨category, -, h⟩ := Except.bind_eq_ok.mp h
  cases h
  constructor
  all_goals dsimp only; omega

/-- A runtime of the process is configured. -/
theorem RuntimeOf.configured {runtime : AdaptiveRuntime σ} {predictor : SklearnQualityPredictor}
    {ids : List Identifier} (h : process.RuntimeOf runtime predictor ids)
    (hpipelines : ∀ bytes pipeline, process.libraries.unpickle bytes = .pipeline pipeline →
      pipeline.Probabilistic)
    (hindicators : CountsMatches process.indicators) {inference : InferenceService σ}
    (hmodels : inference.registry.models = portfolio process.apiKey) (limits : RequestLimitSettings) :
    runtime.Configured inference fun request => limits.validateRequest request = .ok () := by
  obtain ⟨rfl, hnodup, hknown, bytes, hbytes⟩ := h
  refine ⟨hnodup, fun id _ model hget category => ?_, ?_⟩
  · have hmem := (ModelRegistry.get_eq_ok hget).1
    rw [hmodels] at hmem
    exact (routable_of_mem hmem).resolvable category
  · intro request hrequest category structured features hfeatures models hids hregistered
    have hcategory : features.category ≠ none := by
      obtain ⟨found, hfound, hmade⟩ := Except.bind_eq_ok.mp hfeatures
      rw [categoryOfHint_value] at hfound
      cases hfound
      cases hmade
      exact Option.some_ne_none category
    have hids : models.map (·.modelId) = ids := hids
    obtain ⟨predictions, hpredictions, hpredicted⟩ := SklearnQualityPredictor.predict_eq_ok
      (hpipelines bytes _ hbytes) hcategory (countable_of_extract hindicators hrequest hfeatures)
      (by rwa [hids])
      (fun model hmodel => hknown _ (hids ▸ List.mem_map_of_mem hmodel))
      fun model hmodel => (routable_of_mem (hmodels ▸ hregistered model hmodel)).toServable
    have hpredict : (process.runtime predictor ids).routing.predict features models = .ok predictions :=
      hpredictions
    rw [hpredict]
    refine ⟨answers_ok _, ?_⟩
    rintro _ ⟨⟩
    rw [hpredicted, hids]
    exact List.Perm.refl _

/-- **A started application is configured.** -/
theorem Started.configured (h : process.Started app)
    (hpipelines : ∀ bytes pipeline, process.libraries.unpickle bytes = .pipeline pipeline →
      pipeline.Probabilistic)
    (hindicators : CountsMatches process.indicators) : app.Configured where
  adaptive runtime hruntime := by
    obtain ⟨predictor, ids, hof⟩ := h.runtime runtime hruntime
    exact hof.configured hpipelines hindicators h.models app.requestLimits
  chat chat hchat runtime hruntime := by
    obtain ⟨hinference, hsame⟩ := h.chat chat hchat
    rw [hsame] at hruntime
    obtain ⟨predictor, ids, hof⟩ := h.runtime runtime hruntime
    rw [hinference]
    exact hof.configured hpipelines hindicators h.models app.requestLimits

/-- Metadata of the approved artifact. -/
def sampleMetadata : ProductionQualityPredictorArtifactMetadata where
  approvedQualityThreshold := Predictor.productionQualityThreshold
  artifactFormatVersion := Predictor.productionArtifactFormatVersion
  canonicalFeatureSchemaVersion := Predictor.canonicalQualityFeatureSchemaVersion
  deploymentApproval := ⟨"APPROVED_FROZEN_PRODUCTION_ROUTER", "12.1B", "approved"⟩
  knownCandidateIds := Predictor.foundationV3CandidateIds.filterMap fun id => (Identifier.validate id).toOption
  knownCategories := RoutingCategory.all
  modelFilename := Predictor.artifactModelFilename
  predictorFormulationId := Predictor.predictorFormulationId
  predictorFormulationVersion := Predictor.predictorFormulationVersion
  predictorSha256 := Predictor.productionPredictorSha256
  preprocessingId := Predictor.qualityPreprocessingId
  protocolSha256 := Predictor.productionProtocolSha256
  protocolVersion := Predictor.productionProtocolVersion
  runtimeCompatibility := ⟨"3.12", "1.7.0"⟩
  sourceValidationMetadata :=
    { artifactFormatVersion := "phase9-dev-candidate-v1"
      deploymentStatus := "DEV_VALIDATION_CANDIDATE_NOT_DEPLOYED"
      missingLabelRows := 3
      sourceRunId := Predictor.productionSourceRunId
      splitSha256 := Predictor.productionSplitSha256
      trainingDatasetSha256 := Predictor.productionTrainingDatasetSha256
      validTrainingRows := 557 }

/-- Libraries that find the approved artifact in every file, with a pipeline that is certain. -/
def sampleLibraries : ArtifactLibraries where
  versions := ⟨"1.7.0", "3.12.4"⟩
  decodeMetadata _ := some (.production sampleMetadata)
  sha256 _ := Predictor.productionPredictorSha256
  unpickle _ := .pipeline fun rows => .ok (rows.map fun _ => .finite Probability.one.float)

/-- The environment of a production process with two candidates. -/
def sampleEnviron (name : String) : Option String :=
  [("AI_GATEWAY_API_KEY", "key"), ("ROUTELLM_DEFAULT_MODEL_ID", "fake-small"),
    ("ROUTELLM_ADAPTIVE_ARTIFACT_PATH", "/artifact"),
    ("ROUTELLM_ADAPTIVE_CANDIDATES", "candidate-gpt-6-luna, candidate-gemini-3-flash")].lookup name

/-- A process in it. -/
def sampleProcess : Process ℚ where
  environ := sampleEnviron
  directory _ _ := .content []
  libraries := sampleLibraries
  indicators := .sample
  recursionLimit := 1000
  fakeProvider _ s := (.ok promptProvider, s)
  vercelProvider _ _ s := (.ok promptProvider, s)
  telemetry := none
  recordAdaptiveExecution := none
  recordChatActivity := none
  telemetryTimeout := 2
  inferenceDeadlineSeconds := 60
  deadline_pos := defaultDeadline_pos
  clock := (InferenceService.sample promptProvider).clock
  durationSeconds := (InferenceService.sample promptProvider).durationSeconds
  newUuid := (InferenceService.sample promptProvider).newUuid
  rateLimiter := .disabled
  requestLimits := GatewayApp.sampleApp.requestLimits

end Process

end RouteLLM
