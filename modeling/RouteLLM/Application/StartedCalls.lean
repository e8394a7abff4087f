import RouteLLM.Application.Chat
import RouteLLM.Lib.TracedLog
import RouteLLM.Lib.TracedState
import RouteLLM.RateLimitRetry

/-!
# The calls that a request starts

One request under one deadline: its admission by `RedisRateLimiter`, and then the call of the
inference service or of the adaptive runtime. In the watched environment every call to Redis, to a
provider and to the telemetry repository is logged at its start, with the time of the state in which
it starts and with its timeout. Nothing of the environment runs between the reading from which a
timeout is computed and the start of the call, so the reading is the instant of the start. Each call
is within the deadline (`StartedCall.Within`), along every path of the escalation loop, whatever the
environment answers.
-/

namespace RouteLLM

/-- Who is called under a timeout. -/
inductive Collaborator
  | redis | provider | telemetry
  deriving DecidableEq

/-- A call that was started. -/
structure StartedCall where
  collaborator : Collaborator
  instant : ℚ
  timeout : ℚ
  deriving DecidableEq

/-- The call was started before the deadline, with a positive timeout of at most the time that
remained, so that the deadline is not before its end. -/
structure StartedCall.Within (deadline : RequestDeadline) (call : StartedCall) : Prop where
  started_before : call.instant < deadline.expiresAt
  timeout_pos : 0 < call.timeout
  timeout_le : call.timeout ≤ deadline.remainingSeconds call.instant
  ends_by : call.instant + call.timeout ≤ deadline.expiresAt

namespace RequestDeadline

variable {deadline : RequestDeadline} {now : ℚ}

/-- The time that remains, where it is positive. -/
theorem remainingSeconds_of_pos (h : ¬ deadline.remainingSeconds now ≤ 0) :
    0 < deadline.remainingSeconds now ∧
      deadline.remainingSeconds now = deadline.expiresAt - now := by
  have hpos : 0 < deadline.remainingSeconds now := lt_of_not_ge h
  refine ⟨hpos, max_eq_right ?_⟩
  rcases lt_max_iff.mp hpos with hzero | hrest
  · exact absurd hzero (lt_irrefl 0)
  · exact hrest.le

/-- A call that starts now, with a positive timeout of at most the time that remains. -/
theorem within_of_le (h : ¬ deadline.remainingSeconds now ≤ 0) (collaborator : Collaborator)
    {timeout : ℚ} (hpos : 0 < timeout) (hle : timeout ≤ deadline.remainingSeconds now) :
    (StartedCall.mk collaborator now timeout).Within deadline := by
  obtain ⟨hremaining, heq⟩ := remainingSeconds_of_pos h
  rw [heq] at hremaining
  refine ⟨by linarith, hpos, hle, ?_⟩
  rw [heq] at hle
  show now + timeout ≤ deadline.expiresAt
  linarith

/-- A call that starts now, under the constrained timeout. -/
theorem within_of_constrainTimeout {maxTimeout timeout : ℚ} (hmax : 0 < maxTimeout)
    (h : deadline.constrainTimeout now maxTimeout = some timeout) (collaborator : Collaborator) :
    (StartedCall.mk collaborator now timeout).Within deadline := by
  rw [constrainTimeout] at h
  split at h
  · cases h
  · rename_i hremaining
    cases h
    exact within_of_le hremaining collaborator
      (lt_min (remainingSeconds_of_pos hremaining).1 hmax) (min_le_left _ _)

end RequestDeadline

/-! ## The admission -/

/-- The limiter and its environment: the clock of the deadline, and the evaluation of the script for
a client under a timeout. -/
structure RedisLimiter (σ : Type) where
  settings : RateLimitSettings
  clock : σ → ℚ × σ
  eval : String → InferenceKind → ℚ → σ → EvalOutcome × σ

namespace RedisLimiter

variable {σ : Type}

/-- `RedisRateLimiter.admit` in its environment. -/
def admitRequest (limiter : RedisLimiter σ) (client : String) (kind : InferenceKind)
    (deadline : RequestDeadline) : Traced AdmissionError σ RateLimitRejection Unit := do
  let now ← .query limiter.clock
  match deadline.constrainTimeout now limiter.settings.redisTimeoutSeconds with
  | none => .raise .inferenceDeadlineExceeded
  | some timeout => do
    let outcome ← .query (limiter.eval client kind timeout)
    .report (RedisRateLimiter.admitRequest limiter.settings kind deadline now fun _ => outcome)

/-- The endpoints `inference` and `adaptive_inference` under their deadline: a request is admitted,
and then executed. -/
def admitThen {τ α : Type} (limiter : RedisLimiter σ) (client : String) (kind : InferenceKind)
    (deadline : RequestDeadline) (execute : Traced Exc σ τ α) :
    Traced Exc σ τ (Except AdmissionError α) := do
  let admission ← .query (Traced.unheard (limiter.admitRequest client kind deadline))
  match admission with
  | .error e => return .error e
  | .ok () => do
    let result ← execute
    return .ok result

/-- The admission is that of the reading that is made and of the outcome at the time of the call. -/
theorem admitRequest_eq (limiter : RedisLimiter σ) (client : String) (kind : InferenceKind)
    (deadline : RequestDeadline) (s : σ) :
    ((limiter.admitRequest client kind deadline s).1,
        (limiter.admitRequest client kind deadline s).2.2) =
      RedisRateLimiter.admitRequest limiter.settings kind deadline (limiter.clock s).1
        fun timeout => (limiter.eval client kind timeout (limiter.clock s).2).1 := by
  simp only [admitRequest, RedisRateLimiter.admitRequest, Bind.bind, Traced.query]
  cases deadline.constrainTimeout (limiter.clock s).1 limiter.settings.redisTimeoutSeconds with
  | none => rfl
  | some timeout => rfl

end RedisLimiter

/-! ## The watched environment -/

variable {σ : Type}

/-- The state with the calls that were started. -/
abbrev Watched (σ : Type) := σ × List StartedCall

/-- A part of the environment whose calls are logged as they start. -/
def watched {α : Type} (time : σ → ℚ) (collaborator : Collaborator) (timeout : ℚ) (g : σ → α × σ) :
    Watched σ → α × Watched σ :=
  fun s => ((g s.1).1, (g s.1).2, s.2 ++ [⟨collaborator, time s.1, timeout⟩])

/-- An adapter whose calls are logged. -/
def Provider.watched (time : σ → ℚ) (provider : Provider σ) : Provider (Watched σ) :=
  fun request timeout => RouteLLM.watched time .provider timeout (provider request timeout)

/-- A factory of watched adapters. -/
def watchedFactory (time : σ → ℚ) (factory : ModelConfig → σ → Except Exc (Provider σ) × σ) :
    ModelConfig → Watched σ → Except Exc (Provider (Watched σ)) × Watched σ :=
  fun model s => ((factory model s.1).1.map (Provider.watched time), (factory model s.1).2, s.2)

namespace RedisLimiter

/-- The limiter in the watched environment. -/
def watched (limiter : RedisLimiter σ) (time : σ → ℚ) : RedisLimiter (Watched σ) where
  settings := limiter.settings
  clock := Traced.unlogged limiter.clock
  eval client kind timeout := RouteLLM.watched time .redis timeout (limiter.eval client kind timeout)

end RedisLimiter

namespace InferenceService

/-- The service in the watched environment. -/
def watched (service : InferenceService σ) (time : σ → ℚ) : InferenceService (Watched σ) where
  registry := service.registry
  resolver := ⟨service.resolver.factories.map fun entry => (entry.1, watchedFactory time entry.2)⟩
  telemetry := service.telemetry.map fun write event timeout =>
    RouteLLM.watched time .telemetry timeout (write event timeout)
  telemetryTimeout := service.telemetryTimeout
  inferenceDeadlineSeconds := service.inferenceDeadlineSeconds
  clock := Traced.unlogged service.clock
  durationSeconds := Traced.unlogged service.durationSeconds
  newUuid := Traced.unlogged service.newUuid
  deadline_pos := service.deadline_pos

end InferenceService

/-- The runtime in the watched environment. -/
def AdaptiveRuntime.watched (runtime : AdaptiveRuntime σ) (time : σ → ℚ) :
    AdaptiveRuntime (Watched σ) where
  routing := runtime.routing
  unfiltered := runtime.unfiltered
  recursionLimit := runtime.recursionLimit
  recordAdaptiveExecution := runtime.recordAdaptiveExecution.map fun write event timeout =>
    RouteLLM.watched time .telemetry timeout (write event timeout)
  maxValidationAttempts := runtime.maxValidationAttempts
  attempts_range := runtime.attempts_range
  candidateModelIds := runtime.candidateModelIds
  approvedQualityThreshold := runtime.approvedQualityThreshold

/-- A clock reads the time of the state in which it leaves the environment. -/
def Reads (time : σ → ℚ) (clock : σ → ℚ × σ) : Prop := ∀ s, (clock s).1 = time (clock s).2

/-- Every call that was started is within the deadline. -/
def AllWithin (deadline : RequestDeadline) (s : Watched σ) : Prop :=
  ∀ call ∈ s.2, call.Within deadline

section
variable {time : σ → ℚ} {deadline : RequestDeadline}

/-- A call that starts within the deadline. -/
theorem AllWithin.watched {α : Type} {collaborator : Collaborator} {timeout : ℚ} {g : σ → α × σ}
    {s : Watched σ} (h : AllWithin deadline s)
    (hcall : (StartedCall.mk collaborator (time s.1) timeout).Within deadline) :
    AllWithin deadline (RouteLLM.watched time collaborator timeout g s).2 := by
  intro call hmem
  rcases List.mem_append.mp hmem with hmem | hmem
  · exact h call hmem
  · rw [List.mem_singleton.mp hmem]
    exact hcall

/-- After a reading of the clock the time is the reading. -/
theorem read_bind {ε τ α : Type} {clock : σ → ℚ × σ} (hclock : Reads time clock)
    {f : ℚ → Traced ε (Watched σ) τ α} {Q : Except ε α → Watched σ → Prop}
    (h : ∀ now, (f now).Triple (fun s => AllWithin deadline s ∧ time s.1 = now) Q) :
    (Traced.query (Traced.unlogged clock) >>= f).Triple (AllWithin deadline) Q := by
  refine Traced.triple_query_bind (fun s hs => ?_) h
  exact ⟨hs, (hclock s.1).symm⟩

end

namespace RedisLimiter

variable {limiter : RedisLimiter σ} {time : σ → ℚ}

/-- The admission starts its call within the deadline. -/
theorem admitRequest_keeps (hclock : Reads time limiter.clock) (client : String)
    (kind : InferenceKind) (deadline : RequestDeadline) :
    ((limiter.watched time).admitRequest client kind deadline).Keeps (AllWithin deadline) := by
  refine read_bind hclock fun now => ?_
  split
  · exact (Traced.keeps_raise _).after fun _ h => h.1
  · rename_i timeout htimeout
    refine Traced.triple_query_bind (R := fun _ => AllWithin deadline) ?_ fun outcome => ?_
    · rintro s ⟨hs, rfl⟩
      exact hs.watched (RequestDeadline.within_of_constrainTimeout
        limiter.settings.timeout_range.1 htimeout _)
    · exact Traced.keeps_report _

/-- A request starts its calls within the deadline if its execution does. -/
theorem admitThen_keeps (hclock : Reads time limiter.clock) (client : String)
    (kind : InferenceKind) (deadline : RequestDeadline) {τ α : Type}
    {execute : Traced Exc (Watched σ) τ α} (h : execute.Keeps (AllWithin deadline)) :
    ((limiter.watched time).admitThen client kind deadline execute).Keeps (AllWithin deadline) := by
  refine (Traced.keeps_unheard (admitRequest_keeps hclock client kind deadline)).bind
    fun admission => ?_
  cases admission with
  | error e => exact Traced.keeps_pure _
  | ok _ => exact h.bind fun result => Traced.keeps_pure _

end RedisLimiter

namespace InferenceService

variable {service : InferenceService σ} {time : σ → ℚ} {deadline : RequestDeadline}

/-- A write of the telemetry starts within the deadline. -/
theorem record_keeps (hclock : Reads time service.clock) (htimeout : 0 < service.telemetryTimeout)
    (event : TelemetryEvent) :
    ((service.watched time).record event deadline).Keeps (AllWithin deadline) := by
  refine (Traced.keeps_tell _).bind fun _ => ?_
  rw [watched]
  cases service.telemetry with
  | none => exact Traced.keeps_tell _
  | some write =>
    refine read_bind hclock fun now => ?_
    split
    · exact (Traced.keeps_tell _).after fun _ h => h.1
    · rename_i timeout hconstrained
      refine Traced.triple_query_bind (R := fun _ => AllWithin deadline) ?_ fun outcome => ?_
      · rintro s ⟨hs, rfl⟩
        exact hs.watched (RequestDeadline.within_of_constrainTimeout htimeout hconstrained _)
      · split
        · exact Traced.keeps_tell _
        · split
          · exact Traced.keeps_tell _
          · exact Traced.keeps_raise _

/-- A watched adapter is called within the deadline. -/
theorem callProvider_keeps (hclock : Reads time service.clock) (provider : Provider σ)
    (model : ModelConfig) (request : InferenceRequest) :
    ((service.watched time).callProvider (provider.watched time) model request deadline).Keeps
      (AllWithin deadline) := by
  refine read_bind hclock fun now => ?_
  split
  · exact (Traced.keeps_raise _).after fun _ h => h.1
  · rename_i hremaining
    refine Traced.triple_query_bind (R := fun _ => AllWithin deadline) ?_ fun answer => ?_
    · rintro s ⟨hs, rfl⟩
      exact hs.watched (RequestDeadline.within_of_le hremaining _
        (RequestDeadline.remainingSeconds_of_pos hremaining).1 le_rfl)
    · split
      · exact Traced.keeps_ofExcept _
      · split
        · refine (Traced.keeps_query fun _ h => h).bind fun later => ?_
          split
          · exact Traced.keeps_raise _
          · exact Traced.keeps_raise _
        · exact Traced.keeps_raise _

/-- A resolved adapter is watched, and resolving starts no call. -/
theorem resolve_watched (model : ModelConfig) (s : Watched σ) (h : AllWithin deadline s) :
    AllWithin deadline ((service.watched time).resolver.resolve model s).2 ∧
      ∀ provider, ((service.watched time).resolver.resolve model s).1 = .ok provider →
        ∃ own : Provider σ, provider = own.watched time := by
  have hlookup : (service.watched time).resolver.factories.lookup model.provider =
      (service.resolver.factories.lookup model.provider).map (watchedFactory time) :=
    AssocList.lookup_map_snd (watchedFactory time) _ _
  rw [ProviderResolver.resolve, hlookup]
  cases service.resolver.factories.lookup model.provider with
  | none => exact ⟨h, fun _ hprovider => nomatch hprovider⟩
  | some factory =>
    refine ⟨h, fun provider hprovider => ?_⟩
    dsimp only [Option.map_some, watchedFactory] at hprovider
    cases hfactory : (factory model s.1).1 with
    | error e =>
      rw [hfactory] at hprovider
      cases hprovider
    | ok own =>
      rw [hfactory] at hprovider
      cases hprovider
      exact ⟨own, rfl⟩

/-- `_generate` calls an adapter within the deadline. -/
theorem generateModel_keeps (hclock : Reads time service.clock) (model : ModelConfig)
    (request : InferenceRequest) (requestId : String) (requestMode : RequestMode) :
    ((service.watched time).generateModel model request deadline requestId requestMode).Keeps
      (AllWithin deadline) := by
  rw [generateModel]
  split
  · exact Traced.keeps_raise _
  refine Traced.triple_query_bind (R := fun resolved s => AllWithin deadline s ∧
    ∀ provider, resolved = .ok provider → ∃ own : Provider σ, provider = own.watched time)
    (resolve_watched model) fun resolved => ?_
  refine Traced.Triple.bind (R := fun _ s => AllWithin deadline s ∧
    ∀ provider, resolved = .ok provider → ∃ own : Provider σ, provider = own.watched time)
    (fun _ hs => hs) (fun _ => ?_) (fun _ _ hs => hs.1)
  cases resolved with
  | error e =>
    refine Traced.Keeps.after ?_ fun _ hs => hs.1
    dsimp only
    split_ifs
    · exact Traced.keeps_raise _
    · exact Traced.keeps_raise _
    · exact Traced.keeps_raise _
  | ok provider =>
    rintro s ⟨hs, hprovider⟩
    obtain ⟨own, rfl⟩ := hprovider provider rfl
    revert s
    refine Traced.Keeps.bind (callProvider_keeps hclock own model request).attempt fun outcome => ?_
    refine (Traced.keeps_query fun _ h => h).bind fun duration => ?_
    cases outcome with
    | ok response => exact (Traced.keeps_tell _).bind fun _ => Traced.keeps_pure _
    | error e =>
      dsimp only
      split
      · exact (Traced.keeps_tell _).bind fun _ => Traced.keeps_raise _
      split
      · exact (Traced.keeps_tell _).bind fun _ => Traced.keeps_raise _
      split
      · exact (Traced.keeps_tell _).bind fun _ => Traced.keeps_raise _
      · exact Traced.keeps_raise _

theorem correlationId_keeps (requestId : Option String) :
    ((service.watched time).correlationId requestId).Keeps (AllWithin deadline) := by
  cases requestId with
  | some id => exact Traced.keeps_pure id
  | none => exact (Traced.keeps_query fun _ h => h).bind fun fresh => Traced.keeps_pure _

/-- **A call of the inference service starts its calls within the deadline.** -/
theorem generate_keeps (hclock : Reads time service.clock) (htimeout : 0 < service.telemetryTimeout)
    (modelId : String) (request : InferenceRequest) (requestId : Option String)
    (requestMode : RequestMode) :
    ((service.watched time).generate modelId request requestId (some deadline) requestMode).Keeps
      (AllWithin deadline) := by
  refine Traced.keeps_pure_bind ?_
  refine (Traced.keeps_query fun _ h => h).bind fun now => ?_
  refine (Traced.keeps_tell _).bind fun _ => ?_
  split
  · exact Traced.keeps_raise _
  refine (Traced.keeps_ofExcept _).bind fun model => ?_
  refine (correlationId_keeps requestId).bind fun correlationId => ?_
  refine (generateModel_keeps hclock model request correlationId requestMode).attempt.bind
    fun outcome => ?_
  cases outcome with
  | ok result => exact (record_keeps hclock htimeout _).bind fun _ => Traced.keeps_pure _
  | error e =>
    dsimp only
    split
    · refine (Traced.keeps_query fun _ h => h).bind fun duration => ?_
      exact (record_keeps hclock htimeout _).bind fun _ => Traced.keeps_raise _
    · exact Traced.keeps_raise _

end InferenceService

namespace AdaptiveRuntime

open AdaptiveInferenceService

variable {runtime : AdaptiveRuntime σ} {inference : InferenceService σ} {time : σ → ℚ}
  {deadline : RequestDeadline}

/-- The adaptive service of the watched runtime. -/
abbrev watchedService (runtime : AdaptiveRuntime σ) (inference : InferenceService σ) (time : σ → ℚ) :
    AdaptiveInferenceService (Watched σ) :=
  (runtime.watched time).service (inference.watched time)

theorem checkDeadline_keeps :
    ((runtime.watchedService inference time).checkDeadline deadline).Keeps (AllWithin deadline) := by
  refine (Traced.keeps_query fun _ h => h).bind fun now => ?_
  refine (Traced.keeps_tell _).bind fun _ => ?_
  split
  · exact Traced.keeps_raise _
  · exact Traced.keeps_pure _

theorem correlationId_keeps (requestId : Option String) :
    ((runtime.watchedService inference time).correlationId requestId).Keeps (AllWithin deadline) := by
  rw [AdaptiveInferenceService.correlationId]
  split
  · exact Traced.keeps_pure _
  · exact (Traced.keeps_query fun _ h => h).bind fun fresh => Traced.keeps_pure _

section
variable (hclock : Reads time inference.clock) (htimeout : 0 < inference.telemetryTimeout)
include hclock htimeout

/-- A write of the summary starts within the deadline. -/
theorem recordExecution_keeps (event : AdaptiveExecutionTelemetry) :
    ((runtime.watchedService inference time).recordExecution event deadline).Keeps
      (AllWithin deadline) := by
  refine (Traced.keeps_tell _).bind fun _ => ?_
  rw [watchedService, service, watched]
  cases runtime.recordAdaptiveExecution with
  | none => exact Traced.keeps_tell _
  | some write =>
    refine read_bind hclock fun now => ?_
    split
    · exact (Traced.keeps_tell _).after fun _ h => h.1
    · rename_i timeout hconstrained
      refine Traced.triple_query_bind (R := fun _ => AllWithin deadline) ?_ fun outcome => ?_
      · rintro s ⟨hs, rfl⟩
        exact hs.watched (RequestDeadline.within_of_constrainTimeout htimeout hconstrained _)
      · split
        · exact Traced.keeps_tell _
        · split
          · exact Traced.keeps_tell _
          · exact Traced.keeps_raise _

/-- An exit of an iteration writes a summary and reports. -/
theorem exit_keeps {α : Type} (created : Except Exc AdaptiveExecutionTelemetry) (calls : List Call)
    {last : AdaptiveInferenceService.Act (Watched σ) α} (hlast : last.Keeps (AllWithin deadline)) :
    (do
      let event ← .ofExcept created
      (runtime.watchedService inference time).recordExecution event deadline
      .tell calls
      last : AdaptiveInferenceService.Act (Watched σ) α).Keeps (AllWithin deadline) := by
  refine (Traced.keeps_ofExcept _).bind fun event => ?_
  refine (recordExecution_keeps hclock htimeout event).bind fun _ => ?_
  exact (Traced.keeps_tell _).bind fun _ => hlast

/-- An iteration starts its calls within the deadline. -/
theorem attemptStep_keeps (run : ValidatedRun) (attempts : List AdaptiveAttempt)
    (attemptNumber : ℕ) (modelId : Identifier) :
    ((runtime.watchedService inference time).attemptStep run attempts attemptNumber modelId).Keeps
      (AllWithin run.deadline) := by
  refine checkDeadline_keeps.bind fun _ => ?_
  refine (Traced.keeps_unheard (inference.generate_keeps hclock htimeout modelId.value run.request
    (some run.correlationId) .adaptive)).bind fun outcome => ?_
  refine (Traced.keeps_tell _).bind fun _ => ?_
  split
  · rename_i e _
    rw [providerFailed]
    split
    · exact Traced.keeps_raise _
    · exact exit_keeps hclock htimeout _ _ (Traced.keeps_raise _)
  · refine checkDeadline_keeps.bind fun _ => ?_
    refine (Traced.keeps_query fun _ h => h).bind fun validated => ?_
    refine (Traced.keeps_tell _).bind fun _ => ?_
    refine (Traced.keeps_ofExcept _).bind fun result => ?_
    refine checkDeadline_keeps.bind fun _ => ?_
    refine (Traced.keeps_tell _).bind fun _ => ?_
    dsimp only
    split
    · exact (exit_keeps hclock htimeout _ _ (Traced.keeps_pure _)).bind fun _ => Traced.keeps_pure _
    · split
      · exact exit_keeps hclock htimeout _ _ (Traced.keeps_raise _)
      · exact Traced.keeps_pure _

/-- The loop starts its calls within the deadline, by recursion on the ids that are left. -/
theorem attemptLoop_keeps (run : ValidatedRun) (attempts : List AdaptiveAttempt)
    (attemptNumber : ℕ) (ids : List Identifier) :
    ((runtime.watchedService inference time).attemptLoop run attempts attemptNumber ids).Keeps
      (AllWithin run.deadline) := by
  induction ids generalizing attempts attemptNumber with
  | nil => exact Traced.keeps_raise _
  | cons modelId rest ih =>
    refine (attemptStep_keeps hclock htimeout run attempts attemptNumber modelId).bind fun step => ?_
    cases step with
    | inr answer => exact Traced.keeps_pure _
    | inl attempt => exact ih (attempts ++ [attempt]) (attemptNumber + 1)

/-- The single attempt of a request without a contract starts its calls within the deadline. -/
theorem generateUnvalidated_keeps (request : InferenceRequest) (decision : RoutingDecision)
    (requestId : Option String) :
    ((runtime.watchedService inference time).generateUnvalidated request decision requestId
      deadline).Keeps (AllWithin deadline) := by
  refine (Traced.keeps_tell _).bind fun _ => ?_
  refine (correlationId_keeps requestId).bind fun correlationId => ?_
  refine (Traced.keeps_unheard (inference.generate_keeps hclock htimeout _ request _ _)).bind
    fun outcome => ?_
  refine (Traced.keeps_tell _).bind fun _ => ?_
  cases outcome with
  | ok response => exact (Traced.keeps_tell _).bind fun _ => Traced.keeps_pure _
  | error e =>
    dsimp only
    split
    · exact (Traced.keeps_tell _).bind fun _ => Traced.keeps_raise _
    · exact Traced.keeps_raise _

/-- **A run of the adaptive runtime starts its calls within the deadline.** -/
theorem generate_keeps (request : InferenceRequest) (category : Option String)
    (qualityThreshold : ThresholdValue) (candidateModelIds : List String)
    (validation : Option ValidationContract) (structuredOutputRequired : Bool)
    (requestId : Option String) :
    ((runtime.watchedService inference time).generate request category qualityThreshold
      candidateModelIds validation structuredOutputRequired requestId (some deadline)).Keeps
        (AllWithin deadline) := by
  refine Traced.keeps_pure_bind ?_
  refine checkDeadline_keeps.bind fun _ => ?_
  refine (Traced.keeps_ofExcept _).bind fun candidates => ?_
  refine (Traced.keeps_ofExcept _).bind fun routing => ?_
  cases validation with
  | none => exact generateUnvalidated_keeps hclock htimeout request _ requestId
  | some validation =>
    refine (Traced.keeps_tell _).bind fun _ => ?_
    refine (correlationId_keeps requestId).bind fun correlationId => ?_
    exact attemptLoop_keeps hclock htimeout
      ⟨request, validation, routing.decision, correlationId, deadline, candidateIds routing _⟩ [] 1 _

end

end AdaptiveRuntime

/-! ## One request -/

/-- The calls that a program of the watched environment starts. -/
def startedCalls {ε τ α : Type} (x : Traced ε (Watched σ) τ α) (s : σ) : List StartedCall :=
  (x (s, [])).2.1.2

/-- A limiter that admits every request; the state is the clock. -/
def sampleLimiter : RedisLimiter ℚ where
  settings := RedisRateLimiter.defaultSettings
  clock now := (now, now)
  eval _ _ _ now := (.reply [1, 0, 0], now + 1 / 8)

/-- A service whose one model answers after a second, and whose telemetry is written at once. -/
def sampleTelemetryService : InferenceService ℚ :=
  { InferenceService.sample fun _ _ now => (.ok (some .sample), now + 1) with
    telemetry := some fun _ _ now => (.ok (), now) }

end RouteLLM
