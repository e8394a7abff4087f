import Mathlib.Data.List.Flatten
import Mathlib.Data.List.ProdSigma
import RouteLLM.Benchmarks.Runner

/-!
# Which call failures a run survives

A run records a result after every call whose failure the handler catches, and goes on. The inference
service raises five classes of errors (`InferenceService.generate_holds`) and the handler catches four
of them: a call that exceeds the inference deadline aborts the run and loses the remaining pairs.
`run_survives_iff` says that, with a storage that works and cancellations apart, this is the only way
to lose them.
-/

namespace RouteLLM

/-! ## What the calls of a run say -/

namespace RunnerCall

def pairCall? : RunnerCall → Option PairCall
  | generate call => some call
  | _ => none

/-- The result that a call has stored. -/
def recorded? : RunnerCall → Option BenchmarkResult
  | record result (.ok ()) => some result
  | _ => none

/-- The status that a call has stored. -/
def finished? : RunnerCall → Option (Uuid × RunStatus)
  | finish runId status (.ok ()) => some (runId, status)
  | _ => none

/-- The exception of a call to the repository. -/
def storageError? : RunnerCall → Option Exc
  | start _ (.error e) | record _ (.error e) | finish _ _ (.error e) => some e
  | _ => none

end RunnerCall

/-- The calls of the inference service, in order. -/
def pairCalls (calls : List RunnerCall) : List PairCall := calls.filterMap RunnerCall.pairCall?

/-- The stored results, in order. -/
def recordedResults (calls : List RunnerCall) : List BenchmarkResult :=
  calls.filterMap RunnerCall.recorded?

/-- The stored final states, in order. -/
def finalStates (calls : List RunnerCall) : List (Uuid × RunStatus) :=
  calls.filterMap RunnerCall.finished?

/-- No operation of the repository raised. -/
def StorageSucceeded (calls : List RunnerCall) : Prop := ∀ c ∈ calls, c.storageError? = none

/-- What a call raised, if it did, is an `Exception`: no call was cancelled. -/
def Uncancelled (calls : List RunnerCall) : Prop :=
  ∀ call ∈ pairCalls calls, ∀ e, call.outcome = .error e → e.isInstance .exception = true

/-- No call raised an `InferenceDeadlineExceededError`. -/
def DeadlinesKept (calls : List RunnerCall) : Prop :=
  ∀ call ∈ pairCalls calls, ∀ e, call.outcome = .error e →
    e.isInstance .inferenceDeadlineExceededError = false

instance (calls : List RunnerCall) : Decidable (StorageSucceeded calls) :=
  inferInstanceAs (Decidable (∀ c ∈ calls, c.storageError? = none))

instance (calls : List RunnerCall) : Decidable (Uncancelled calls) :=
  inferInstanceAs (Decidable (∀ call ∈ pairCalls calls, ∀ e, call.outcome = .error e →
    e.isInstance .exception = true))

instance (calls : List RunnerCall) : Decidable (DeadlinesKept calls) :=
  inferInstanceAs (Decidable (∀ call ∈ pairCalls calls, ∀ e, call.outcome = .error e →
    e.isInstance .inferenceDeadlineExceededError = false))

/-- A failed call: it raised, or its response exhausted the output budget. -/
def PairCall.failed (call : PairCall) : Bool :=
  match call.outcome with
  | .ok response => responseOutputBudgetExhaustion response call.request.maxOutputTokens
  | .error _ => true

/-- A result of a call: it is one of its pair, and it has no success and an error category exactly if
the call failed. -/
structure Reports (call : PairCall) (result : BenchmarkResult) : Prop where
  taskId : result.taskId = call.task.taskId
  modelId : result.modelId = call.model.modelId
  success : result.success = !call.failed
  errorCategory : result.errorCategory.isSome = call.failed

/-- The ids of a pair. -/
def pairIds (pair : BenchmarkTask × ModelConfig) : TaskId × Identifier :=
  (pair.1.taskId, pair.2.modelId)

/-- A run that completed: it has stored exactly one result for every pair, each a result of the call
of its pair. -/
structure Survived (pairs : List (BenchmarkTask × ModelConfig)) (result : Except Exc BenchmarkRun)
    (calls : List RunnerCall) : Prop where
  completed : ∃ run, result = .ok run ∧ finalStates calls = [(run.runId, .completed)]
  pairs_nodup : (pairs.map pairIds).Nodup
  results_pairs : (recordedResults calls).map (fun r => (r.taskId, r.modelId)) = pairs.map pairIds
  results_report : List.Forall₂ Reports (pairCalls calls) (recordedResults calls)

/-! ## One pair -/

/-- The calls of an iteration: the call of its pair among those of the inference service, and a result
of it, or an exception that the handler does not catch. -/
inductive PairEnds (task : BenchmarkTask) (model : ModelConfig) :
    Except Exc Unit → List RunnerCall → Prop
  | recorded (inner : List InferenceCall) (call : PairCall) (result : BenchmarkResult)
      (stored : Except Exc Unit) (hpair : (call.task, call.model) = (task, model))
      (hreports : Reports call result)
      (hkept : ∀ e, call.outcome = .error e →
        e.isInstance .inferenceDeadlineExceededError = false ∧ e.isInstance .exception = true) :
      PairEnds task model stored
        (inner.map .inference ++ [.generate call] ++ [.record result stored])
  | raised (inner : List InferenceCall) (call : PairCall) (e : Exc)
      (houtcome : call.outcome = .error e)
      (huncaught : e.isInstance .inferenceDeadlineExceededError = true ∨
        e.isInstance .exception = false) :
      PairEnds task model (.error e) (inner.map .inference ++ [.generate call])

namespace BenchmarkRunner

variable {σ : Type} (runner : BenchmarkRunner σ)

/-- The handler catches no deadline error and no cancellation. -/
theorem isInstance_of_caught {e : Exc} (h : e.isInstanceOf caughtErrors = true) :
    e.isInstance .inferenceDeadlineExceededError = false ∧ e.isInstance .exception = true := by
  have hclass : ∀ c : ExcClass, caughtErrors.any c.isSubclass = true →
      c.isSubclass .inferenceDeadlineExceededError = false ∧ c.isSubclass .exception = true := by
    intro c
    cases c <;> decide
  exact hclass e.cls h

/-- What the service raises and the handler does not catch exceeds the deadline or is a
cancellation. -/
theorem uncaught {model : ModelConfig} {e : Exc}
    (h : InferenceService.Normalized model (.error e)) (hcaught : ¬ e.isInstanceOf caughtErrors) :
    e.isInstance .inferenceDeadlineExceededError = true ∨ e.isInstance .exception = false := by
  refine h.imp_left fun hnormalized => ?_
  simp only [Exc.isInstanceOf, caughtErrors, InferenceService.normalizedErrors, List.any_cons,
    List.any_nil, Bool.or_false, Bool.or_eq_true, not_or] at hnormalized hcaught
  tauto

/-- A store operation is one call, whose outcome it has. -/
theorem store_holds (call : Except Exc Unit → RunnerCall)
    (operation : σ → Except Exc Unit × σ) :
    (store call operation).Holds fun r calls => calls = [call r] := by
  refine Traced.holds_query_bind fun outcome => Traced.holds_tell_bind ?_
  cases outcome with
  | ok u => exact Traced.holds_pure rfl
  | error e => exact Traced.holds_raise rfl

/-- A response of the model has a result. -/
theorem responseResult_eq_ok (resultId runId : Uuid) (requestId : String) (task : BenchmarkTask)
    {model : ModelConfig} (request : InferenceRequest) {response : InferenceResponse}
    (hmodel : response.modelId = model.modelId) :
    ∃ result, responseResult resultId runId requestId task model request.maxOutputTokens response =
        .ok result ∧ Reports ⟨task, model, request, .ok response⟩ result := by
  unfold responseResult
  cases hexhausted : responseOutputBudgetExhaustion response request.maxOutputTokens with
  | true =>
    have hfailed : (PairCall.mk task model request (.ok response)).failed = true := hexhausted
    exact ⟨_, rfl, rfl, rfl, by rw [hfailed]; rfl, by rw [hfailed]; rfl⟩
  | false =>
    have hfailed : (PairCall.mk task model request (.ok response)).failed = false := hexhausted
    rw [if_neg Bool.false_ne_true, dif_pos hmodel]
    exact ⟨_, rfl, rfl, rfl, by rw [hfailed]; rfl, by rw [hfailed]; rfl⟩

/-- The step lemma: an iteration over a registered model ends as `PairEnds` says. -/
theorem runPair_holds (runId : Uuid) (task : BenchmarkTask) {model : ModelConfig}
    (hmodel : model ∈ runner.executionRegistry.models) :
    (runner.runPair runId task model).Holds (PairEnds task model) := by
  refine Traced.holds_query_bind fun requestId => ?_
  have hget : runner.service.registry.get model.modelId.value = .ok model :=
    ModelRegistry.get_of_mem hmodel
  refine Traced.holds_attempt_bind (Traced.Holds.embed
    (runner.service.generate_holds hget (runner.pairRequest task model) (some requestId.text) none
      .explicit)) ?_
  rintro outcome _ ⟨inner, rfl, hnormalized⟩
  refine Traced.holds_tell_bind (Traced.holds_query_bind fun resultId => ?_)
  cases outcome with
  | ok response =>
    obtain ⟨result, hresult, hreports⟩ := responseResult_eq_ok resultId runId requestId.text task
      (runner.pairRequest task model) hnormalized.1
    dsimp only
    rw [hresult]
    refine (store_holds (.record result) _).mono ?_
    rintro stored _ rfl
    rw [← List.append_assoc]
    exact .recorded inner _ result stored rfl hreports fun _ h => nomatch h
  | error e =>
    dsimp only
    split
    · rename_i hcaught
      refine Traced.holds_query_bind fun duration => (store_holds (.record _) _).mono ?_
      rintro stored _ rfl
      rw [← List.append_assoc]
      refine .recorded inner ⟨task, model, runner.pairRequest task model, .error e⟩ _ stored rfl
        ⟨rfl, rfl, rfl, rfl⟩ fun e' h => ?_
      cases h
      exact isInstance_of_caught hcaught
    · rename_i hcaught
      refine Traced.holds_raise ?_
      rw [List.append_nil]
      exact .raised inner _ e rfl (uncaught hnormalized hcaught)

end BenchmarkRunner

/-! ## The loop -/

section
variable {calls rest : List RunnerCall}

@[simp] theorem pairCalls_append : pairCalls (calls ++ rest) = pairCalls calls ++ pairCalls rest :=
  List.filterMap_append

@[simp] theorem recordedResults_append :
    recordedResults (calls ++ rest) = recordedResults calls ++ recordedResults rest :=
  List.filterMap_append

@[simp] theorem finalStates_append :
    finalStates (calls ++ rest) = finalStates calls ++ finalStates rest :=
  List.filterMap_append

@[simp] theorem pairCalls_inference (inner : List InferenceCall) :
    pairCalls (inner.map .inference) = [] := by
  rw [pairCalls, List.filterMap_map]
  exact List.filterMap_eq_nil_iff.mpr fun _ _ => rfl

@[simp] theorem recordedResults_inference (inner : List InferenceCall) :
    recordedResults (inner.map .inference) = [] := by
  rw [recordedResults, List.filterMap_map]
  exact List.filterMap_eq_nil_iff.mpr fun _ _ => rfl

@[simp] theorem finalStates_inference (inner : List InferenceCall) :
    finalStates (inner.map .inference) = [] := by
  rw [finalStates, List.filterMap_map]
  exact List.filterMap_eq_nil_iff.mpr fun _ _ => rfl

end

/-- An exception that ends the loop: the storage raised it, or a call did that the handler does not
catch. -/
def EndsLoop (e : Exc) (calls : List RunnerCall) : Prop :=
  (∃ c ∈ calls, c.storageError? = some e) ∨
    ∃ call ∈ pairCalls calls, call.outcome = .error e ∧
      (e.isInstance .inferenceDeadlineExceededError = true ∨ e.isInstance .exception = false)

/-- What ended the loop is among the calls of the whole run. -/
theorem EndsLoop.append {e : Exc} {calls : List RunnerCall} (h : EndsLoop e calls)
    (before after : List RunnerCall) : EndsLoop e (before ++ (calls ++ after)) := by
  refine h.imp ?_ ?_
  · rintro ⟨c, hc, he⟩
    exact ⟨c, List.mem_append_right _ (List.mem_append_left _ hc), he⟩
  · rintro ⟨call, hcall, he⟩
    refine ⟨call, ?_, he⟩
    rw [pairCalls_append, pairCalls_append]
    exact List.mem_append_right _ (List.mem_append_left _ hcall)

/-- With a storage that works, a call exceeded its deadline or was cancelled. -/
theorem EndsLoop.not_kept {e : Exc} {calls : List RunnerCall} (h : EndsLoop e calls)
    (hstorage : StorageSucceeded calls) : ¬ (DeadlinesKept calls ∧ Uncancelled calls) := by
  rintro ⟨hkept, huncancelled⟩
  rcases h with ⟨c, hc, he⟩ | ⟨call, hcall, houtcome, hdeadline | hcancelled⟩
  · rw [hstorage c hc] at he
    cases he
  · rw [hkept call hcall e houtcome] at hdeadline
    cases hdeadline
  · rw [huncancelled call hcall e houtcome] at hcancelled
    cases hcancelled

/-- Whatever the run raises after its loop has ended so, it has not survived. -/
theorem EndsLoop.not_survived {e : Exc} {calls : List RunnerCall} (h : EndsLoop e calls)
    {pairs : List (BenchmarkTask × ModelConfig)} (e' : Exc) (before after : List RunnerCall)
    (hstorage : StorageSucceeded (before ++ (calls ++ after))) :
    Survived pairs (.error e') (before ++ (calls ++ after)) ↔
      DeadlinesKept (before ++ (calls ++ after)) ∧ Uncancelled (before ++ (calls ++ after)) := by
  refine iff_of_false ?_ ((h.append before after).not_kept hstorage)
  intro hsurvived
  obtain ⟨_, hrun, _⟩ := hsurvived.completed
  cases hrun

/-- What the loop over some pairs has done: if it went through, every pair has a call and a stored
result of it, in order, and no call exceeded its deadline or was cancelled; what it raises, the
storage or a call that the handler does not catch has raised. -/
structure PairsDone (pairs : List (BenchmarkTask × ModelConfig)) (r : Except Exc Unit)
    (calls : List RunnerCall) : Prop where
  no_final : finalStates calls = []
  went_through : r = .ok () → (pairCalls calls).map (fun c => (c.task, c.model)) = pairs ∧
    List.Forall₂ Reports (pairCalls calls) (recordedResults calls) ∧
    DeadlinesKept calls ∧ Uncancelled calls
  raised : ∀ e, r = .error e → EndsLoop e calls

/-- An iteration is a loop over its pair. -/
theorem PairEnds.done {task : BenchmarkTask} {model : ModelConfig} {r : Except Exc Unit}
    {calls : List RunnerCall} (h : PairEnds task model r calls) :
    PairsDone [(task, model)] r calls := by
  cases h with
  | recorded inner call result stored hpair hreports hkept =>
    cases r with
    | ok u =>
      refine ⟨by simp [finalStates, RunnerCall.finished?], fun _ => ?_, fun e h => nomatch h⟩
      have hcalls : pairCalls (inner.map .inference ++ [.generate call] ++
          [.record result (.ok ())]) = [call] := by
        rw [pairCalls_append, pairCalls_append, pairCalls_inference]
        rfl
      have hresults : recordedResults (inner.map .inference ++ [.generate call] ++
          [.record result (.ok ())]) = [result] := by
        rw [recordedResults_append, recordedResults_append, recordedResults_inference]
        rfl
      refine ⟨?_, ?_, ?_, ?_⟩
      · rw [hcalls, List.map_singleton, hpair]
      · rw [hcalls, hresults]
        exact .cons hreports .nil
      · rw [DeadlinesKept, hcalls]
        intro c hc e he
        rw [List.mem_singleton.mp hc] at he
        exact (hkept e he).1
      · rw [Uncancelled, hcalls]
        intro c hc e he
        rw [List.mem_singleton.mp hc] at he
        exact (hkept e he).2
    | error e =>
      refine ⟨by simp [finalStates, RunnerCall.finished?], (fun h => nomatch h), fun e' h => ?_⟩
      cases h
      exact .inl ⟨_, List.mem_append_right _ (.head _), rfl⟩
  | raised inner call e houtcome huncaught =>
    refine ⟨by simp [finalStates, RunnerCall.finished?], (fun h => nomatch h), fun e' h => ?_⟩
    cases h
    exact .inr ⟨call, by simp [pairCalls, RunnerCall.pairCall?], houtcome, huncaught⟩

/-- The loop goes on after an iteration that went through. -/
theorem PairsDone.append {pairs more : List (BenchmarkTask × ModelConfig)} {r : Except Exc Unit}
    {calls rest : List RunnerCall} (h : PairsDone pairs (.ok ()) calls) (hrest : PairsDone more r rest) :
    PairsDone (pairs ++ more) r (calls ++ rest) := by
  obtain ⟨hpairs, hreports, hkept, hlive⟩ := h.went_through rfl
  refine ⟨by rw [finalStates_append, h.no_final, hrest.no_final]; rfl, fun hr => ?_, fun e hr => ?_⟩
  · obtain ⟨hpairs', hreports', hkept', hlive'⟩ := hrest.went_through hr
    refine ⟨by rw [pairCalls_append, List.map_append, hpairs, hpairs'], ?_, ?_, ?_⟩
    · rw [pairCalls_append, recordedResults_append]
      exact List.rel_append hreports hreports'
    · intro call hcall
      rw [pairCalls_append] at hcall
      exact (List.mem_append.mp hcall).elim (hkept call) (hkept' call)
    · intro call hcall
      rw [pairCalls_append] at hcall
      exact (List.mem_append.mp hcall).elim (hlive call) (hlive' call)
  · refine (hrest.raised e hr).imp ?_ ?_
    · rintro ⟨c, hc, he⟩
      exact ⟨c, List.mem_append_right _ hc, he⟩
    · rintro ⟨call, hcall, he⟩
      exact ⟨call, by rw [pairCalls_append]; exact List.mem_append_right _ hcall, he⟩

/-- What an iteration raises, the loop raises, however many pairs are left. -/
theorem PairsDone.of_raised {pairs more : List (BenchmarkTask × ModelConfig)} {e : Exc}
    {calls : List RunnerCall} (h : PairsDone pairs (.error e) calls) :
    PairsDone more (.error e) calls :=
  ⟨h.no_final, (fun hr => nomatch hr), h.raised⟩

/-- Results are of the pairs of their calls. -/
theorem resultIds_of_reports {calls : List PairCall} {results : List BenchmarkResult}
    (h : List.Forall₂ Reports calls results) :
    results.map (fun r => (r.taskId, r.modelId)) =
      calls.map fun c => pairIds (c.task, c.model) := by
  induction h with
  | nil => rfl
  | cons hreport _ ih =>
    rw [List.map_cons, List.map_cons, ih, hreport.taskId, hreport.modelId]
    rfl

/-- A loop that went through makes a run that survived. -/
theorem PairsDone.survived {pairs : List (BenchmarkTask × ModelConfig)} {loop : List RunnerCall}
    (h : PairsDone pairs (.ok ()) loop) (hnodup : (pairs.map pairIds).Nodup) (run : BenchmarkRun)
    (started : Except Exc Unit) :
    Survived pairs (.ok run)
        ([.start run started] ++ (loop ++ [.finish run.runId .completed (.ok ())])) ∧
      DeadlinesKept ([.start run started] ++ (loop ++ [.finish run.runId .completed (.ok ())])) ∧
      Uncancelled ([.start run started] ++ (loop ++ [.finish run.runId .completed (.ok ())])) := by
  obtain ⟨hpairs, hreports, hkept, hlive⟩ := h.went_through rfl
  -- The calls around the loop are no calls of the inference service and store no result.
  have hcalls : pairCalls ([.start run started] ++
      (loop ++ [.finish run.runId .completed (.ok ())])) = pairCalls loop := by
    rw [pairCalls_append, pairCalls_append]
    exact List.append_nil _
  have hresults : recordedResults ([.start run started] ++
      (loop ++ [.finish run.runId .completed (.ok ())])) = recordedResults loop := by
    rw [recordedResults_append, recordedResults_append]
    exact List.append_nil _
  refine ⟨⟨⟨run, rfl, ?_⟩, hnodup, ?_, ?_⟩, ?_, ?_⟩
  · rw [finalStates_append, finalStates_append, h.no_final]
    rfl
  · rw [hresults, ← hpairs, resultIds_of_reports hreports, List.map_map]
    rfl
  · rw [hcalls, hresults]
    exact hreports
  · rw [DeadlinesKept, hcalls]
    exact hkept
  · rw [Uncancelled, hcalls]
    exact hlive

namespace BenchmarkRunner

variable {σ : Type} (runner : BenchmarkRunner σ)

/-- The run lemma: the loop over any pairs of registered models, by induction on the pairs. -/
theorem runPairs_holds (runId : Uuid) (pairs : List (BenchmarkTask × ModelConfig))
    (hpairs : ∀ pair ∈ pairs, pair.2 ∈ runner.executionRegistry.models) :
    (runner.runPairs runId pairs).Holds (PairsDone pairs) := by
  induction pairs with
  | nil =>
    refine Traced.holds_pure ⟨rfl, fun _ => ⟨rfl, .nil, ?_, ?_⟩, (fun _ h => nomatch h)⟩
    · exact fun _ h => nomatch h
    · exact fun _ h => nomatch h
  | cons pair rest ih =>
    obtain ⟨task, model⟩ := pair
    have hmodel := hpairs _ (.head _)
    have hrest := ih fun pair h => hpairs pair (.tail _ h)
    refine (runner.runPair_holds runId task hmodel).bind ?_ ?_
    · intro _ calls hdone
      exact hrest.mono fun r calls' h => hdone.done.append h
    · intro e calls hdone
      exact hdone.done.of_raised

/-! ## The selected models -/

/-- A model of the same identity has the same id. -/
theorem modelId_of_sameIdentity {registered model : ModelConfig}
    (h : sameIdentity registered model = true) : model.modelId = registered.modelId := by
  simp only [sameIdentity, Bool.and_eq_true, decide_eq_true_eq] at h
  exact h.1.1.1.1

/-- A configured model of the same identity has the id of the registered one. -/
theorem map_configured_modelId {modelIds : List String} {registered : List ModelConfig}
    (hget : List.Forall₂ (fun id model => runner.inference.registry.get id = .ok model) modelIds
      registered)
    (hsame : ∀ model ∈ registered, (runner.configured model).modelId = model.modelId) :
    (registered.map runner.configured).map (·.modelId.value) = modelIds := by
  induction hget with
  | nil => rfl
  | cons hmodel _ ih =>
    rw [List.map_cons, List.map_cons, hsame _ (.head _), (ModelRegistry.get_eq_ok hmodel).2,
      ih fun model hm => hsame model (.tail _ hm)]

/-- The checks let through models that execute a registered model of each selected id. -/
theorem prepare_eq_ok {dataset : BenchmarkDataset} {modelIds : List String} {limit : Option ℤ}
    {models : List ModelConfig} (h : runner.prepare dataset modelIds limit = .ok models) :
    modelIds.Nodup ∧ models.map (·.modelId.value) = modelIds ∧
      ∀ model ∈ models, model ∈ runner.executionRegistry.models := by
  obtain ⟨hids, h⟩ := Except.guard_eq_ok.mp h
  obtain ⟨_, h⟩ := Except.guard_eq_ok.mp h
  obtain ⟨registered, hregistered, h⟩ := Except.bind_eq_ok.mp h
  obtain ⟨_, h⟩ := Except.guard_eq_ok.mp h
  obtain ⟨checks, hchecks, h⟩ := Except.bind_eq_ok.mp h
  obtain ⟨_, h⟩ := Except.guard_eq_ok.mp h
  cases Except.pure_eq_ok.mp h
  rw [not_or, not_not] at hids
  have hget := List.mapM_eq_ok.mp hregistered
  have hcheck := List.mapM_eq_ok.mp hchecks
  refine ⟨hids.2, ?_, ?_⟩
  · refine runner.map_configured_modelId hget fun model hmodel => ?_
    obtain ⟨_, _, hok⟩ := hcheck.exists_of_mem hmodel
    have hidentity := (Except.guard_eq_ok.mp hok).1
    rw [not_not] at hidentity
    exact modelId_of_sameIdentity hidentity
  · intro model hmodel
    obtain ⟨source, hsource, rfl⟩ := List.mem_map.mp hmodel
    obtain ⟨id, _, hid⟩ := hget.flip.exists_of_mem hsource
    exact List.mem_map_of_mem (ModelRegistry.get_eq_ok hid).1

/-- Without overrides and execution configurations, every selection of one or more distinct models
that are registered, enabled and supported passes the checks. -/
theorem prepare_of_selected (hoverrides : runner.outputTokenOverrides = [])
    (hconfigurations : runner.modelConfigurations = []) (dataset : BenchmarkDataset)
    (models : List ModelConfig) {limit : Option ℤ} (hne : models ≠ [])
    (hnodup : (models.map (·.modelId.value)).Nodup) (hlimit : ∀ n, limit = some n → 0 < n)
    (hregistered : ∀ model ∈ models, model ∈ runner.inference.registry.models)
    (henabled : ∀ model ∈ models, model.enabled = true)
    (hsupported : ∀ model ∈ models,
      runner.inference.resolver.supports model.provider = true) :
    runner.prepare dataset (models.map (·.modelId.value)) limit = .ok models := by
  have hself : ∀ model, runner.configured model = model := by
    intro model
    rw [configured, hconfigurations]
    rfl
  have hget : (models.map (·.modelId.value)).mapM runner.inference.registry.get = .ok models := by
    refine List.mapM_eq_ok.mpr (List.forall₂_map_left_iff.mpr (List.forall₂_same.mpr fun model h => ?_))
    exact ModelRegistry.get_of_mem (hregistered model h)
  have hcheck : models.mapM runner.checkModel = .ok (models.map fun _ => ()) := by
    refine List.mapM_eq_ok.mpr (List.forall₂_map_right_iff.mpr (List.forall₂_same.mpr fun model h => ?_))
    rw [checkModel, hself, if_neg (by simp [sameIdentity]), if_neg (by simp [henabled model h]),
      if_neg (by rw [not_not]; exact hsupported model h)]
    rfl
  rw [prepare, if_neg (by simp [hne, hnodup]), if_neg ?_, hget, Except.ok_bind,
    if_neg (by simp [hconfigurations]), hcheck, Except.ok_bind,
    if_neg (by simp [overridesTarget, hoverrides]), show runner.configured = id from funext hself,
    List.map_id]
  · rfl
  · cases limit with
    | none => simp
    | some n => simpa using hlimit n rfl

/-- The pairs of selected tasks and models are distinct. -/
theorem pairs_nodup (dataset : BenchmarkDataset) (limit : Option ℕ) {models : List ModelConfig}
    (hmodels : (models.map (·.modelId.value)).Nodup) :
    ((pairs (selectedTasks dataset limit) models).map pairIds).Nodup := by
  have htasks : ((selectedTasks dataset limit).map (·.taskId)).Nodup :=
    List.Nodup.sublist (List.Sublist.map _ (List.IsPrefix.sublist
      ( selectedTasks_prefix dataset limit))) dataset.tasks_nodup
  have hids : (models.map (·.modelId)).Nodup := by
    refine List.Nodup.of_map Identifier.value ?_
    rwa [List.map_map]
  have hproduct : (pairs (selectedTasks dataset limit) models).map pairIds =
      ((selectedTasks dataset limit).map (·.taskId)) ×ˢ (models.map (·.modelId)) := by
    change _ = List.flatMap _ _
    rw [pairs, List.map_flatMap, List.flatMap_map]
    simp only [List.map_map]
    rfl
  rw [hproduct]
  exact htasks.product hids

/-! ## The run -/

/-- The body of the `try`: the loop went through and the status is stored, or an exception ended
it. -/
theorem body_holds (runId : Uuid) (pairs : List (BenchmarkTask × ModelConfig))
    (hpairs : ∀ pair ∈ pairs, pair.2 ∈ runner.executionRegistry.models) :
    Traced.Holds (do
        runner.runPairs runId pairs
        store (.finish runId .completed) (runner.repository.finish runId .completed))
      fun r calls => (r = .ok () ∧ ∃ loop, PairsDone pairs (.ok ()) loop ∧
          calls = loop ++ [.finish runId .completed (.ok ())]) ∨
        ∃ e, r = .error e ∧ EndsLoop e calls := by
  refine (runner.runPairs_holds runId pairs hpairs).bind ?_ ?_
  · intro _ loop hloop
    refine (store_holds _ _).mono fun stored _ hcalls => ?_
    subst hcalls
    cases stored with
    | ok u => exact .inl ⟨rfl, loop, hloop, rfl⟩
    | error e => exact .inr ⟨e, rfl, .inl ⟨_, List.mem_append_right _ (.head _), rfl⟩⟩
  · intro e loop hloop
    exact .inr ⟨e, rfl, hloop.raised e rfl⟩

/-- A run over models that pass its checks, with a storage that works, completes with one result for
every pair if and only if no call exceeds the inference deadline or is cancelled. -/
theorem run_survives_iff {dataset : BenchmarkDataset} {modelIds : List String} {limit : Option ℤ}
    {models : List ModelConfig} (hprepare : runner.prepare dataset modelIds limit = .ok models) :
    (runner.run dataset modelIds limit).Holds fun result calls =>
      StorageSucceeded calls →
        (Survived (pairs (selectedTasks dataset (limit.map Int.toNat)) models) result calls ↔
          DeadlinesKept calls ∧ Uncancelled calls) := by
  obtain ⟨hids, hmodelIds, hregistered⟩ := runner.prepare_eq_ok hprepare
  have hnodup := pairs_nodup dataset (limit.map Int.toNat) (hmodelIds ▸ hids)
  have hpairs : ∀ pair ∈ pairs (selectedTasks dataset (limit.map Int.toNat)) models,
      pair.2 ∈ runner.executionRegistry.models := by
    intro pair hpair
    obtain ⟨task, _, hpair⟩ := List.mem_flatMap.mp hpair
    obtain ⟨model, hmodel, rfl⟩ := List.mem_map.mp hpair
    exact hregistered model hmodel
  refine Traced.holds_ofExcept_bind (fun found hfound => ?_) (fun e he => ?_)
  rotate_left
  · rw [hprepare] at he
    cases he
  rw [hprepare] at hfound
  cases hfound
  refine Traced.holds_query_bind fun runId => (store_holds _ _).bind ?_ ?_
  rotate_left
  · -- A manifest that cannot be stored raises before the first call.
    intro e calls hcalls hstorage
    subst hcalls
    cases hstorage _ (.head _)
  intro _ started hstarted
  subst hstarted
  refine Traced.holds_attempt_bind (runner.body_holds runId _ hpairs) ?_
  rintro outcome calls (⟨rfl, loop, hloop, rfl⟩ | ⟨e, rfl, hends⟩)
  · refine Traced.holds_pure fun _ => ?_
    rw [List.append_nil]
    obtain ⟨hsurvived, hkept⟩ := hloop.survived hnodup (manifest runner.indicators
      runner.outputTokenOverrides runId dataset (limit.map Int.toNat) models) (.ok ())
    exact iff_of_true hsurvived hkept
  · refine (store_holds _ _).bind ?_ ?_
    · intro _ finished _
      refine Traced.holds_raise ?_
      rw [List.append_nil]
      exact hends.not_survived e _ finished
    · intro e' finished _
      exact hends.not_survived e' _ finished

/-! ## A divergence -/

/-- The sample model over a storage that works; the state is the clock. -/
def sample (provider : Provider ℚ) : BenchmarkRunner ℚ where
  inference := .sample provider
  repository := ⟨fun _ s => (.ok (), s), fun _ s => (.ok (), s), fun _ _ s => (.ok (), s)⟩
  indicators := .sample
  overrides_nonempty := by simp
  execution_nodup := by simp [InferenceService.sample]

/-- A provider that is cut off after 61 seconds. -/
def slowProvider : Provider ℚ := fun _ _ s => (.error (.raised .timeoutError ""), s + 61)

/-- The sample model passes the checks of a run. -/
theorem prepare_sample (provider : Provider ℚ) :
    (sample provider).prepare .sample [ModelConfig.sample.modelId.value] none = .ok [.sample] := by
  refine (sample provider).prepare_of_selected rfl rfl .sample [.sample] ?_ ?_ ?_ ?_ ?_ ?_
  · simp
  · simp
  · simp
  · simp [sample, InferenceService.sample]
  · simp [ModelConfig.sample]
  · simp [sample, InferenceService.sample, ProviderResolver.supports]

/-- The run of the sample model on the sample task, from the clock reading zero. -/
def sampleRun (provider : Provider ℚ) : Except Exc BenchmarkRun × ℚ × List RunnerCall :=
  (sample provider).run .sample [ModelConfig.sample.modelId.value] none 0

/-- A run of a prompt model survives. -/
theorem run_survives_iff_sample :
    Survived (pairs (selectedTasks .sample none) [.sample]) (sampleRun promptProvider).1
      (sampleRun promptProvider).2.2 :=
  ((sample promptProvider).run_survives_iff (prepare_sample promptProvider) 0
    (by decide +kernel)).mpr (by decide +kernel)

/-- The only call of the run exceeds the deadline: the run is aborted without a result, although the
storage works and nothing was cancelled. -/
theorem slow_call_aborts_run :
    StorageSucceeded (sampleRun slowProvider).2.2 ∧ Uncancelled (sampleRun slowProvider).2.2 ∧
      recordedResults (sampleRun slowProvider).2.2 = [] ∧
      finalStates (sampleRun slowProvider).2.2 = [(.sample, .aborted)] ∧
      ¬ Survived (pairs (selectedTasks .sample none) [.sample]) (sampleRun slowProvider).1
        (sampleRun slowProvider).2.2 := by
  have hfinal : finalStates (sampleRun slowProvider).2.2 = [(.sample, .aborted)] := by
    decide +kernel
  have hresults : (recordedResults (sampleRun slowProvider).2.2).length = 0 := by decide +kernel
  refine ⟨by decide +kernel, by decide +kernel, List.length_eq_zero_iff.mp hresults, hfinal, ?_⟩
  intro hsurvived
  obtain ⟨run, _, hcompleted⟩ := hsurvived.completed
  rw [hfinal] at hcompleted
  simp at hcompleted

end BenchmarkRunner

end RouteLLM
