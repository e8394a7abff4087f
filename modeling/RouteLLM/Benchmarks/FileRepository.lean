import RouteLLM.Benchmarks.RunSurvival
import RouteLLM.Lib.FileTable
import RouteLLM.Lib.WriteThreads

/-!
# The experiment store

`FileBenchmarkRepository` of `benchmarks/repository.py`. Every operation hands its writes to a thread
(`asyncio.to_thread`), and each write replaces one file atomically. `ArtifactText` is how pydantic and `json` write
and read the artifacts; a text that was written reads back as what was written.
-/

namespace RouteLLM

/-- The texts of the artifacts, with the round trips of the libraries that write and read them. -/
structure ArtifactText (Text : Type) where
  runText : BenchmarkRun → Text
  readRun : Text → Option BenchmarkRun
  read_run : ∀ run, readRun (runText run) = some run
  resultText : BenchmarkResult → Text
  readResult : Text → Option BenchmarkResult
  read_result : ∀ result, readResult (resultText result) = some result
  jsonText : List (PyStr × PyStr) → Text
  readJson : Text → Option PyJson
  read_json : ∀ entries, (entries.map Prod.fst).Nodup →
    readJson (jsonText entries) = some (.dict (entries.map fun entry => (entry.1, .str entry.2)))

/-- The files of the directory of a run. -/
structure RunDirectory (Text : Type) where
  manifest : Option Text := none
  status : Option Text := none
  results : List (String × Text) := []

/-- A write of one file. -/
inductive FileWrite (Text : Type)
  | manifest (text : Text)
  | status (text : Text)
  | result (name : String) (text : Text)

/-- `_write`: the old file or the new one. -/
def FileWrite.apply {Text : Type} : FileWrite Text → RunDirectory Text → RunDirectory Text
  | .manifest text, directory => { directory with manifest := some text }
  | .status text, directory => { directory with status := some text }
  | .result name text, directory => { directory with results := FileTable.put (name, text) directory.results }

@[inherit_doc ReasoningEffort.value]
def RunStatus.value : RunStatus → String
  | .completed => "completed"
  | .aborted => "aborted"

namespace FileBenchmarkRepository

variable {Text : Type} (texts : ArtifactText Text) (finishedAt : RunStatus → PyStr)

/-- `_start`, once the directories are made. -/
def start (run : BenchmarkRun) : List (FileWrite Text) :=
  [.manifest (texts.runText run),
    .status (texts.jsonText [(PyStr.ofString "status", PyStr.ofString "running")])]

/-- `record`. -/
def record (result : BenchmarkResult) : List (FileWrite Text) :=
  [.result (result.resultId.text ++ ".json") (texts.resultText result)]

/-- `finish`. The time is what the clock says. -/
def finish (status : RunStatus) : List (FileWrite Text) :=
  [.status (texts.jsonText [(PyStr.ofString "status", PyStr.ofString status.value),
    (PyStr.ofString "finished_at", finishedAt status)])]

/-- The writes of a call of the runner, and whether it returned. Calls of the inference service write nothing. -/
def effect? : RunnerCall → Option (List (FileWrite Text) × Bool)
  | .start run outcome => some (start texts run, outcome.isOk)
  | .record result outcome => some (record texts result, outcome.isOk)
  | .finish _ status outcome => some (finish texts finishedAt status, outcome.isOk)
  | .inference _ | .generate _ => none

/-- The writes of some calls. -/
def effects (calls : List RunnerCall) : List (List (FileWrite Text) × Bool) :=
  calls.filterMap (effect? texts finishedAt)

/-- The writes of a run that was interrupted: after some of its calls, or while one was waited for. -/
inductive Interrupted (calls : List RunnerCall) : List (List (FileWrite Text) × Bool) → Prop
  | after (front : List RunnerCall) (h : front <+: calls) : Interrupted calls (effects texts finishedAt front)
  | during (front : List RunnerCall) (call : RunnerCall) (effect : List (FileWrite Text) × Bool)
      (h : front ++ [call] <+: calls) (heffect : effect? texts finishedAt call = some effect) :
      Interrupted calls (effects texts finishedAt front ++ [(effect.1, false)])

end FileBenchmarkRepository

/-! ## The calls of a run that returned -/

/-- A call of a loop that went through: one of the inference service, or a stored result of the run. -/
def Looped (runId : Uuid) (call : RunnerCall) : Prop :=
  (∃ inner, call = .inference inner) ∨ (∃ pair, call = .generate pair) ∨
    ∃ result, call = .record result (.ok ()) ∧ result.runId = runId

namespace BenchmarkRunner

variable {σ : Type} (runner : BenchmarkRunner σ)

theorem runId_of_responseResult {resultId runId : Uuid} {requestId : String} {task : BenchmarkTask}
    {model : ModelConfig} {limit : PositiveTokenCount} {response : InferenceResponse} {result : BenchmarkResult}
    (h : responseResult resultId runId requestId task model limit response = .ok result) : result.runId = runId := by
  rw [responseResult] at h
  split at h
  · cases h
    rfl
  · split at h
    · cases h
      rfl
    · cases h

theorem looped_inner {runId : Uuid} (inner : List InferenceCall) (pair : PairCall) :
    ∀ call ∈ inner.map .inference ++ [.generate pair], Looped runId call := by
  intro call hcall
  rcases List.mem_append.mp hcall with hinner | hpair
  · obtain ⟨c, -, rfl⟩ := List.mem_map.mp hinner
    exact .inl ⟨c, rfl⟩
  · exact .inr (.inl ⟨pair, List.mem_singleton.mp hpair⟩)

/-- The step lemma: an iteration that went through has stored a result of its run. -/
theorem runPair_looped (runId : Uuid) (task : BenchmarkTask) (model : ModelConfig) :
    (runner.runPair runId task model).Holds fun r calls => r = .ok () → ∀ call ∈ calls, Looped runId call := by
  refine Traced.holds_query_bind fun requestId => ?_
  refine Traced.holds_attempt_bind (Traced.Holds.embed (Q := fun _ _ => True) fun _ => trivial) ?_
  rintro outcome _ ⟨inner, rfl, -⟩
  refine Traced.holds_tell_bind (Traced.holds_query_bind fun resultId => ?_)
  have hstored : ∀ result : BenchmarkResult, result.runId = runId →
      (store (.record result) (runner.repository.record result)).Holds fun r calls => r = .ok () →
        ∀ call ∈ inner.map .inference ++ ([.generate ⟨task, model, runner.pairRequest task model, outcome⟩] ++ calls),
          Looped runId call := by
    intro result hresult
    refine (store_holds (.record result) _).mono ?_
    rintro r _ rfl rfl call hcall
    rw [← List.append_assoc] at hcall
    rcases List.mem_append.mp hcall with hinner | hrecord
    · exact looped_inner inner _ call hinner
    · exact .inr (.inr ⟨result, List.mem_singleton.mp hrecord, hresult⟩)
  cases outcome with
  | ok response =>
    refine Traced.holds_ofExcept_bind (fun result hresult => ?_) fun e _ h => by cases h
    exact hstored result (runId_of_responseResult hresult)
  | error e =>
    dsimp only
    split
    · exact Traced.holds_query_bind fun duration => hstored _ rfl
    · exact Traced.holds_raise fun h => by cases h

/-- The run lemma: a loop that went through has stored results of its run. -/
theorem runPairs_looped (runId : Uuid) (pairs : List (BenchmarkTask × ModelConfig)) :
    (runner.runPairs runId pairs).Holds fun r calls => r = .ok () → ∀ call ∈ calls, Looped runId call := by
  induction pairs with
  | nil => exact Traced.holds_pure fun _ call hcall => absurd hcall List.not_mem_nil
  | cons pair pairs ih =>
    refine (runner.runPair_looped runId pair.1 pair.2).bind ?_ fun e calls _ h => by cases h
    intro _ calls hfirst
    refine ih.mono fun r calls' hrest hr call hcall => ?_
    rcases List.mem_append.mp hcall with h | h
    · exact hfirst rfl call h
    · exact hrest hr call h

/-- The calls of a run that returned: its manifest, a loop with one stored result for every pair, and its end. -/
structure Ended (dataset : BenchmarkDataset) (modelIds : List String) (limit : Option ℤ) (run : BenchmarkRun)
    (models : List ModelConfig) (loop : List RunnerCall) (calls : List RunnerCall) : Prop where
  prepared : runner.prepare dataset modelIds limit = .ok models
  run_eq : run = manifest runner.indicators runner.outputTokenOverrides run.runId dataset (limit.map Int.toNat) models
  looped : ∀ call ∈ loop, Looped run.runId call
  done : PairsDone (pairs (selectedTasks dataset (limit.map Int.toNat)) models) (.ok ()) loop
  calls_eq : calls = [.start run (.ok ())] ++ (loop ++ [.finish run.runId .completed (.ok ())])

/-- A run that returned has ended so. -/
theorem run_ended (dataset : BenchmarkDataset) (modelIds : List String) (limit : Option ℤ) :
    (runner.run dataset modelIds limit).Holds fun result calls => ∀ run, result = .ok run →
      ∃ models loop, runner.Ended dataset modelIds limit run models loop calls := by
  refine Traced.holds_ofExcept_bind (fun models hmodels => ?_) fun e _ run h => by cases h
  have hpairs : ∀ pair ∈ pairs (selectedTasks dataset (limit.map Int.toNat)) models,
      pair.2 ∈ runner.executionRegistry.models := by
    intro pair hpair
    obtain ⟨task, _, hpair⟩ := List.mem_flatMap.mp hpair
    obtain ⟨model, hmodel, rfl⟩ := List.mem_map.mp hpair
    exact (runner.prepare_eq_ok hmodels).2.2 model hmodel
  refine Traced.holds_query_bind fun runId => (store_holds _ _).bind ?_ fun e _ _ run h => by cases h
  intro _ started hstarted
  subst hstarted
  have hbody : Traced.Holds (do
      runner.runPairs runId (pairs (selectedTasks dataset (limit.map Int.toNat)) models)
      store (.finish runId .completed) (runner.repository.finish runId .completed))
      fun r calls => r = .ok () → ∃ loop, PairsDone (pairs (selectedTasks dataset (limit.map Int.toNat)) models)
        (.ok ()) loop ∧ (∀ call ∈ loop, Looped runId call) ∧
          calls = loop ++ [.finish runId .completed (.ok ())] := by
    have hloop : (runner.runPairs runId (pairs (selectedTasks dataset (limit.map Int.toNat)) models)).Holds
        fun r calls => PairsDone (pairs (selectedTasks dataset (limit.map Int.toNat)) models) r calls ∧
          (r = .ok () → ∀ call ∈ calls, Looped runId call) :=
      fun s => ⟨runner.runPairs_holds runId _ hpairs s, runner.runPairs_looped runId _ s⟩
    refine hloop.bind ?_ fun e _ _ h => by cases h
    rintro _ loop ⟨hdone, hlooped⟩
    refine (store_holds _ _).mono ?_
    rintro r _ rfl rfl
    exact ⟨loop, hdone, hlooped rfl, rfl⟩
  refine Traced.holds_attempt_bind hbody ?_
  intro outcome calls hcalls
  cases outcome with
  | ok u =>
    obtain ⟨loop, hdone, hlooped, rfl⟩ := hcalls rfl
    refine Traced.holds_pure fun run hrun => ?_
    cases hrun
    refine ⟨models, loop, hmodels, rfl, hlooped, hdone, ?_⟩
    rw [List.append_nil]
    rfl
  | error e =>
    refine (store_holds _ _).bind ?_ fun e' _ _ run h => by cases h
    exact fun _ _ _ => Traced.holds_raise fun run h => by cases h

end BenchmarkRunner

end RouteLLM
