import RouteLLM.Errors
import RouteLLM.Lib.Except
import RouteLLM.Lib.FloatMean
import RouteLLM.Lib.PyValue

/-!
# The sandbox harness

`evaluation/sandbox.py`: the harness that calls a candidate function on the hidden test cases and emits its
counts, and the validator of the result. What the parser and the restrictions make of a source is a parameter,
and so is what `json.dumps` raises on a value. The payload is JSON text without a NaN, so that equality never
rests on the identity of objects.
-/

namespace RouteLLM

inductive FunctionalErrorCategory
  | syntaxError | missingFunction | wrongSignature | runtimeException | timeout | wrongOutput
  | malformedReturn | restrictedBehavior | outputLimit | containerStartFailure | dockerUnavailable
  | containerFailure
  deriving DecidableEq

structure FunctionalTestCase where
  args : List PyJson
  expected : PyJson

structure FunctionalEvaluationRequest where
  source : PyStr
  functionName : String
  parameterCount : ℕ
  tests : List FunctionalTestCase
  preserveInputs : Bool := false
  source_nonempty : source ≠ []
  tests_nonempty : tests ≠ []

inductive ExecutionStatus
  | passed | failed | infrastructureFailure
  deriving DecidableEq

/-- The fields of `FunctionalEvaluationResult`, before its validator has run. -/
structure FunctionalEvaluationResult where
  executionStatus : ExecutionStatus
  testsAttempted : ℕ
  testsPassed : ℕ
  testsFailed : ℕ
  totalTests : ℕ
  qualityScore : Option PyFloat := none
  acceptable : Option Bool
  timedOut : Bool := false
  errorCategory : Option FunctionalErrorCategory := none
  deriving DecidableEq

/-- `consistent_result`. -/
def FunctionalEvaluationResult.consistentResult (result : FunctionalEvaluationResult) : Except Exc Unit :=
  if result.executionStatus = .infrastructureFailure then
    if result.qualityScore ≠ none ∨ result.acceptable ≠ none ∨ result.testsAttempted ≠ 0 ∨
        result.testsPassed ≠ 0 ∨ result.testsFailed ≠ 0 ∨ result.errorCategory = none then
      .error (.raised .valueError "Infrastructure failures must remain unscored")
    else .ok ()
  else if result.qualityScore ≠ some (PyFloat.ratio result.testsPassed result.totalTests) ∨
      (result.testsFailed : ℤ) ≠ result.totalTests - result.testsPassed ∨
      result.totalTests < result.testsAttempted ∨
      result.acceptable ≠ some (decide (result.testsPassed = result.totalTests)) ∨
      decide (result.executionStatus = .passed) ≠ result.acceptable.getD false then
    .error (.raised .valueError "Functional result counts and score are inconsistent")
  else .ok ()

/-- The declared bounds of the counts and the score. -/
def FunctionalEvaluationResult.InBounds (result : FunctionalEvaluationResult) : Prop :=
  0 < result.totalTests ∧
    ∀ score ∈ result.qualityScore, ∃ x, score = .finite x ∧ 0 ≤ x.val ∧ x.val ≤ 1

namespace Harness

/-- What a call of the candidate function does: it returns a value and leaves the arguments as they are now,
or it raises. -/
inductive CallOutcome
  | returned (actual : PyValue) (args : List PyValue)
  | overflow
  | raised

/-- A candidate function, which may keep a state between calls. -/
abbrev Candidate (σ : Type) := List PyJson → σ → CallOutcome × σ

/-- The interpreter of the sandbox: what it loads from a source, and what `json.dumps` does. -/
structure Interpreter (σ : Type) where
  load : PyStr → String → ℕ → Except FunctionalErrorCategory (Candidate σ × σ)
  dumps : PyValue → Except Exc Unit

structure Counts where
  attempted : ℕ := 0
  passed : ℕ := 0
  firstError : Option FunctionalErrorCategory := none

/-- `first_error = first_error or category`. -/
def Counts.fail (counts : Counts) (category : FunctionalErrorCategory) : Counts :=
  { counts with firstError := counts.firstError.or (some category) }

/-- The body of the loop over the test cases, after the call. -/
def runCase (dumps : PyValue → Except Exc Unit) (preserveInputs : Bool) (case : FunctionalTestCase)
    (outcome : CallOutcome) (counts : Counts) : Except Exc Counts :=
  let counts := { counts with attempted := counts.attempted + 1 }
  match outcome with
  | .overflow => .ok (counts.fail .outputLimit)
  | .raised => .ok (counts.fail .runtimeException)
  | .returned actual args =>
    if preserveInputs && !PyValue.pyEqItems args case.args then .ok (counts.fail .wrongOutput)
    else match dumps actual with
      | .error e =>
        if e.isInstanceOf [.typeError, .valueError] then .ok (counts.fail .malformedReturn) else .error e
      | .ok () =>
        if actual.pyType ≠ case.expected.pyType then .ok (counts.fail .malformedReturn)
        else if actual.pyEq case.expected then .ok { counts with passed := counts.passed + 1 }
        else .ok (counts.fail .wrongOutput)

variable {σ : Type}

/-- The loop over the test cases. -/
def runCases (dumps : PyValue → Except Exc Unit) (preserveInputs : Bool) (function : Candidate σ) :
    List FunctionalTestCase → σ → Counts → Except Exc Counts
  | [], _, counts => .ok counts
  | case :: cases, s, counts => do
    let counts ← runCase dumps preserveInputs case (function case.args s).1 counts
    runCases dumps preserveInputs function cases (function case.args s).2 counts

/-- `emit`. -/
def emit (status : ExecutionStatus) (attempted passed failed total : ℕ)
    (category : Option FunctionalErrorCategory) : FunctionalEvaluationResult where
  executionStatus := status
  testsAttempted := attempted
  testsPassed := passed
  testsFailed := failed
  totalTests := total
  qualityScore := some (PyFloat.ratio passed total)
  acceptable := some (decide (passed = total))
  errorCategory := category

/-- `main` of the harness. -/
def main (interpreter : Interpreter σ) (request : FunctionalEvaluationRequest) :
    Except Exc FunctionalEvaluationResult :=
  let total := request.tests.length
  match interpreter.load request.source request.functionName request.parameterCount with
  | .error category => .ok (emit .failed 0 0 total total (some category))
  | .ok (function, s) => do
    let counts ← runCases interpreter.dumps request.preserveInputs function request.tests s {}
    let failed := total - counts.passed
    return emit (if failed = 0 then .passed else .failed) counts.attempted counts.passed failed total
      (if failed = 0 then none else counts.firstError)

/-! ## The calls -/

/-- The calls that a run makes, each with its test case. -/
def calls (function : Candidate σ) : List FunctionalTestCase → σ → List (FunctionalTestCase × CallOutcome)
  | [], _ => []
  | case :: cases, s => (case, (function case.args s).1) :: calls function cases (function case.args s).2

/-- The returned value is the expected one as a typed JSON value, and the inputs are what they were where they
have to be. -/
def exact (preserveInputs : Bool) : FunctionalTestCase × CallOutcome → Bool
  | (case, .returned actual args) =>
    (!preserveInputs || PyValue.typedEqItems args case.args) && actual.typedEq case.expected
  | (_, _) => false

/-- What the harness compares is equal, with a number in it that faces an equal number of another type. -/
def confused (preserveInputs : Bool) : FunctionalTestCase × CallOutcome → Bool
  | (case, .returned actual args) =>
    (!preserveInputs || PyValue.pyEqItems args case.args) &&
    (actual.pyType == case.expected.pyType && actual.pyEq case.expected) &&
    (actual.confuses case.expected || preserveInputs && PyValue.confusesItems args case.args)
  | (_, _) => false

/-- Every value that the run returns can be written as JSON. -/
def Serializable (dumps : PyValue → Except Exc Unit)
    (run : List (FunctionalTestCase × CallOutcome)) : Prop :=
  ∀ call ∈ run, ∀ actual args, call.2 = .returned actual args → dumps actual = .ok ()

/-- What a run has to do: it counts a case as passed exactly where the returned value is the expected one, and
it emits a result with the counts of all cases. -/
structure CountsExactly (interpreter : Interpreter σ) (request : FunctionalEvaluationRequest)
    (run : List (FunctionalTestCase × CallOutcome)) : Prop where
  counted : ∀ call ∈ run, ∀ counts, ∃ counts',
    runCase interpreter.dumps request.preserveInputs call.1 call.2 counts = .ok counts' ∧
    counts'.passed = counts.passed + if exact request.preserveInputs call then 1 else 0
  emitted : ∃ result, main interpreter request = .ok result ∧
    result.testsPassed = run.countP (exact request.preserveInputs)
  counts : ∃ result, main interpreter request = .ok result ∧
    result.totalTests = request.tests.length ∧ result.testsAttempted = result.totalTests ∧
    result.testsPassed + result.testsFailed = result.totalTests ∧
    result.consistentResult = .ok () ∧ result.InBounds

/-! ## The loop -/

/-- The harness counts the call. -/
def passes (preserveInputs : Bool) : FunctionalTestCase × CallOutcome → Bool
  | (case, .returned actual args) =>
    (!preserveInputs || PyValue.pyEqItems args case.args) &&
      (actual.pyType == case.expected.pyType && actual.pyEq case.expected)
  | (_, _) => false

/-- An exact call is one that the harness counts and that does not confuse types. -/
theorem exact_eq (preserveInputs : Bool) (call : FunctionalTestCase × CallOutcome) :
    exact preserveInputs call = (passes preserveInputs call && !confused preserveInputs call) := by
  obtain ⟨case, ⟨actual, args⟩ | _ | _⟩ := call
  · have htype : actual.typedEq case.expected =
        ((actual.pyType == case.expected.pyType) && actual.typedEq case.expected) := by
      cases h : actual.typedEq case.expected with
      | true => rw [PyValue.pyType_eq_of_typedEq h, beq_self_eq_true]; rfl
      | false => rw [Bool.and_false]
    rw [exact, passes, confused, htype, PyValue.typedEq_eq, PyValue.typedEqItems_eq]
    cases preserveInputs <;> cases PyValue.pyEqItems args case.args <;>
      cases actual.pyType == case.expected.pyType <;> cases actual.pyEq case.expected <;>
      simp [Bool.and_comm]
  · rfl
  · rfl

/-- A confused call is one that the harness counts. -/
theorem passes_of_confused {preserveInputs : Bool} {call : FunctionalTestCase × CallOutcome}
    (h : confused preserveInputs call = true) : passes preserveInputs call = true := by
  obtain ⟨case, ⟨actual, args⟩ | _ | _⟩ := call
  · exact (Bool.and_eq_true_iff.mp h).1
  · cases h
  · cases h

variable {dumps : PyValue → Except Exc Unit} {preserveInputs : Bool} {function : Candidate σ}

/-- One round of the loop. -/
theorem runCase_eq {call : FunctionalTestCase × CallOutcome}
    (h : ∀ actual args, call.2 = .returned actual args → dumps actual = .ok ()) (counts : Counts) :
    ∃ counts', runCase dumps preserveInputs call.1 call.2 counts = .ok counts' ∧
      counts'.attempted = counts.attempted + 1 ∧
      counts'.passed = counts.passed + if passes preserveInputs call then 1 else 0 := by
  obtain ⟨case, ⟨actual, args⟩ | _ | _⟩ := call
  · have hpasses : passes preserveInputs (case, .returned actual args) =
        (!(preserveInputs && !PyValue.pyEqItems args case.args) &&
          (actual.pyType == case.expected.pyType && actual.pyEq case.expected)) := by
      rw [passes, Bool.not_and, Bool.not_not]
    rw [hpasses]
    unfold runCase
    dsimp only
    rw [h actual args rfl]
    cases (preserveInputs && !PyValue.pyEqItems args case.args) with
    | true => exact ⟨_, rfl, rfl, rfl⟩
    | false =>
      rw [if_neg Bool.false_ne_true]
      by_cases htype : actual.pyType = case.expected.pyType
      · rw [if_neg (not_not.mpr htype), beq_iff_eq.mpr htype]
        cases actual.pyEq case.expected with
        | true => exact ⟨_, rfl, rfl, rfl⟩
        | false => exact ⟨_, rfl, rfl, rfl⟩
      · rw [if_pos htype, beq_eq_false_iff_ne.mpr htype]
        exact ⟨_, rfl, rfl, rfl⟩
  · exact ⟨_, rfl, rfl, rfl⟩
  · exact ⟨_, rfl, rfl, rfl⟩

/-- The loop counts every case, and as passed those that the comparison accepts. -/
theorem runCases_eq (tests : List FunctionalTestCase) (s : σ)
    (h : Serializable dumps (calls function tests s)) (counts : Counts) :
    ∃ counts', runCases dumps preserveInputs function tests s counts = .ok counts' ∧
      counts'.attempted = counts.attempted + tests.length ∧
      counts'.passed = counts.passed + (calls function tests s).countP (passes preserveInputs) := by
  induction tests generalizing s counts with
  | nil => exact ⟨counts, rfl, rfl, rfl⟩
  | cons case tests ih =>
    obtain ⟨hcase, hrest⟩ := List.forall_mem_cons.mp h
    obtain ⟨counts₁, hrun, hattempted, hpassed⟩ := runCase_eq hcase counts
    obtain ⟨counts₂, hruns, hattempted', hpassed'⟩ := ih _ hrest counts₁
    refine ⟨counts₂, ?_, ?_, ?_⟩
    · rw [runCases, hrun, Except.ok_bind]
      exact hruns
    · rw [hattempted', hattempted, List.length_cons]
      omega
    · rw [hpassed', hpassed, calls, List.countP_cons]
      omega

theorem length_calls (tests : List FunctionalTestCase) (s : σ) :
    (calls function tests s).length = tests.length := by
  induction tests generalizing s with
  | nil => rfl
  | cons case tests ih => rw [calls, List.length_cons, List.length_cons, ih]

/-- The emitted counts pass the validator. -/
theorem consistentResult_emit {passed total : ℕ} (h : passed ≤ total) (category : Option FunctionalErrorCategory) :
    (emit (if total - passed = 0 then .passed else .failed) total passed (total - passed) total
      category).consistentResult = .ok () := by
  have hstatus : (if total - passed = 0 then ExecutionStatus.passed else .failed) ≠ .infrastructureFailure := by
    split
    · intro h
      cases h
    · intro h
      cases h
  have hpassed : decide ((if total - passed = 0 then ExecutionStatus.passed else .failed) = .passed) =
      decide (passed = total) := by
    rw [decide_eq_decide]
    split
    · exact iff_of_true rfl (by omega)
    · exact iff_of_false (fun h => by cases h) (by omega)
  have hfailed : ((total - passed : ℕ) : ℤ) = total - passed := by omega
  unfold FunctionalEvaluationResult.consistentResult
  refine (if_neg hstatus).trans (if_neg ?_)
  intro h
  rcases h with h | h | h | h | h
  · exact h rfl
  · exact h hfailed
  · exact lt_irrefl _ h
  · exact h rfl
  · exact h hpassed

variable {interpreter : Interpreter σ} {request : FunctionalEvaluationRequest} {s : σ}

/-- What the harness emits for a function that it has loaded. -/
theorem main_eq (hload : interpreter.load request.source request.functionName request.parameterCount =
      .ok (function, s))
    (h : Serializable interpreter.dumps (calls function request.tests s)) :
    ∃ passed category, passed = (calls function request.tests s).countP (passes request.preserveInputs) ∧
      passed ≤ request.tests.length ∧ main interpreter request =
        .ok (emit (if request.tests.length - passed = 0 then .passed else .failed) request.tests.length passed
          (request.tests.length - passed) request.tests.length category) := by
  obtain ⟨counts, hrun, hattempted, hpassed⟩ : ∃ counts, runCases _ request.preserveInputs _ _ _ _ = _ ∧ _ :=
    runCases_eq request.tests s h {}
  rw [Nat.zero_add] at hattempted hpassed
  refine ⟨counts.passed, if request.tests.length - counts.passed = 0 then none else counts.firstError,
    hpassed, ?_, ?_⟩
  · rw [hpassed, ← @length_calls _ function request.tests s]
    exact List.countP_le_length
  · rw [main, hload]
    dsimp only
    rw [hrun, Except.ok_bind, hattempted]
    rfl

/-- Every emission accounts for every case. -/
theorem counts_of_main (hload : interpreter.load request.source request.functionName request.parameterCount =
      .ok (function, s))
    (h : Serializable interpreter.dumps (calls function request.tests s)) :
    ∃ result, main interpreter request = .ok result ∧
      result.totalTests = request.tests.length ∧ result.testsAttempted = result.totalTests ∧
      result.testsPassed + result.testsFailed = result.totalTests ∧
      result.consistentResult = .ok () ∧ result.InBounds := by
  obtain ⟨passed, category, -, hle, hmain⟩ := main_eq hload h
  refine ⟨_, hmain, rfl, rfl, Nat.add_sub_of_le hle, consistentResult_emit hle category, ?_, ?_⟩
  · exact List.length_pos_of_ne_nil request.tests_nonempty
  · intro score hscore
    cases hscore
    obtain ⟨x, hx, -, hlow, hhigh⟩ := PyFloat.ratio_eq hle
    exact ⟨x, hx, hlow, hhigh⟩

/-- **A case passes exactly on the expected value where no compared number faces an equal one of another
type.** -/
theorem countsExactly_iff (hload : interpreter.load request.source request.functionName request.parameterCount =
      .ok (function, s))
    (h : Serializable interpreter.dumps (calls function request.tests s)) :
    CountsExactly interpreter request (calls function request.tests s) ↔
      ∀ call ∈ calls function request.tests s, confused request.preserveInputs call = false := by
  constructor
  · intro hexact call hcall
    obtain ⟨counts, hrun, hcounted⟩ := hexact.counted call hcall {}
    obtain ⟨counts', hrun', -, hpassed⟩ := runCase_eq (h call hcall) {}
    cases hrun.symm.trans hrun'
    by_contra hconfused
    rw [Bool.not_eq_false] at hconfused
    have hpass := passes_of_confused hconfused
    rw [exact_eq, hpass, hconfused] at hcounted
    rw [hpass, hcounted] at hpassed
    cases hpassed
  · intro hclear
    have hpasses : ∀ call ∈ calls function request.tests s,
        exact request.preserveInputs call = passes request.preserveInputs call := fun call hcall => by
      rw [exact_eq, hclear call hcall, Bool.not_false, Bool.and_true]
    refine ⟨fun call hcall counts => ?_, ?_, counts_of_main hload h⟩
    · obtain ⟨counts', hrun, -, hpassed⟩ := runCase_eq (h call hcall) counts
      rw [hpasses call hcall]
      exact ⟨counts', hrun, hpassed⟩
    · obtain ⟨passed, category, hpassed, -, hmain⟩ := main_eq hload h
      refine ⟨_, hmain, hpassed.trans (List.countP_congr fun call hcall => ?_)⟩
      rw [hpasses call hcall]

/-- A function that is expected to return `[1]`, and an interpreter that loads one value of it. -/
def sampleRequest : FunctionalEvaluationRequest where
  source := [102]
  functionName := "f"
  parameterCount := 0
  tests := [{ args := [], expected := .list [.int 1] }]
  source_nonempty := List.cons_ne_nil _ _
  tests_nonempty := List.cons_ne_nil _ _

@[inherit_doc sampleRequest]
def sampleInterpreter (value : PyValue) : Interpreter Unit where
  load _ _ _ := .ok (fun _ s => (.returned value [], s), ())
  dumps _ := .ok ()

theorem countsExactly_sample : CountsExactly (sampleInterpreter (.list [.int 1])) sampleRequest
    (calls (fun _ s => (.returned (.list [.int 1]) [], s)) sampleRequest.tests ()) := by
  refine (countsExactly_iff rfl fun _ _ _ _ _ => rfl).mpr fun call hcall => ?_
  cases List.mem_singleton.mp hcall
  rfl

/-- A function that returns `[True]` passes the test that expects `[1]`. -/
theorem true_passes_for_one : ¬ CountsExactly (sampleInterpreter (.list [.bool true])) sampleRequest
    (calls (fun _ s => (.returned (.list [.bool true]) [], s)) sampleRequest.tests ()) := by
  intro hexact
  obtain ⟨_, hmain, hpassed⟩ := hexact.emitted
  cases hmain
  have hcounted : (1 : ℕ) = 0 := hpassed
  cases hcounted

end Harness

end RouteLLM
