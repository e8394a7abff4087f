import RouteLLM.Providers.Vercel

/-!
# The answers of the gateway

The second half of `generate_with_timeout`: what the adapter makes of the answer of the gateway. A
successful answer with its reported usage makes a completion, which the adapter returns, or raises as
a rejection if its text is blank or was cut off. The answer is what `httpx` read: the status, the
headers, and the outcome of `response.json()`, whose integers have at most 4300 digits.
-/

namespace RouteLLM

/-- An answer of the gateway. -/
structure GatewayResponse where
  statusCode : ℕ
  headers : String → Option PyStr
  json : Except ExcClass PyJson

/-- How the exchange with the gateway ended, within the effective timeout. -/
inductive PostOutcome
  | timeout
  | requestError
  | response (response : GatewayResponse) (latency : {x : Binary64 // 0 ≤ x.val})

namespace VercelGatewayProvider

/-! ## Safe values -/

def isAsciiAlnum (n : ℕ) : Bool :=
  (48 ≤ n && n ≤ 57) || (65 ≤ n && n ≤ 90) || (97 ≤ n && n ≤ 122)

/-- `_safe_value`: a string that `_SAFE_VALUE` matches in full. -/
def safeValue : PyJson → Option PyStr
  | .str (c :: cs) =>
    if isAsciiAlnum c ∧ cs.length ≤ 255 ∧
        cs.all fun n => isAsciiAlnum n || (PyStr.ofString "._:/-").contains n then
      some (c :: cs)
    else none
  | _ => none

/-- `str.casefold()` of an ASCII text. -/
def casefold (s : PyStr) : PyStr := s.map fun n => if 65 ≤ n ∧ n ≤ 90 then n + 32 else n

/-- `.get(key)` of a dictionary. -/
def get (entries : List (PyStr × PyJson)) (key : String) : PyJson :=
  (entries.lookup (PyStr.ofString key)).getD .null

/-- The reason of a normalized finish reason. -/
def terminationOf (normalized : PyStr) : TerminationReason :=
  let isOneOf (spellings : List String) : Bool := (spellings.map PyStr.ofString).contains normalized
  if isOneOf ["stop", "end_turn", "end", "complete", "completed"] then .complete
  else if isOneOf ["length", "max_tokens", "max_output_tokens", "token_limit"] then .length
  else if isOneOf ["tool_call", "tool_calls", "function_call"] then .toolCall
  else if isOneOf ["content_filter", "content_filtered", "safety", "blocked"] then .contentFilter
  else .other

/-- `_termination`. -/
def termination : PyJson → TerminationReason × Option PyStr
  | .dict choice =>
    let raw := safeValue ((get choice "finish_reason").or
      ((get choice "finishReason").or (get choice "stop_reason")))
    match raw.filter (·.length ≤ 64) with
    | none => (.unknown, none)
    | some raw => (terminationOf (casefold raw), some raw)
  | _ => (.unknown, none)

/-! ## Diagnostics -/

/-- An entry of the diagnostics. -/
def entry (field : String) (value : PyJson) : PyStr × PyJson := (PyStr.ofString field, value)

/-- An entry of the diagnostics for a value that is safe. -/
def safeEntry (field : String) (value : PyJson) : Diagnostics :=
  ((safeValue value).map fun s => entry field (.str s)).toList

/-- `_response_identifiers`. -/
def responseIdentifiers (response : GatewayResponse) : Diagnostics :=
  entry "http_status" (.int response.statusCode) ::
    [("x-vercel-id", "vercel_request_id"), ("x-request-id", "request_id"),
      ("traceparent", "trace_id")].flatMap fun (header, field) =>
        safeEntry field ((response.headers header).elim .null .str)

/-- `_error_diagnostics`. -/
def errorDiagnostics (response : GatewayResponse) (body : PyJson) : Diagnostics :=
  let diagnostics := responseIdentifiers response
  match body with
  | .dict body =>
    match get body "error" with
    | .dict error =>
      let upstream := ["provider_error", "providerError", "cause"].findSome? fun key =>
        match get error key with
        | .dict nested => safeValue ((get nested "code").or (get nested "type"))
        | _ => none
      diagnostics ++
        [("code", "gateway_error_code"), ("type", "gateway_error_type")].flatMap
          (fun (source, field) => safeEntry field (get error source)) ++
        (upstream.map fun s => entry "upstream_error_code" (.str s)).toList
    | _ => diagnostics
  | _ => diagnostics

/-- A token count of the diagnostics: an integer that is not negative. -/
def countEntry (field : String) : PyJson → Diagnostics
  | .int n => if 0 ≤ n then [entry field (.int n)] else []
  | _ => []

/-! ## The completion of a body -/

/-- What a successful body holds: its choice and message, its text, and its reported usage. -/
structure GatewayBody where
  choice : PyJson
  message : List (PyStr × PyJson)
  usage : List (PyStr × PyJson)
  content : PyStr
  inputs : ℕ
  outputs : ℕ

/-- Why a successful body is not read. -/
inductive BodyError
  | raised (cls : ExcClass)
  | missingUsage

/-- `value[key]`. -/
def item (value : PyJson) (key : String) : Except BodyError PyJson :=
  match value with
  | .dict entries =>
    match entries.lookup (PyStr.ofString key) with
    | some found => .ok found
    | none => .error (.raised .keyError)
  | _ => .error (.raised .typeError)

/-- `value[0]`. -/
def firstItem : PyJson → Except BodyError PyJson
  | .list (found :: _) => .ok found
  | .str (c :: _) => .ok (.str [c])
  | .list [] | .str [] => .error (.raised .indexError)
  | .dict _ => .error (.raised .keyError)
  | _ => .error (.raised .typeError)

/-- A reported count: an integer that is not negative. -/
def tokenCount : PyJson → Except BodyError ℕ
  | .int n => if n < 0 then .error (.raised .valueError) else .ok n.toNat
  | _ => .error (.raised .valueError)

/-- The text of a message. -/
def contentOf : PyJson → Except BodyError PyStr
  | .str content => .ok content
  | _ => .error (.raised .valueError)

/-- The reported usage: a dictionary with both counts. -/
def usageOf : PyJson → Except BodyError (List (PyStr × PyJson) × PyJson × PyJson)
  | .dict usage =>
    match usage.lookup (PyStr.ofString "prompt_tokens"),
      usage.lookup (PyStr.ofString "completion_tokens") with
    | some inputs, some outputs => .ok (usage, inputs, outputs)
    | _, _ => .error .missingUsage
  | _ => .error .missingUsage

/-- The entries of a value that has been subscripted with a string. -/
def entriesOf : PyJson → List (PyStr × PyJson)
  | .dict entries => entries
  | _ => []

/-- A successful body as the adapter reads it. -/
def readBody (json : Except ExcClass PyJson) : Except BodyError GatewayBody := do
  let body ← json.mapError .raised
  let choices ← item body "choices"
  let choice ← firstItem choices
  let message ← item choice "message"
  let found ← item message "content"
  let content ← contentOf found
  let (usage, promptTokens, completionTokens) ← usageOf (get (entriesOf body) "usage")
  let inputs ← tokenCount promptTokens
  let outputs ← tokenCount completionTokens
  return { choice, message := entriesOf message, usage, content, inputs, outputs }

/-- `_completion_diagnostics`, of a body whose completion is rejected. -/
def completionDiagnostics (response : GatewayResponse) (body : GatewayBody)
    (outputTokenLimit : ℕ) (latency : Binary64) (cost : Money) (contentEmpty : Bool) :
    Diagnostics :=
  let (reason, raw) := termination body.choice
  responseIdentifiers response ++
    [entry "termination_reason" (.str (PyStr.ofString reason.value))] ++
    (raw.map fun raw => [entry "provider_termination_reason" (.str raw),
      entry "finish_reason" (.str raw)]).getD [] ++
    [entry "content_empty" (.bool contentEmpty),
      entry "output_token_limit" (.int outputTokenLimit),
      entry "input_tokens" (.int body.inputs),
      entry "output_tokens" (.int body.outputs),
      entry "adapter_latency_ms" (.float (.finite latency)),
      entry "estimated_cost_usd" (.str (cost.dec.str.map Char.toNat))] ++
    countEntry "completion_tokens" (get body.usage "completion_tokens") ++
    countEntry "reasoning_tokens"
      (get (entriesOf (get body.usage "completion_tokens_details")) "reasoning_tokens") ++
    [entry "reasoning_field_present" (.bool
      (["reasoning", "reasoning_content", "reasoning_details"].any fun key =>
        (get body.message key).truthy))]

/-- What the adapter makes of a body that it has read. A text with a surrogate is not one that
`InferenceResponse` accepts. -/
def accept (provider : VercelGatewayProvider) (request : InferenceRequest)
    (response : GatewayResponse) (latency : {x : Binary64 // 0 ≤ x.val}) (body : GatewayBody) :
    Except Exc InferenceResponse :=
  match body.content.text? with
  | none => .error (.gateway .malformedResponse (responseIdentifiers response))
  | some text =>
    let (reason, raw) := termination body.choice
    let completion := provider.completion text body.inputs body.outputs
      ⟨latency.val.val, latency.property⟩ reason (raw.bind PyStr.text?)
    let diagnostics := completionDiagnostics response body request.maxOutputTokens.val latency.val
      completion.estimatedCostUsd
    if PyStr.strip text.toList = [] then
      .error (.completionRejected .emptyResponse completion (diagnostics true) (.inl rfl))
    else if reason = .length then
      .error (.completionRejected .outputBudgetExhaustion completion (diagnostics false) (.inr rfl))
    else .ok completion

/-- The classes that the reading of a body is expected to raise. -/
def malformed : List ExcClass := [.keyError, .indexError, .typeError, .valueError, .validationError]

/-- What the adapter makes of a successful answer. -/
def completed (provider : VercelGatewayProvider) (request : InferenceRequest)
    (response : GatewayResponse) (latency : {x : Binary64 // 0 ≤ x.val}) :
    Except Exc InferenceResponse :=
  match readBody response.json with
  | .ok body => provider.accept request response latency body
  | .error .missingUsage => .error (.gateway .missingUsage (responseIdentifiers response))
  | .error (.raised cls) =>
    if malformed.any cls.isSubclass then
      .error (.gateway .malformedResponse (responseIdentifiers response))
    else .error (.raised cls "")

/-- The category of an answer that is not successful. -/
def failureCategory (statusCode : ℕ) (diagnostics : Diagnostics) : GatewayErrorCategory :=
  if statusCode = 400 ∨ statusCode = 422 then
    let code := get diagnostics "gateway_error_code"
    let isOneOf (codes : List String) : Bool :=
      codes.any fun c => match code with
        | .str s => s = PyStr.ofString c
        | _ => false
    if isOneOf ["model_not_found", "invalid_model"] then .invalidModel
    else if isOneOf ["context_length_exceeded", "context_window_exceeded"] then .contextLimit
    else .invalidRequest
  else if statusCode = 401 ∨ statusCode = 403 then .authentication
  else if statusCode = 404 then .invalidModel
  else if statusCode = 429 then .rateLimit
  else if statusCode = 408 ∨ statusCode = 504 then .timeout
  else .upstream

/-- What the adapter raises on an answer that is not successful. -/
def failed (response : GatewayResponse) : Exc :=
  let raisedWith (body : PyJson) : Exc :=
    let diagnostics := errorDiagnostics response body
    .gateway (failureCategory response.statusCode diagnostics) diagnostics
  match response.json with
  | .ok body => raisedWith body
  | .error cls => if cls.isSubclass .valueError then raisedWith .null else .raised cls ""

/-- `generate_with_timeout`, over the exchange of the payload. -/
def generateWithTimeout (provider : VercelGatewayProvider) (request : InferenceRequest)
    (post : GatewayPayload → PostOutcome) : Except Exc InferenceResponse := do
  let payload ← provider.payload request
  match post payload with
  | .timeout => .error (.gateway .timeout [])
  | .requestError => .error (.gateway .upstream [])
  | .response response latency =>
    if 200 ≤ response.statusCode ∧ response.statusCode ≤ 299 then
      provider.completed request response latency
    else .error (failed response)

/-! ## What is refused -/

variable {provider : VercelGatewayProvider} {request : InferenceRequest}
  {response : GatewayResponse} {latency : {x : Binary64 // 0 ≤ x.val}}

/-- The usage that a body reports. -/
def ReportsUsage (json : Except ExcClass PyJson) (inputs outputs : ℕ) : Prop :=
  ∃ body usage, json = .ok (.dict body) ∧ get body "usage" = .dict usage ∧
    usage.lookup (PyStr.ofString "prompt_tokens") = some (.int inputs) ∧
    usage.lookup (PyStr.ofString "completion_tokens") = some (.int outputs)

/-- A completion of a registered model: the model's id and provider, the reported usage, and the
exact price of this usage. -/
structure CompletionOf (model : ModelConfig) (response : GatewayResponse)
    (completion : InferenceResponse) : Prop where
  modelId : completion.modelId = model.modelId
  provider : completion.provider = model.provider
  usage : ReportsUsage response.json completion.inputTokens completion.outputTokens
  cost : completion.estimatedCostUsd.toRat =
    (completion.inputTokens * model.inputCostPer1mTokens.toRat +
      completion.outputTokens * model.outputCostPer1mTokens.toRat) / 10 ^ 6

/-- The completions that the adapter refuses: the text is blank, or was cut off. -/
def Refused (completion : InferenceResponse) : Prop :=
  PyStr.strip completion.text.toList = [] ∨ completion.terminationReason = .length

theorem item_eq_ok {value found : PyJson} {key : String} (h : item value key = .ok found) :
    ∃ entries, value = .dict entries := by
  cases value with
  | dict entries => exact ⟨entries, rfl⟩
  | _ => cases h

theorem tokenCount_eq_ok {value : PyJson} {n : ℕ} (h : tokenCount value = .ok n) :
    value = .int n := by
  cases value with
  | int m =>
    obtain ⟨hm, h⟩ := Except.guard_eq_ok.mp h
    cases h
    rw [Int.toNat_of_nonneg (not_lt.mp hm)]
  | _ => cases h

theorem usageOf_eq_ok {value inputs outputs : PyJson} {usage : List (PyStr × PyJson)}
    (h : usageOf value = .ok (usage, inputs, outputs)) :
    value = .dict usage ∧ usage.lookup (PyStr.ofString "prompt_tokens") = some inputs ∧
      usage.lookup (PyStr.ofString "completion_tokens") = some outputs := by
  cases value with
  | dict entries =>
    rw [usageOf] at h
    split at h
    · rename_i hinputs houtputs
      cases h
      exact ⟨rfl, hinputs, houtputs⟩
    · cases h
  | _ => cases h

/-- A body that is read reports the usage that is read from it. -/
theorem reportsUsage_of_readBody {json : Except ExcClass PyJson} {body : GatewayBody}
    (h : readBody json = .ok body) : ReportsUsage json body.inputs body.outputs := by
  obtain ⟨value, hjson, h⟩ := Except.bind_eq_ok.mp h
  obtain ⟨choices, hchoices, h⟩ := Except.bind_eq_ok.mp h
  obtain ⟨choice, -, h⟩ := Except.bind_eq_ok.mp h
  obtain ⟨message, -, h⟩ := Except.bind_eq_ok.mp h
  obtain ⟨found, -, h⟩ := Except.bind_eq_ok.mp h
  obtain ⟨content, -, h⟩ := Except.bind_eq_ok.mp h
  obtain ⟨⟨usage, inputs, outputs⟩, husage, h⟩ := Except.bind_eq_ok.mp h
  obtain ⟨i, hi, h⟩ := Except.bind_eq_ok.mp h
  obtain ⟨o, ho, h⟩ := Except.bind_eq_ok.mp h
  cases h
  obtain ⟨entries, rfl⟩ := item_eq_ok hchoices
  obtain ⟨hdict, hinputs, houtputs⟩ := usageOf_eq_ok husage
  rw [tokenCount_eq_ok hi] at hinputs
  rw [tokenCount_eq_ok ho] at houtputs
  refine ⟨entries, usage, ?_, hdict, hinputs, houtputs⟩
  cases json with
  | error cls => cases hjson
  | ok v =>
    cases hjson
    rfl

/-- A completion that is accepted or refused is one of the adapter's model. -/
theorem completionOf_completion {body : GatewayBody} (h : readBody response.json = .ok body)
    (text : String) (duration : ℚ≥0) (reason : TerminationReason) (raw : Option String) :
    CompletionOf provider.model response
      (provider.completion text body.inputs body.outputs duration reason raw) where
  modelId := rfl
  provider := rfl
  usage := reportsUsage_of_readBody h
  cost := toRat_calculateCost body.inputs body.outputs provider.model

/-- A rejection carries a completion of the adapter's model that is refused. -/
theorem completed_eq_rejected {category : GatewayErrorCategory} {completion : InferenceResponse}
    {diagnostics : Diagnostics} {supported}
    (h : provider.completed request response latency =
      .error (.completionRejected category completion diagnostics supported)) :
    CompletionOf provider.model response completion ∧ Refused completion := by
  unfold completed at h
  split at h
  · rename_i body hbody
    unfold accept at h
    split at h
    · cases h
    · dsimp only at h
      split at h
      · rename_i hblank
        cases h
        exact ⟨completionOf_completion hbody .., .inl hblank⟩
      · split at h
        · rename_i hlength
          cases h
          exact ⟨completionOf_completion hbody .., .inr hlength⟩
        · cases h
  · cases h
  · split at h
    · cases h
    · cases h

/-- A completion that is returned is one of the adapter's model that is not refused. -/
theorem completed_eq_ok {completion : InferenceResponse}
    (h : provider.completed request response latency = .ok completion) :
    CompletionOf provider.model response completion ∧ ¬ Refused completion := by
  unfold completed at h
  split at h
  · rename_i body hbody
    unfold accept at h
    split at h
    · cases h
    · obtain ⟨hblank, h⟩ := Except.guard_eq_ok.mp h
      obtain ⟨hlength, h⟩ := Except.guard_eq_ok.mp h
      cases h
      exact ⟨completionOf_completion hbody .., not_or.mpr ⟨hblank, hlength⟩⟩
  · cases h
  · split at h
    · cases h
    · cases h

/-- Only a successful answer is rejected. -/
theorem generateWithTimeout_eq_rejected {category : GatewayErrorCategory}
    {completion : InferenceResponse} {diagnostics : Diagnostics} {supported}
    (h : provider.generateWithTimeout request (fun _ => .response response latency) =
      .error (.completionRejected category completion diagnostics supported)) :
    CompletionOf provider.model response completion ∧ Refused completion := by
  rcases Except.bind_eq_error.mp h with h | ⟨payload, -, h⟩
  · unfold payload at h
    dsimp only at h
    split_ifs at h <;> cases h
  · dsimp only at h
    split at h
    · exact completed_eq_rejected h
    · unfold failed at h
      dsimp only at h
      split at h
      · cases h
      · split at h
        · cases h
        · cases h

/-- Only a successful answer is returned. -/
theorem generateWithTimeout_eq_ok {completion : InferenceResponse}
    (h : provider.generateWithTimeout request (fun _ => .response response latency) =
      .ok completion) :
    CompletionOf provider.model response completion ∧ ¬ Refused completion := by
  obtain ⟨payload, -, h⟩ := Except.bind_eq_ok.mp h
  dsimp only at h
  split at h
  · exact completed_eq_ok h
  · cases h

end VercelGatewayProvider

end RouteLLM
