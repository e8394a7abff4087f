import RouteLLM.Application.Inference
import RouteLLM.Providers.Completion
import RouteLLM.Routing.CostBound

/-!
# What an error tells of an answer

The diagnostics of an error of the adapter are written next to the results of a benchmark. Whatever the gateway has
answered, they have fields of one list, each once and in its order, and hold numbers, flags, prices and tokens: a text
of an answer reaches them only as a token of at most 256 safe characters.
-/

namespace RouteLLM

namespace VercelGatewayProvider

/-- The fields of `_response_identifiers`. -/
def identifierFields : List String := ["http_status", "vercel_request_id", "request_id", "trace_id"]

/-- The fields that `_error_diagnostics` adds. -/
def errorFields : List String := ["gateway_error_code", "gateway_error_type", "upstream_error_code"]

/-- The fields that `_completion_diagnostics` adds. -/
def completionFields : List String :=
  ["termination_reason", "provider_termination_reason", "finish_reason", "content_empty", "output_token_limit",
    "input_tokens", "output_tokens", "adapter_latency_ms", "estimated_cost_usd", "completion_tokens",
    "reasoning_tokens", "reasoning_field_present"]

/-- All fields of the diagnostics. -/
def diagnosticFields : List String := identifierFields ++ (errorFields ++ completionFields)

/-- A flag, a number that is not negative, a token, or the text of a price. -/
inductive SafeDiagnostic : PyJson → Prop
  | flag (b : Bool) : SafeDiagnostic (.bool b)
  | count (n : ℕ) : SafeDiagnostic (.int n)
  | duration (x : Binary64) (h : 0 ≤ x.val) : SafeDiagnostic (.float (.finite x))
  | token {s : PyStr} (h : safeValue (.str s) = some s) : SafeDiagnostic (.str s)
  | price (cost : Money) : SafeDiagnostic (.str (cost.dec.str.map Char.toNat))

/-- Diagnostics with some of the fields, in their order, and safe values. -/
structure SafeDiagnostics (fields : List String) (diagnostics : Diagnostics) : Prop where
  known : (diagnostics.map Prod.fst).Sublist (fields.map PyStr.ofString)
  safe : ∀ e ∈ diagnostics, SafeDiagnostic e.2

namespace SafeDiagnostics

variable {fields others : List String} {diagnostics more : Diagnostics}

theorem nil : SafeDiagnostics fields [] := ⟨List.nil_sublist _, fun _ h => absurd h List.not_mem_nil⟩

theorem single {field : String} {value : PyJson} (h : SafeDiagnostic value) :
    SafeDiagnostics [field] [entry field value] :=
  ⟨List.Sublist.refl _, fun _ he => List.mem_singleton.mp he ▸ h⟩

theorem append (h : SafeDiagnostics fields diagnostics) (h' : SafeDiagnostics others more) :
    SafeDiagnostics (fields ++ others) (diagnostics ++ more) := by
  refine ⟨?_, fun e he => ?_⟩
  · rw [List.map_append, List.map_append]
    exact h.known.append h'.known
  · rcases List.mem_append.mp he with he | he
    · exact h.safe e he
    · exact h'.safe e he

theorem mono (h : SafeDiagnostics fields diagnostics) (hsub : fields.Sublist others) :
    SafeDiagnostics others diagnostics :=
  ⟨h.known.trans (hsub.map _), h.safe⟩

end SafeDiagnostics

/-- A safe value is the string itself. -/
theorem token_of_safeValue {value : PyJson} {s : PyStr} (h : safeValue value = some s) :
    safeValue (.str s) = some s := by
  cases value with
  | str t =>
    cases t with
    | nil => cases h
    | cons c cs =>
      have hsame := h
      rw [safeValue] at hsame
      split at hsame
      · cases hsame
        exact h
      · cases hsame
  | _ => cases h

theorem safeEntry_safe (field : String) (value : PyJson) : SafeDiagnostics [field] (safeEntry field value) := by
  rw [safeEntry]
  cases h : safeValue value with
  | none => exact .nil
  | some s => exact .single (.token (token_of_safeValue h))

theorem countEntry_safe (field : String) (value : PyJson) : SafeDiagnostics [field] (countEntry field value) := by
  cases value with
  | int n =>
    rw [countEntry]
    split
    · rename_i hn
      obtain ⟨m, rfl⟩ := Int.eq_ofNat_of_zero_le hn
      exact .single (.count m)
    · exact .nil
  | _ => exact .nil

theorem responseIdentifiers_safe (response : GatewayResponse) :
    SafeDiagnostics identifierFields (responseIdentifiers response) := by
  simp only [responseIdentifiers, List.flatMap_cons, List.flatMap_nil, List.append_nil]
  exact (SafeDiagnostics.single (.count _)).append
    ((safeEntry_safe _ _).append ((safeEntry_safe _ _).append (safeEntry_safe _ _)))

/-- The error of a body is told by its codes. -/
theorem errorDiagnostics_safe (response : GatewayResponse) (body : PyJson) :
    SafeDiagnostics (identifierFields ++ errorFields) (errorDiagnostics response body) := by
  have hidentifiers := responseIdentifiers_safe response
  have hbare := hidentifiers.mono (List.sublist_append_left _ errorFields)
  unfold errorDiagnostics
  dsimp only
  split
  · split
    · rename_i error herror
      simp only [List.flatMap_cons, List.flatMap_nil, List.append_nil, List.append_assoc]
      refine hidentifiers.append ((safeEntry_safe _ _).append ((safeEntry_safe _ _).append ?_))
      generalize hupstream : List.findSome? _ _ = upstream
      cases upstream with
      | none => exact .nil
      | some s =>
        obtain ⟨key, -, hkey⟩ := List.exists_of_findSome?_eq_some hupstream
        split at hkey
        · exact .single (.token (token_of_safeValue hkey))
        · cases hkey
    · exact hbare
  · exact hbare

/-- The reason of a termination and the token that the provider gave for it. -/
theorem termination_token {choice : PyJson} {raw : PyStr} (h : (termination choice).2 = some raw) :
    safeValue (.str raw) = some raw := by
  cases choice with
  | dict choice =>
    rw [termination] at h
    split at h
    · cases h
    · rename_i found hfound
      cases h
      exact token_of_safeValue (Option.filter_eq_some_iff.mp hfound).1
  | _ => cases h

theorem reason_token (reason : TerminationReason) :
    safeValue (.str (PyStr.ofString reason.value)) = some (PyStr.ofString reason.value) := by
  cases reason <;> rfl

theorem completionDiagnostics_safe (response : GatewayResponse) (body : GatewayBody) (outputTokenLimit : ℕ)
    {latency : Binary64} (hlatency : 0 ≤ latency.val) (cost : Money) (contentEmpty : Bool) :
    SafeDiagnostics (identifierFields ++ completionFields)
      (completionDiagnostics response body outputTokenLimit latency cost contentEmpty) := by
  have hraw : SafeDiagnostics ["provider_termination_reason", "finish_reason"]
      (((termination body.choice).2.map fun raw => [entry "provider_termination_reason" (.str raw),
        entry "finish_reason" (.str raw)]).getD []) := by
    cases h : (termination body.choice).2 with
    | none => exact .nil
    | some raw =>
      have htoken := SafeDiagnostic.token (termination_token h)
      exact (SafeDiagnostics.single htoken).append (.single htoken)
  have hfixed : SafeDiagnostics ["content_empty", "output_token_limit", "input_tokens", "output_tokens",
      "adapter_latency_ms", "estimated_cost_usd"]
      [entry "content_empty" (.bool contentEmpty), entry "output_token_limit" (.int outputTokenLimit),
        entry "input_tokens" (.int body.inputs), entry "output_tokens" (.int body.outputs),
        entry "adapter_latency_ms" (.float (.finite latency)),
        entry "estimated_cost_usd" (.str (cost.dec.str.map Char.toNat))] :=
    (SafeDiagnostics.single (.flag _)).append ((SafeDiagnostics.single (.count _)).append
      ((SafeDiagnostics.single (.count _)).append ((SafeDiagnostics.single (.count _)).append
        ((SafeDiagnostics.single (.duration _ hlatency)).append (.single (.price _))))))
  simp only [completionDiagnostics, List.append_assoc]
  exact (responseIdentifiers_safe response).append ((SafeDiagnostics.single (.token (reason_token _))).append
    (hraw.append (hfixed.append ((countEntry_safe _ _).append ((countEntry_safe _ _).append (.single (.flag _)))))))

/-! ## The errors -/

section
variable {provider : VercelGatewayProvider} {request : InferenceRequest} {response : GatewayResponse}
  {latency : {x : Binary64 // 0 ≤ x.val}} {e : Exc}

theorem identifiers_known (response : GatewayResponse) :
    SafeDiagnostics diagnosticFields (responseIdentifiers response) :=
  (responseIdentifiers_safe response).mono (List.sublist_append_left _ _)

theorem payload_safe (h : provider.payload request = .error e) : SafeDiagnostics diagnosticFields e.diagnostics := by
  rw [payload] at h
  dsimp only at h
  split at h
  · cases h
    exact .nil
  · split at h
    · cases h
      exact .nil
    · cases h

theorem failed_safe (response : GatewayResponse) : SafeDiagnostics diagnosticFields (failed response).diagnostics := by
  have herror : ∀ body, SafeDiagnostics diagnosticFields (errorDiagnostics response body) := fun body =>
    (errorDiagnostics_safe response body).mono
      ((List.Sublist.refl identifierFields).append (List.sublist_append_left errorFields completionFields))
  rw [failed]
  dsimp only
  split
  · exact herror _
  · split
    · exact herror .null
    · exact .nil

theorem accept_safe {body : GatewayBody} (h : provider.accept request response latency body = .error e) :
    SafeDiagnostics diagnosticFields e.diagnostics := by
  have hcompletion : ∀ cost contentEmpty, SafeDiagnostics diagnosticFields (completionDiagnostics response body
      request.maxOutputTokens.val latency.val cost contentEmpty) := fun cost contentEmpty =>
    (completionDiagnostics_safe response body _ latency.property cost contentEmpty).mono
      ((List.Sublist.refl identifierFields).append (List.sublist_append_right errorFields completionFields))
  rw [accept] at h
  split at h
  · cases h
    exact identifiers_known response
  · dsimp only at h
    split at h
    · cases h
      exact hcompletion _ _
    · split at h
      · cases h
        exact hcompletion _ _
      · cases h

theorem completed_safe (h : provider.completed request response latency = .error e) :
    SafeDiagnostics diagnosticFields e.diagnostics := by
  rw [completed] at h
  split at h
  · exact accept_safe h
  · cases h
    exact identifiers_known response
  · split at h
    · cases h
      exact identifiers_known response
    · cases h
      exact .nil

theorem SafeDiagnostics.nodup {diagnostics : Diagnostics} (h : SafeDiagnostics diagnosticFields diagnostics) :
    (diagnostics.map Prod.fst).Nodup := by
  have hfields : diagnosticFields.Nodup := by decide +kernel
  exact (hfields.map PyStr.ofString_injective).sublist h.known

/-- **No error of the adapter tells the text of an answer.** Whatever the gateway answers and however the exchange ends,
the diagnostics have fields of one list, each at most once, with numbers, flags, prices and safe tokens. -/
theorem generateWithTimeout_safe {post : GatewayPayload → PostOutcome}
    (h : provider.generateWithTimeout request post = .error e) :
    SafeDiagnostics diagnosticFields e.diagnostics ∧ (e.diagnostics.map Prod.fst).Nodup := by
  suffices hsafe : SafeDiagnostics diagnosticFields e.diagnostics from ⟨hsafe, hsafe.nodup⟩
  rw [generateWithTimeout] at h
  cases hpayload : provider.payload request with
  | error raised =>
    rw [hpayload] at h
    cases h
    exact payload_safe hpayload
  | ok payload =>
    rw [hpayload, Except.ok_bind] at h
    split at h
    · cases h
      exact .nil
    · cases h
      exact .nil
    · split at h
      · exact completed_safe h
      · cases h
        exact failed_safe _

end

/-- A rejection with a code, and with a type that is no token. -/
def tooManyRequests : GatewayResponse where
  statusCode := 429
  headers _ := some (PyStr.ofString "req-1")
  json := .ok (.dict [(PyStr.ofString "error", .dict [
    (PyStr.ofString "code", .str (PyStr.ofString "rate_limit")),
    (PyStr.ofString "type", .str (PyStr.ofString "Too many requests: slow down"))])])

/-- The fields that an error tells. -/
def toldFields : Except Exc InferenceResponse → List PyStr
  | .error e => e.diagnostics.map Prod.fst
  | .ok _ => []

/-- The code of the rejection is told, and its type is not. -/
theorem generateWithTimeout_safe_sample : ∃ e : Exc,
    RoutingDecisionService.sampleProvider.generateWithTimeout .sample (fun _ => .response tooManyRequests ⟨0, le_rfl⟩) =
      .error e ∧
    e.diagnostics.map Prod.fst = ["http_status", "vercel_request_id", "request_id", "trace_id",
      "gateway_error_code"].map PyStr.ofString ∧
    SafeDiagnostics diagnosticFields e.diagnostics ∧ (e.diagnostics.map Prod.fst).Nodup := by
  have htold : toldFields (RoutingDecisionService.sampleProvider.generateWithTimeout .sample
      (fun _ => .response tooManyRequests ⟨0, le_rfl⟩)) = ["http_status", "vercel_request_id", "request_id", "trace_id",
        "gateway_error_code"].map PyStr.ofString := by decide +kernel
  cases hanswer : RoutingDecisionService.sampleProvider.generateWithTimeout .sample
      (fun _ => .response tooManyRequests ⟨0, le_rfl⟩) with
  | ok completion =>
    rw [hanswer] at htold
    cases htold
  | error e =>
    rw [hanswer] at htold
    exact ⟨e, rfl, htold, generateWithTimeout_safe hanswer⟩

end VercelGatewayProvider

end RouteLLM
