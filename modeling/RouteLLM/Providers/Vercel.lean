import RouteLLM.Errors
import RouteLLM.Lib.Except
import RouteLLM.Pricing

/-!
# The gateway provider

`providers/vercel.py` with the upstream table of `providers/gateway_config.py`: the payload that is
sent for a request, and the completion that a successful answer with its reported usage makes.
-/

namespace RouteLLM

/-- `UPSTREAM_PROVIDERS`: the single upstream provider that each gateway model may use. -/
def upstreamProviders : List (String × String) :=
  [("openai/gpt-4.1-nano", "openai"),
   ("openai/gpt-4.1-mini", "openai"),
   ("anthropic/claude-sonnet-4.6", "anthropic"),
   ("nvidia/nemotron-3.5-lightning", "runinfra"),
   ("openai/gpt-6-luna", "openai"),
   ("google/gemini-3-flash", "google"),
   ("anthropic/claude-sonnet-5", "anthropic"),
   ("anthropic/claude-opus-5.5", "anthropic"),
   ("openai/gpt-6-astra", "openai"),
   ("anthropic/claude-fable-5.1", "anthropic")]

/-- `VercelGatewayProvider`, with the check of its constructor. -/
structure VercelGatewayProvider where
  model : ModelConfig
  apiKey : Option String
  upstream : String
  provider_vercel : model.provider.value = "vercel"
  upstream_known : upstreamProviders.lookup model.providerModelName.value = some upstream

/-- One chat message. -/
structure GatewayMessage where
  role : String
  content : String
  deriving DecidableEq

/-- The body of the request to the gateway. An absent entry is left out of the JSON. -/
structure GatewayPayload where
  model : String
  messages : List GatewayMessage
  stream : Bool
  maxTokens : ℕ
  only : List String
  thinkingLevel : Option String
  temperature : Option Binary64
  reasoningEffort : Option String
  deriving DecidableEq

namespace VercelGatewayProvider

/-- The messages of a request. -/
def messages (request : InferenceRequest) : List GatewayMessage :=
  (request.systemPrompt.map fun s => ⟨"system", s⟩).toList ++ [⟨"user", request.prompt⟩]

/-- The payload that `generate_with_timeout` posts, or the error it raises before it does. -/
def payload (provider : VercelGatewayProvider) (request : InferenceRequest) :
    Except Exc GatewayPayload :=
  let model := provider.model
  if ¬ model.enabled then .error (.raised .modelDisabledError "Model is disabled")
  else if (provider.apiKey.map fun key => PyStr.strip key.toList).getD [] = [] then
    .error (.gateway .notConfigured [])
  else
    let native := model.reasoningControl = .googleProviderNative
    .ok {
      model := model.providerModelName.value
      messages := messages request
      stream := false
      maxTokens := request.maxOutputTokens.val
      only := [provider.upstream]
      thinkingLevel := if native then model.reasoningEffort.map (·.value) else none
      temperature := if model.capabilities.supportsTemperature then some request.temperature
        else none
      reasoningEffort := if native then none else model.reasoningEffort.map (·.value) }

/-- The completion that a successful answer makes: its cost is that of the reported usage. -/
def completion (provider : VercelGatewayProvider) (text : String) (inputs outputs : ℕ)
    (latency : ℚ≥0) (termination : TerminationReason) (providerTermination : Option String) :
    InferenceResponse where
  text
  modelId := provider.model.modelId
  provider := provider.model.provider
  inputTokens := inputs
  outputTokens := outputs
  latencyMs := latency
  estimatedCostUsd := calculateCost inputs outputs provider.model
  terminationReason := termination
  providerTerminationReason := providerTermination

/-- The allowance on the wire is the request's own. -/
theorem maxTokens_payload {provider : VercelGatewayProvider} {request : InferenceRequest}
    {body : GatewayPayload} (h : provider.payload request = .ok body) :
    body.maxTokens = request.maxOutputTokens.val := by
  obtain ⟨-, h⟩ := Except.guard_eq_ok.mp h
  obtain ⟨-, h⟩ := Except.guard_eq_ok.mp h
  cases h
  rfl

end VercelGatewayProvider

end RouteLLM
