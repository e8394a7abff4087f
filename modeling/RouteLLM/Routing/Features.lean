import RouteLLM.Errors

/-!
# Request-visible routing features

`routing/features.py`. The three indicators that the source computes by regular expressions are a
parameter (`TextIndicators`): both feature pipelines call the same functions, so that nothing here
depends on the expressions.
-/

namespace RouteLLM

inductive RoutingCategory
  | classification | coding | extraction | structuredJson | qa | reasoning | summarization
  deriving DecidableEq

namespace RoutingCategory

@[inherit_doc ReasoningEffort.value]
def value : RoutingCategory → String
  | classification => "classification"
  | coding => "coding"
  | extraction => "extraction"
  | structuredJson => "structured_json"
  | qa => "qa"
  | reasoning => "reasoning"
  | summarization => "summarization"

/-- Every category, in the order of the enumeration. -/
def all : List RoutingCategory :=
  [classification, coding, extraction, structuredJson, qa, reasoning, summarization]

/-- `RoutingCategory(value)`: the member with this value. -/
def ofValue? (s : String) : Option RoutingCategory := all.find? (·.value = s)

@[simp] theorem ofValue?_value (c : RoutingCategory) : ofValue? c.value = some c := by
  cases c <;> decide

/-- Only the value of a category is converted to it. -/
theorem value_of_ofValue? {s : String} {c : RoutingCategory} (h : ofValue? s = some c) :
    c.value = s := by
  simpa using List.find?_some h

end RoutingCategory

inductive CategoryProvenance
  | clientHint | inferred | absent
  deriving DecidableEq

/-- The regular-expression indicators of a request text. -/
structure TextIndicators where
  textContainsCode : String → Bool
  constraintIndicatorCount : String → ℕ
  reasoningIndicatorCount : String → ℕ

/-- Indicators that find nothing. -/
def TextIndicators.sample : TextIndicators := ⟨fun _ => false, fun _ => 0, fun _ => 0⟩

/-- `RoutingRequestFeatures`, with the checks of `metadata_is_consistent`. -/
structure RoutingRequestFeatures where
  category : Option RoutingCategory
  categoryProvenance : CategoryProvenance
  promptCharacters : ℕ
  systemPromptCharacters : ℕ
  messageCount : ℕ
  systemPromptPresent : Bool
  approximateInputTokens : ℕ
  containsCode : Bool
  requestsStructuredOutput : Bool
  maxOutputTokens : PositiveTokenCount
  constraintIndicatorCount : ℕ
  reasoningIndicatorCount : ℕ
  category_absent : category = none ↔ categoryProvenance = .absent
  system_present : systemPromptPresent = true ↔ 0 < systemPromptCharacters
  message_count : messageCount = if systemPromptPresent then 2 else 1

/-- A request without a system prompt. -/
theorem noSystemPrompt : false = true ↔ 0 < 0 := by decide

theorem oneMessage : 1 = if false then 2 else 1 := rfl

/-- The features of a short request. -/
def RoutingRequestFeatures.sample (category : Option RoutingCategory) : RoutingRequestFeatures where
  category := category
  categoryProvenance := if category = none then .absent else .clientHint
  promptCharacters := 5
  systemPromptCharacters := 0
  messageCount := 1
  systemPromptPresent := false
  approximateInputTokens := 1
  containsCode := false
  requestsStructuredOutput := false
  maxOutputTokens := InferenceRequest.sample.maxOutputTokens
  constraintIndicatorCount := 0
  reasoningIndicatorCount := 0
  category_absent := by split <;> simp_all
  system_present := noSystemPrompt
  message_count := oneMessage

/-- `request_text`: the optional system prompt and the prompt. A constructed request has no blank
part, so only an absent system prompt is left out. -/
def requestText (request : InferenceRequest) : String :=
  match request.systemPrompt with
  | some s => s ++ " " ++ request.prompt
  | none => request.prompt

/-- `approximate_input_tokens`: the whitespace-separated words of the request text. -/
def approximateInputTokens (request : InferenceRequest) : ℕ :=
  (PyStr.split (requestText request).toList).length

/-- `str.strip()` of a text. -/
def stripText (s : String) : String := String.ofList (PyStr.strip s.toList)

/-- The category of an advisory hint, which raises on a name that is none. -/
def categoryOfHint : Option String → Except Exc (Option RoutingCategory)
  | none => .ok none
  | some hint =>
    match RoutingCategory.ofValue? (stripText hint) with
    | some category => .ok (some category)
    | none => .error (.raised .valueError "is not a valid RoutingCategory")

/-- The value of a category is a hint for it. -/
theorem categoryOfHint_value (c : RoutingCategory) :
    categoryOfHint (some c.value) = .ok (some c) := by
  cases c <;> rfl

/-- `ProductionRequestFeatureExtractor.extract`. -/
def extract (indicators : TextIndicators) (request : InferenceRequest)
    (categoryHint : Option String) (structuredOutputRequired : Bool) :
    Except Exc RoutingRequestFeatures := do
  let category ← categoryOfHint categoryHint
  let text := requestText request
  let systemPresent := request.systemPrompt.isSome
  return {
    category
    categoryProvenance := if category = none then .absent else .clientHint
    promptCharacters := request.prompt.length
    systemPromptCharacters := (request.systemPrompt.getD "").length
    messageCount := if systemPresent then 2 else 1
    systemPromptPresent := systemPresent
    approximateInputTokens := approximateInputTokens request
    containsCode := indicators.textContainsCode text
    requestsStructuredOutput := structuredOutputRequired
    maxOutputTokens := request.maxOutputTokens
    constraintIndicatorCount := indicators.constraintIndicatorCount text
    reasoningIndicatorCount := indicators.reasoningIndicatorCount text
    category_absent := by split <;> simp_all
    system_present := by
      cases h : request.systemPrompt with
      | none => simp [systemPresent, h]
      | some s =>
        have hne : s ≠ "" := fun hs => request.systemPrompt_nonblank s h (by rw [hs]; rfl)
        simpa [systemPresent, h, Nat.pos_iff_ne_zero] using hne
    message_count := rfl }

end RouteLLM
