import Mathlib.Data.NNRat.Defs
import RouteLLM.Lib.Binary64
import RouteLLM.Lib.Decimal
import RouteLLM.Lib.PyStr

/-!
# Configuration and inference data

The validated models of `models/schemas.py`. What a constructor of the source checks is a field of
the structure, so that a value of the structure is a value the constructor accepts. Prices and costs
are finite nonnegative decimals (`Money`), token counts are natural numbers, and latencies are exact
nonnegative rationals, since the code only adds and compares them.
-/

namespace RouteLLM

/-- The text of a UUID. -/
structure Uuid where
  text : String
  length_eq : text.length = 36
  deriving DecidableEq

/-- A UUID. -/
def Uuid.sample : Uuid := ⟨"00000000-0000-4000-8000-000000000000", by decide⟩

/-- `PositiveTokenCount`: an integer above zero. -/
structure PositiveTokenCount where
  val : ℕ
  pos : 0 < val
  deriving DecidableEq

/-- `Identifier`: a string without surrounding whitespace, of at least one character. -/
structure Identifier where
  value : String
  stripped : PyStr.strip value.toList = value.toList
  nonempty : 1 ≤ value.length
  deriving DecidableEq

theorem Identifier.ext {i j : Identifier} (h : i.value = j.value) : i = j := by
  cases i; cases j; simp_all

/-- `Money`: a finite nonnegative decimal. -/
structure Money where
  dec : Decimal
  nonneg : 0 ≤ dec.coeff
  deriving DecidableEq

namespace Money

/-- The exact amount. -/
def toRat (m : Money) : ℚ := m.dec.toRat

theorem toRat_nonneg (m : Money) : 0 ≤ m.toRat := by
  have h : (0 : ℚ) ≤ m.dec.coeff := by exact_mod_cast m.nonneg
  exact mul_nonneg h (by positivity)

/-- `Decimal(0)`. -/
def zero : Money := ⟨⟨0, 0⟩, le_rfl⟩

end Money

/-- `Probability`: a finite float of the unit interval. -/
structure Probability where
  float : Binary64
  nonneg : 0 ≤ float.val
  le_one : float.val ≤ 1
  deriving DecidableEq

namespace Probability

theorem float_injective : Function.Injective Probability.float := by
  rintro ⟨x, _, _⟩ ⟨_, _, _⟩ rfl
  rfl

instance : LinearOrder Probability := LinearOrder.lift' Probability.float float_injective

/-- Certainty. -/
def one : Probability := ⟨1, zero_le_one, le_rfl⟩

end Probability

inductive ReasoningBehavior
  | unsupported | providerDefault | adaptive
  deriving DecidableEq

inductive ReasoningEffort
  | none | minimal | low | medium | high | xhigh
  deriving DecidableEq

inductive ReasoningControlMechanism
  | gatewayShared | googleProviderNative
  deriving DecidableEq

inductive OutputTokenAccounting
  | visibleOnly | reasoningAndVisible
  deriving DecidableEq

inductive TerminationReason
  | complete | length | toolCall | contentFilter | other | unknown
  deriving DecidableEq

/-- The string a `StrEnum` member equals. -/
def ReasoningEffort.value : ReasoningEffort → String
  | .none => "none"
  | .minimal => "minimal"
  | .low => "low"
  | .medium => "medium"
  | .high => "high"
  | .xhigh => "xhigh"

/-- `ReasoningEffort(value)`: the member with this value. -/
def ReasoningEffort.ofValue? (s : String) : Option ReasoningEffort :=
  [ReasoningEffort.none, .minimal, .low, .medium, .high, .xhigh].find? (·.value = s)

@[simp] theorem ReasoningEffort.ofValue?_value (e : ReasoningEffort) : ofValue? e.value = some e := by
  cases e <;> decide

@[inherit_doc ReasoningEffort.value]
def ReasoningBehavior.value : ReasoningBehavior → String
  | .unsupported => "unsupported"
  | .providerDefault => "provider_default"
  | .adaptive => "adaptive"

@[inherit_doc ReasoningEffort.value]
def OutputTokenAccounting.value : OutputTokenAccounting → String
  | .visibleOnly => "visible_only"
  | .reasoningAndVisible => "reasoning_and_visible"

@[inherit_doc ReasoningEffort.value]
def TerminationReason.value : TerminationReason → String
  | .complete => "complete"
  | .length => "length"
  | .toolCall => "tool_call"
  | .contentFilter => "content_filter"
  | .other => "other"
  | .unknown => "unknown"

structure ModelCapabilities where
  supportsTemperature : Bool := true
  supportsStructuredOutput : Bool := false
  reasoning : ReasoningBehavior := .unsupported
  outputTokenAccounting : OutputTokenAccounting := .visibleOnly
  deriving DecidableEq

structure CategoryOutputTokenAllowance where
  category : Identifier
  maxOutputTokens : PositiveTokenCount
  deriving DecidableEq

/-- `OutputTokenPolicy`, with the checks of `category_overrides_are_unique`. -/
structure OutputTokenPolicy where
  categoryOverrides : List CategoryOutputTokenAllowance
  reasoningHeadroomTokens : ℕ
  expectedReasoningTokens : ℕ
  headroom_le : reasoningHeadroomTokens ≤ 1024
  expected_le : expectedReasoningTokens ≤ 1024
  categories_nodup : (categoryOverrides.map (·.category)).Nodup
  expected_le_headroom : expectedReasoningTokens ≤ reasoningHeadroomTokens
  deriving DecidableEq

/-- The default policy: no override and no headroom. -/
def OutputTokenPolicy.default : OutputTokenPolicy :=
  ⟨[], 0, 0, by decide, by decide, .nil, le_rfl⟩

/-- `ModelConfig`, with the checks of `reject_unsupported_reasoning_effort`. -/
structure ModelConfig where
  modelId : Identifier
  provider : Identifier
  providerModelName : Identifier
  inputCostPer1mTokens : Money
  outputCostPer1mTokens : Money
  contextWindow : PositiveTokenCount
  enabled : Bool := true
  capabilities : ModelCapabilities := {}
  reasoningEffort : Option ReasoningEffort := none
  reasoningControl : ReasoningControlMechanism := .gatewayShared
  outputTokenPolicy : OutputTokenPolicy := .default
  effort_supported : reasoningEffort ≠ none → capabilities.reasoning ≠ .unsupported
  native_is_google : reasoningControl = .googleProviderNative →
    "google/".toList <+: providerModelName.value.toList
  native_has_effort : reasoningControl = .googleProviderNative →
    reasoningEffort ≠ none ∧ reasoningEffort ≠ some .none
  visible_no_headroom : capabilities.outputTokenAccounting = .visibleOnly →
    outputTokenPolicy.reasoningHeadroomTokens = 0
  deriving DecidableEq

namespace ModelConfig

/-- The overrides of exactly this category. A constructed policy has at most one. -/
def matchingOverrides (model : ModelConfig) (category : String) : List PositiveTokenCount :=
  (model.outputTokenPolicy.categoryOverrides.filter (·.category.value = category)).map
    (·.maxOutputTokens)

/-- `provider_output_allowance`: the visible requirement, or the override of exactly this category,
plus the reasoning headroom where the upstream limit counts reasoning too. The source first raises on
a requirement that is not a positive integer and on two overrides of one category, which the types
exclude. -/
def providerOutputAllowance (model : ModelConfig) (visibleOutputTokens : PositiveTokenCount)
    (category : String) : PositiveTokenCount :=
  let visibleRequirement := (model.matchingOverrides category).head?.getD visibleOutputTokens
  if model.capabilities.outputTokenAccounting = .reasoningAndVisible then
    ⟨visibleRequirement.val + model.outputTokenPolicy.reasoningHeadroomTokens,
      Nat.add_pos_left visibleRequirement.pos _⟩
  else visibleRequirement

/-- The headroom counts whatever the accounting: a visible-only model reserves none. -/
theorem val_providerOutputAllowance (model : ModelConfig) (visible : PositiveTokenCount)
    (category : String) :
    (model.providerOutputAllowance visible category).val =
      ((model.matchingOverrides category).head?.getD visible).val +
        model.outputTokenPolicy.reasoningHeadroomTokens := by
  cases h : model.capabilities.outputTokenAccounting with
  | reasoningAndVisible => rw [providerOutputAllowance, if_pos h]
  | visibleOnly =>
    rw [providerOutputAllowance, if_neg (by rw [h]; decide), model.visible_no_headroom h,
      Nat.add_zero]

end ModelConfig

/-- `InferenceRequest`, with the check of `reject_blank_text`. -/
structure InferenceRequest where
  prompt : String
  systemPrompt : Option String := none
  maxOutputTokens : PositiveTokenCount := ⟨256, by decide⟩
  temperature : Binary64 := 1
  prompt_nonblank : PyStr.strip prompt.toList ≠ []
  systemPrompt_nonblank : ∀ s, systemPrompt = some s → PyStr.strip s.toList ≠ []
  temperature_nonneg : 0 ≤ temperature.val
  temperature_le : temperature.val ≤ 2

/-- `InferenceResponse`: the normalized generation result. -/
structure InferenceResponse where
  text : String
  modelId : Identifier
  provider : Identifier
  inputTokens : ℕ
  outputTokens : ℕ
  latencyMs : ℚ≥0
  estimatedCostUsd : Money
  terminationReason : TerminationReason := .unknown
  providerTerminationReason : Option String := none
  deriving DecidableEq

/-- A free visible-only model. -/
def ModelConfig.sample : ModelConfig where
  modelId := ⟨"small", by decide, by decide⟩
  provider := ⟨"gateway", by decide, by decide⟩
  providerModelName := ⟨"vendor/small", by decide, by decide⟩
  inputCostPer1mTokens := .zero
  outputCostPer1mTokens := .zero
  contextWindow := ⟨8192, by decide⟩
  effort_supported := by decide
  native_is_google := by decide
  native_has_effort := by decide
  visible_no_headroom := by decide

/-- A one-word request. -/
def InferenceRequest.sample : InferenceRequest where
  prompt := "Hello"
  prompt_nonblank := by decide
  systemPrompt_nonblank := by decide
  temperature_nonneg := by decide
  temperature_le := by decide

/-- The answer of the sample model. -/
def InferenceResponse.sample : InferenceResponse where
  text := "Hi"
  modelId := ModelConfig.sample.modelId
  provider := ModelConfig.sample.provider
  inputTokens := 1
  outputTokens := 1
  latencyMs := 5
  estimatedCostUsd := .zero

end RouteLLM
