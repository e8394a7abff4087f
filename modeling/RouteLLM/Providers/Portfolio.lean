import RouteLLM.Benchmarks.CostEstimate
import RouteLLM.Registry
import RouteLLM.Routing.Predictor

/-!
# The model portfolio

The reviewed models of `providers/gateway_config.py`, and the registry that `bootstrap.py` makes of them: the
offline models, and with credentials the real ones. Every registered model can be routed to: it is enabled, its
policy resolves every category, and its prices and its context window have floats.
-/

namespace RouteLLM

/-! ## The models -/

/-- A text that is an `Identifier` as it is. -/
def IsIdentifier (s : String) : Prop := PyStr.strip s.toList = s.toList ∧ 1 ≤ s.length

instance (s : String) : Decidable (IsIdentifier s) := inferInstanceAs (Decidable (_ ∧ _))

/-- The identifier of a text that is one. -/
def IsIdentifier.identifier {s : String} (h : IsIdentifier s) : Identifier := ⟨s, h.1, h.2⟩

/-- The names and the context window of a listed model. -/
def Listed (modelId providerModelName : String) (contextWindow : ℕ) : Prop :=
  IsIdentifier modelId ∧ IsIdentifier providerModelName ∧ 0 < contextWindow

instance (modelId providerModelName : String) (contextWindow : ℕ) :
    Decidable (Listed modelId providerModelName contextWindow) := inferInstanceAs (Decidable (_ ∧ _ ∧ _))

theorem fake_identifier : IsIdentifier "fake" := by decide

theorem vercel_identifier : IsIdentifier "vercel" := by decide

/-- A listed model without an effort of its own, with its prices in hundredths. -/
def plainModel (provider : Identifier) (modelId providerModelName : String)
    (inputPrice outputPrice contextWindow : ℕ) (capabilities : ModelCapabilities)
    (h : Listed modelId providerModelName contextWindow) : ModelConfig where
  modelId := h.1.identifier
  provider := provider
  providerModelName := h.2.1.identifier
  inputCostPer1mTokens := ⟨⟨inputPrice, -2⟩, Int.natCast_nonneg inputPrice⟩
  outputCostPer1mTokens := ⟨⟨outputPrice, -2⟩, Int.natCast_nonneg outputPrice⟩
  contextWindow := ⟨contextWindow, h.2.2⟩
  capabilities := capabilities
  effort_supported := fun h => absurd rfl h
  native_is_google := fun h => ReasoningControlMechanism.noConfusion h
  native_has_effort := fun h => ReasoningControlMechanism.noConfusion h
  visible_no_headroom := fun _ => rfl

/-- The models of `create_development_service`. -/
def developmentModels : List ModelConfig :=
  [plainModel fake_identifier.identifier "fake-small" "echo-v1" 15 60 4096 {} (by decide),
    plainModel fake_identifier.identifier "fake-large" "echo-v1" 100 300 16384 {} (by decide)]

/-- `LEGACY_MODELS`. -/
def legacyModels : List ModelConfig :=
  [plainModel vercel_identifier.identifier "gateway-nano" "openai/gpt-4.1-nano" 10 40 1047576
      { supportsStructuredOutput := true } (by decide),
    plainModel vercel_identifier.identifier "gateway-mini" "openai/gpt-4.1-mini" 40 160 1047576
      { supportsStructuredOutput := true } (by decide),
    plainModel vercel_identifier.identifier "gateway-sonnet" "anthropic/claude-sonnet-4.6" 300 1500 1000000
      { supportsStructuredOutput := true, reasoning := .providerDefault } (by decide)]

/-- A model of `CANDIDATE_MODELS`. -/
def listedCandidate (modelId providerModelName : String) (inputPrice outputPrice contextWindow : ℕ)
    (supportsTemperature : Bool) (effort : ReasoningEffort) (policy : OutputTokenPolicy)
    (hpolicy : policy.reasoningHeadroomTokens = 0)
    (h : Listed modelId providerModelName contextWindow) : ModelConfig :=
  RoutingBenchmark.candidateModel h.1.identifier h.2.1.identifier inputPrice outputPrice ⟨contextWindow, h.2.2⟩
    supportsTemperature effort policy hpolicy

theorem default_no_headroom : OutputTokenPolicy.default.reasoningHeadroomTokens = 0 := rfl

theorem override_no_headroom : RoutingBenchmark.reasoningOverride.reasoningHeadroomTokens = 0 := rfl

/-- `CANDIDATE_MODELS`. -/
def candidateModels : List ModelConfig :=
  [listedCandidate "candidate-nemotron-3.5-lightning" "nvidia/nemotron-3.5-lightning" 5 15 262144 true .none
      .default default_no_headroom (by decide),
    listedCandidate "candidate-gpt-6-luna" "openai/gpt-6-luna" 10 50 1050000 true .low .default default_no_headroom
      (by decide),
    listedCandidate "candidate-gemini-3-flash" "google/gemini-3-flash" 50 300 1000000 true .low
      RoutingBenchmark.reasoningOverride override_no_headroom (by decide),
    listedCandidate "candidate-claude-sonnet-5" "anthropic/claude-sonnet-5" 200 1000 1000000 false .low
      .default default_no_headroom (by decide)]

/-- `REAL_MODELS`. -/
def realModels : List ModelConfig := legacyModels ++ candidateModels

/-! ## The registry -/

/-- The registry of `create_development_service`, to which `configure_gateway` adds the real models where a key
is set. -/
def gatewayRegistry (apiKey : Option String) : Except Exc ModelRegistry := do
  let development ← developmentModels.foldlM ModelRegistry.register .empty
  match apiKey with
  | none => return development
  | some _ => realModels.foldlM ModelRegistry.register development

/-- The models that are registered. -/
def portfolio (apiKey : Option String) : List ModelConfig :=
  developmentModels ++ if apiKey.isSome then realModels else []

theorem portfolio_nodup : ((developmentModels ++ realModels).map (·.modelId.value)).Nodup := by decide

/-- The registration never raises. -/
theorem gatewayRegistry_eq_ok (apiKey : Option String) :
    ∃ registry, gatewayRegistry apiKey = .ok registry ∧ registry.models = portfolio apiKey := by
  have hdevelopment : (developmentModels.map (·.modelId.value)).Nodup := by
    have h := portfolio_nodup
    rw [List.map_append] at h
    exact h.of_append_left
  have hfirst : developmentModels.foldlM ModelRegistry.register .empty =
      .ok ⟨developmentModels, hdevelopment⟩ :=
    ModelRegistry.foldlM_register_eq_ok.mpr ⟨rfl, hdevelopment⟩
  rw [gatewayRegistry, hfirst, Except.ok_bind]
  cases apiKey with
  | none => exact ⟨_, rfl, (List.append_nil _).symm⟩
  | some key =>
    exact ⟨⟨_, portfolio_nodup⟩, ModelRegistry.foldlM_register_eq_ok.mpr ⟨rfl, portfolio_nodup⟩, rfl⟩

/-! ## What every registered model has -/

/-- A price in hundredths has a float. -/
theorem isSome_hundredths {n : ℕ} (h : n ≤ 2 ^ 53) : (Binary64.ofRat? (Decimal.toRat ⟨n, -2⟩)).isSome := by
  have hn : (n : ℚ) ≤ 2 ^ 53 := by exact_mod_cast h
  have hpos : (0 : ℚ) ≤ n := n.cast_nonneg
  have hvalue : Decimal.toRat ⟨n, -2⟩ = n / 100 := by
    rw [Decimal.toRat]
    norm_num [div_eq_mul_inv]
  rw [hvalue]
  exact Binary64.isSome_ofRat?_of_le (by positivity) (by linarith)

/-- A model that can be routed to. -/
structure ModelConfig.Routable (model : ModelConfig) : Prop extends model.Servable where
  enabled : model.enabled = true

/-- The default policy resolves every category. -/
theorem routable_plainModel {provider : Identifier} {modelId providerModelName : String}
    {inputPrice outputPrice contextWindow : ℕ} {capabilities : ModelCapabilities}
    (h : Listed modelId providerModelName contextWindow)
    (hinput : inputPrice ≤ 2 ^ 53) (houtput : outputPrice ≤ 2 ^ 53) (hwindow : contextWindow ≤ 2 ^ 53) :
    (plainModel provider modelId providerModelName inputPrice outputPrice contextWindow capabilities
      h).Routable where
  enabled := rfl
  resolvable _ := ⟨fun _ h => absurd h List.not_mem_nil, Nat.zero_le 1⟩
  overrides _ h := absurd h List.not_mem_nil
  contextWindow := hwindow
  inputCost := isSome_hundredths hinput
  outputCost := isSome_hundredths houtput

/-- A candidate of a policy that resolves every category. -/
theorem routable_listedCandidate {modelId providerModelName : String}
    {inputPrice outputPrice contextWindow : ℕ} {supportsTemperature : Bool} {effort : ReasoningEffort}
    {policy : OutputTokenPolicy} {hpolicy : policy.reasoningHeadroomTokens = 0}
    (h : Listed modelId providerModelName contextWindow)
    (hoverrides : policy.categoryOverrides = [] ∨
      ∃ item, policy.categoryOverrides = [item] ∧ item.category.value = "reasoning" ∧
        item.maxOutputTokens.val ≤ 2 ^ 53)
    (hinput : inputPrice ≤ 2 ^ 53) (houtput : outputPrice ≤ 2 ^ 53) (hwindow : contextWindow ≤ 2 ^ 53) :
    (listedCandidate modelId providerModelName inputPrice outputPrice contextWindow supportsTemperature effort
      policy hpolicy h).Routable where
  enabled := rfl
  resolvable category := by
    have hlen : ∀ p : CategoryOutputTokenAllowance → Bool,
        (policy.categoryOverrides.filter p).length ≤ 1 := by
      intro p
      refine (List.length_filter_le _ _).trans ?_
      rcases hoverrides with hnil | ⟨item, hitem, -⟩
      · rw [hnil]
        exact Nat.zero_le 1
      · rw [hitem]
        exact le_rfl
    refine ⟨?_, by rw [canonicalOverrides, List.length_map]; exact hlen _⟩
    intro item hmem
    rcases hoverrides with hnil | ⟨only, honly, hname, -⟩
    · exact absurd (hnil ▸ hmem) List.not_mem_nil
    · obtain rfl := List.mem_singleton.mp (honly ▸ hmem)
      rw [hname]
      decide
  overrides item hmem := by
    rcases hoverrides with hnil | ⟨only, honly, -, hlimit⟩
    · exact absurd (hnil ▸ hmem) List.not_mem_nil
    · obtain rfl := List.mem_singleton.mp (honly ▸ hmem)
      exact hlimit
  contextWindow := hwindow
  inputCost := isSome_hundredths hinput
  outputCost := isSome_hundredths houtput

/-- **Every registered model can be routed to.** -/
theorem routable_of_mem {apiKey : Option String} {model : ModelConfig} (h : model ∈ portfolio apiKey) :
    model.Routable := by
  have hall : ∀ model ∈ developmentModels ++ realModels, model.Routable := by
    simp only [developmentModels, realModels, legacyModels, candidateModels, List.cons_append, List.nil_append,
      List.forall_mem_cons]
    refine ⟨?_, ?_, ?_, ?_, ?_, ?_, ?_, ?_, ?_, fun _ h => absurd h List.not_mem_nil⟩
    · exact routable_plainModel _ (by decide) (by decide) (by decide)
    · exact routable_plainModel _ (by decide) (by decide) (by decide)
    · exact routable_plainModel _ (by decide) (by decide) (by decide)
    · exact routable_plainModel _ (by decide) (by decide) (by decide)
    · exact routable_plainModel _ (by decide) (by decide) (by decide)
    · exact routable_listedCandidate _ (.inl rfl) (by decide) (by decide) (by decide)
    · exact routable_listedCandidate _ (.inl rfl) (by decide) (by decide) (by decide)
    · exact routable_listedCandidate _ (.inr ⟨_, rfl, rfl, by decide⟩) (by decide) (by decide) (by decide)
    · exact routable_listedCandidate _ (.inl rfl) (by decide) (by decide) (by decide)
  refine hall model (List.mem_append.mpr ((List.mem_append.mp h).imp_right fun h => ?_))
  split at h
  · exact h
  · exact absurd h List.not_mem_nil

/-- The real models are served through the gateway, which needs the key. -/
theorem provider_of_mem {apiKey : Option String} {model : ModelConfig} (h : model ∈ portfolio apiKey) :
    model.provider = fake_identifier.identifier ∨
      apiKey.isSome ∧ model.provider = vercel_identifier.identifier := by
  have hdevelopment : ∀ model ∈ developmentModels, model.provider = fake_identifier.identifier := by decide
  have hreal : ∀ model ∈ realModels, model.provider = vercel_identifier.identifier := by decide
  rcases List.mem_append.mp h with h | h
  · exact .inl (hdevelopment model h)
  · split at h
    · exact .inr ⟨‹_›, hreal model h⟩
    · exact absurd h List.not_mem_nil

/-- The candidates of the protocol are registered exactly with the key. -/
theorem exists_candidate_iff {apiKey : Option String} {id : String}
    (h : id ∈ Predictor.foundationV3CandidateIds) :
    (∃ model ∈ portfolio apiKey, model.modelId.value = id) ↔ apiKey.isSome := by
  have hdevelopment : ∀ id ∈ Predictor.foundationV3CandidateIds, id ∉ developmentModels.map (·.modelId.value) := by
    decide
  have hreal : ∀ id ∈ Predictor.foundationV3CandidateIds, id ∈ realModels.map (·.modelId.value) := by decide
  constructor
  · rintro ⟨model, hmodel, rfl⟩
    rcases List.mem_append.mp hmodel with hmodel | hmodel
    · exact absurd (List.mem_map_of_mem hmodel) (hdevelopment _ h)
    · split at hmodel
      · assumption
      · exact absurd hmodel List.not_mem_nil
  · intro hkey
    obtain ⟨model, hmodel, hid⟩ := List.mem_map.mp (hreal id h)
    exact ⟨model, List.mem_append_right _ (by rwa [if_pos hkey]), hid⟩

end RouteLLM
