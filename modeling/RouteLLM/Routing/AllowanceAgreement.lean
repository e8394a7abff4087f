import RouteLLM.Routing.FeatureParity

/-!
# Agreement of the two allowance resolvers

A policy is unique in its spellings, one resolver compares spellings and the other canonical
categories. So a constructed model may have no resolved allowance, or two that differ:
`resolvers_agree_iff` says for which policies neither happens.
-/

namespace RouteLLM

variable {model : ModelConfig} {features : RoutingRequestFeatures} {c : RoutingCategory}

/-- The text is the production or the benchmark spelling of a category. -/
def Spells (spelling : String) (c : RoutingCategory) : Prop :=
  spelling = c.value ∨ ∃ t : TaskCategory, t.canonical = c ∧ spelling = t.value

/-- Only `structured_json` has a second spelling. -/
theorem spells_iff {spelling : String} :
    Spells spelling c ↔ spelling = c.value ∨ (c = .structuredJson ∧ spelling = "json") := by
  constructor
  · rintro (h | ⟨t, rfl, rfl⟩)
    · exact .inl h
    · cases t <;> simp [TaskCategory.canonical, TaskCategory.value, RoutingCategory.value]
  · rintro (h | ⟨rfl, rfl⟩)
    · exact .inl h
    · exact .inr ⟨.json, rfl, rfl⟩

/-- The provider's allowance of a visible-only model: the override of exactly this spelling. -/
theorem providerOutputAllowance_of_visibleOnly
    (h : model.capabilities.outputTokenAccounting = .visibleOnly) (requested : PositiveTokenCount)
    (spelling : String) :
    model.providerOutputAllowance requested spelling =
      (overrideOf model spelling).getD requested := by
  rw [ModelConfig.providerOutputAllowance, if_neg (by rw [h]; decide)]
  rfl

/-- Routing resolves `structured_json` where at most one spelling is overridden. -/
theorem resolve_structured (hc : features.category = some .structuredJson) {n : PositiveTokenCount} :
    resolveEffectiveOutputAllowance features model = .ok n ↔
      KnownCategories model ∧
        (overrideOf model "json" = none ∨ overrideOf model "structured_json" = none) ∧
        n = (overrideOf model "json" <|> overrideOf model "structured_json").getD
          features.maxOutputTokens := by
  rw [resolveEffectiveOutputAllowance_eq_ok hc]
  refine and_congr_right fun _ => ?_
  cases hj : overrideOf model "json" with
  | none =>
    rw [canonicalOverrides_of_json_none hj]
    simp [length_matchingOverrides_le, overrideOf]
  | some a =>
    cases hs : overrideOf model "structured_json" with
    | none =>
      rw [canonicalOverrides_of_structured_none hs]
      simp [length_matchingOverrides_le, ← hj, overrideOf]
    | some b =>
      have hlen := one_lt_canonicalOverrides hj hs
      exact iff_of_false (fun h => absurd h.1 (not_le.mpr hlen)) (by simp)

/-- Routing resolves every other category wherever it knows the policy. -/
theorem resolve_of_ne (hc : features.category = some c) (hne : c ≠ .structuredJson)
    {n : PositiveTokenCount} :
    resolveEffectiveOutputAllowance features model = .ok n ↔
      KnownCategories model ∧ n = (overrideOf model c.value).getD features.maxOutputTokens := by
  rw [resolveEffectiveOutputAllowance_eq_ok hc, canonicalOverrides_of_ne hne]
  simp [length_matchingOverrides_le, overrideOf]

/-- The resolved allowance is the provider's under every spelling. -/
def Agree (model : ModelConfig) (features : RoutingRequestFeatures) (c : RoutingCategory) : Prop :=
  model.capabilities.outputTokenAccounting = .visibleOnly → ∀ spelling, Spells spelling c →
    resolveEffectiveOutputAllowance features model =
      .ok (model.providerOutputAllowance features.maxOutputTokens spelling)

/-- A policy that is unique in its canonical categories too, and for a visible-only model overrides
neither spelling of `structured_json` by anything but the requested allowance. -/
def UniquelySpelled (model : ModelConfig) (requested : PositiveTokenCount) : Prop :=
  (overrideOf model "json" = none ∨ overrideOf model "structured_json" = none) ∧
    (model.capabilities.outputTokenAccounting = .visibleOnly → ∀ n,
      overrideOf model "json" = some n ∨ overrideOf model "structured_json" = some n → n = requested)

/-- Outside `structured_json` the resolvers agree on every policy that routing knows. -/
theorem agree_of_ne (hc : features.category = some c) (hne : c ≠ .structuredJson)
    (hknown : KnownCategories model) : Agree model features c := by
  intro hvisible spelling hspells
  rw [resolve_of_ne hc hne, providerOutputAllowance_of_visibleOnly hvisible]
  rcases spells_iff.mp hspells with rfl | ⟨rfl, -⟩
  · exact ⟨hknown, rfl⟩
  · exact absurd rfl hne

/-- For `structured_json` they agree where an override changes nothing. -/
theorem agree_structured (hc : features.category = some .structuredJson)
    (hknown : KnownCategories model) (h : UniquelySpelled model features.maxOutputTokens) :
    Agree model features .structuredJson := by
  intro hvisible spelling hspells
  obtain ⟨hone, heq⟩ := h
  have heq := heq hvisible
  rw [resolve_structured hc, providerOutputAllowance_of_visibleOnly hvisible]
  refine ⟨hknown, hone, ?_⟩
  have hspelling : spelling = "structured_json" ∨ spelling = "json" := by
    simpa [RoutingCategory.value] using spells_iff.mp hspells
  cases hj : overrideOf model "json" with
  | none =>
    cases hs : overrideOf model "structured_json" with
    | none => rcases hspelling with rfl | rfl <;> simp [hj, hs]
    | some b => rcases hspelling with rfl | rfl <;> simp [hj, hs, heq b (.inr hs)]
  | some a =>
    have hs : overrideOf model "structured_json" = none := by simpa [hj] using hone
    rcases hspelling with rfl | rfl <;> simp [hj, hs, heq a (.inl hj)]

/-- An override of one spelling that changes the allowance makes the resolvers differ. -/
theorem eq_of_agree_structured (hc : features.category = some .structuredJson)
    (hagree : Agree model features .structuredJson)
    (hvisible : model.capabilities.outputTokenAccounting = .visibleOnly) {n : PositiveTokenCount}
    (hn : overrideOf model "json" = some n ∨ overrideOf model "structured_json" = some n) :
    n = features.maxOutputTokens := by
  have hj := hagree hvisible "json" (.inr ⟨.json, rfl, rfl⟩)
  have hs := hagree hvisible "structured_json" (.inl rfl)
  have hone := ((resolve_structured hc).mp hj).2.1
  have hsame := Except.ok.inj (hj.symm.trans hs)
  rw [providerOutputAllowance_of_visibleOnly hvisible,
    providerOutputAllowance_of_visibleOnly hvisible] at hsame
  rcases hn with hn | hn
  · have hnone : overrideOf model "structured_json" = none := by simpa [hn] using hone
    simpa [hn, hnone] using hsame
  · have hnone : overrideOf model "json" = none := by simpa [hn] using hone
    simpa [hn, hnone] using hsame.symm

/-- **The resolvers agree** on a constructed model, for a category and a requested allowance, exactly
where routing knows every override's category and, for `structured_json`, the policy is uniquely
spelled. -/
theorem resolvers_agree_iff (hc : features.category = some c) :
    (∃ n, resolveEffectiveOutputAllowance features model = .ok n) ∧ Agree model features c ↔
      KnownCategories model ∧
        (c = .structuredJson → UniquelySpelled model features.maxOutputTokens) := by
  by_cases hstructured : c = .structuredJson
  · subst hstructured
    constructor
    · rintro ⟨⟨n, hn⟩, hagree⟩
      obtain ⟨hknown, hone, -⟩ := (resolve_structured hc).mp hn
      exact ⟨hknown, fun _ => ⟨hone, fun hvisible _ hn =>
        eq_of_agree_structured hc hagree hvisible hn⟩⟩
    · rintro ⟨hknown, h⟩
      exact ⟨⟨_, (resolve_structured hc).mpr ⟨hknown, (h rfl).1, rfl⟩⟩,
        agree_structured hc hknown (h rfl)⟩
  · constructor
    · rintro ⟨⟨n, hn⟩, -⟩
      exact ⟨((resolve_of_ne hc hstructured).mp hn).1, fun h => absurd h hstructured⟩
    · rintro ⟨hknown, -⟩
      exact ⟨⟨_, (resolve_of_ne hc hstructured).mpr ⟨hknown, rfl⟩⟩,
        agree_of_ne hc hstructured hknown⟩

/-- The sample model with overrides of both spellings. -/
def ModelConfig.doublySpelledSample : ModelConfig :=
  { ModelConfig.sample with
    outputTokenPolicy :=
      { OutputTokenPolicy.default with
        categoryOverrides :=
          [⟨⟨"json", by decide, by decide⟩, ⟨64, by decide⟩⟩,
            ⟨⟨"structured_json", by decide, by decide⟩, ⟨128, by decide⟩⟩]
        categories_nodup := by decide }
    visible_no_headroom := by decide }

/-- The constructed policy has no resolved allowance for `structured_json`. -/
theorem doubly_spelled_policy_raises :
    ¬ ∃ n, resolveEffectiveOutputAllowance (.sample (some .structuredJson)) .doublySpelledSample =
      .ok n := by
  rintro ⟨n, hn⟩
  have hraises : (resolveEffectiveOutputAllowance (.sample (some .structuredJson))
    .doublySpelledSample).isOk = false := by decide +kernel
  rw [hn] at hraises
  cases hraises

/-- The resolvers agree on the sample model. -/
theorem resolvers_agree_iff_sample :
    (∃ n, resolveEffectiveOutputAllowance (.sample (some .qa)) .sample = .ok n) ∧
      Agree .sample (.sample (some .qa)) .qa := by
  have hqa : (RoutingRequestFeatures.sample (some .qa)).category = some .qa := rfl
  exact (resolvers_agree_iff hqa).mpr ⟨by decide, nofun⟩

end RouteLLM
