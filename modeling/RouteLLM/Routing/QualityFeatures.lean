import RouteLLM.Lib.Except
import RouteLLM.Routing.Features

/-!
# Canonical categories and the configured output allowance

The category mapping of `routing/quality_features.py`, which sends the experimental category `json`
to `structured_json`, and the allowance that routing reads off a candidate's policy under it.
-/

namespace RouteLLM

/-- `canonicalize_category` of a string. -/
def canonicalizeCategory (value : String) : Except Exc RoutingCategory :=
  let stripped := stripText value
  let normalized := if stripped = "json" then RoutingCategory.structuredJson.value else stripped
  match RoutingCategory.ofValue? normalized with
  | some category => .ok category
  | none => .error (.raised .valueError "is not a valid RoutingCategory")

/-- `canonicalize_reasoning_effort`: an omitted effort is the effort `none`. -/
def canonicalizeReasoningEffort (value : Option ReasoningEffort) : ReasoningEffort :=
  value.getD .none

/-- `resolve_effective_output_allowance`: the override of the canonical category, else the request's
own allowance. -/
def resolveEffectiveOutputAllowance (features : RoutingRequestFeatures) (candidate : ModelConfig) :
    Except Exc PositiveTokenCount := do
  let some category := features.category
    | .error (.raised .missingRoutingCategoryError
        "quality prediction requires an explicit routing category")
  let canonical ← candidate.outputTokenPolicy.categoryOverrides.mapM fun item => do
    let c ← canonicalizeCategory item.category.value
    return (c, item.maxOutputTokens)
  let matching := (canonical.filter (·.1 = category)).map (·.2)
  if 1 < matching.length then
    .error (.raised .valueError
      "candidate output-token policy has duplicate canonical categories")
  else .ok (matching.head?.getD features.maxOutputTokens)

theorem canonicalizeCategory_value (c : RoutingCategory) : canonicalizeCategory c.value = .ok c := by
  cases c <;> rfl

/-! ## The resolved allowance -/

/-- The stripped text of an identifier is the identifier. -/
@[simp] theorem stripText_identifier (i : Identifier) : stripText i.value = i.value := by
  rw [stripText, i.stripped, String.ofList_toList]

/-- The category of an override: its own name, or `json` for `structured_json`. -/
theorem canonicalizeCategory_eq_ok {i : Identifier} {c : RoutingCategory} :
    canonicalizeCategory i.value = .ok c ↔
      i.value = c.value ∨ (i.value = "json" ∧ c = .structuredJson) := by
  have hvalue : c.value ≠ "json" := by cases c <;> decide
  rw [canonicalizeCategory, stripText_identifier]
  by_cases hjson : i.value = "json"
  · simp [hjson, hvalue.symm, eq_comm]
  · simp only [hjson, if_false, false_and, or_false]
    cases h : RoutingCategory.ofValue? i.value with
    | none =>
      simp only [reduceCtorEq, false_iff]
      rintro heq
      rw [heq, RoutingCategory.ofValue?_value] at h
      cases h
    | some d =>
      have hd := RoutingCategory.value_of_ofValue? h
      constructor
      · rintro h'
        cases h'
        exact hd.symm
      · intro heq
        rw [heq, RoutingCategory.ofValue?_value] at h
        exact congrArg _ (Option.some.inj h).symm

section resolve
variable {model : ModelConfig} {features : RoutingRequestFeatures} {c : RoutingCategory}

/-- Every override is for a category that the taxonomy knows. -/
def KnownCategories (model : ModelConfig) : Prop :=
  ∀ item ∈ model.outputTokenPolicy.categoryOverrides,
    item.category.value ∈ "json" :: RoutingCategory.all.map (·.value)

instance : Decidable (KnownCategories model) := inferInstanceAs (Decidable (∀ _ ∈ _, _))

/-- The override of exactly this category. -/
def overrideOf (model : ModelConfig) (category : String) : Option PositiveTokenCount :=
  (model.matchingOverrides category).head?

/-- The overrides that serving counts for a category. -/
def canonicalOverrides (model : ModelConfig) (c : RoutingCategory) : List PositiveTokenCount :=
  (model.outputTokenPolicy.categoryOverrides.filter fun item =>
    item.category.value = c.value ∨ (item.category.value = "json" ∧ c = .structuredJson)).map
      (·.maxOutputTokens)

/-- The overrides with their canonical categories. -/
def Canonicalized (items : List CategoryOutputTokenAllowance)
    (canonical : List (RoutingCategory × PositiveTokenCount)) : Prop :=
  List.Forall₂ (fun item entry => canonicalizeCategory item.category.value = .ok entry.1 ∧
    entry.2 = item.maxOutputTokens) items canonical

/-- The canonical entries of a category are those of the overrides that count for it. -/
theorem Canonicalized.filter {items : List CategoryOutputTokenAllowance}
    {canonical : List (RoutingCategory × PositiveTokenCount)} (h : Canonicalized items canonical) :
    (canonical.filter (·.1 = c)).map (·.2) = (items.filter fun item =>
      item.category.value = c.value ∨ (item.category.value = "json" ∧ c = .structuredJson)).map
        (·.maxOutputTokens) := by
  induction h with
  | nil => rfl
  | @cons item entry items canonical h _ ih =>
    obtain ⟨hcat, hmax⟩ := h
    have hiff : entry.1 = c ↔
        item.category.value = c.value ∨ (item.category.value = "json" ∧ c = .structuredJson) := by
      rw [← canonicalizeCategory_eq_ok, hcat, Except.ok.injEq]
    rw [List.filter_cons, List.filter_cons]
    by_cases hc : entry.1 = c
    · rw [if_pos (decide_eq_true hc), if_pos (decide_eq_true (hiff.mp hc)), List.map_cons,
        List.map_cons, ih, hmax]
    · rw [if_neg (by simpa using hc), if_neg (by simpa using mt hiff.mpr hc), ih]

/-- The known categories are those that have a canonical form. -/
theorem knownCategories_iff : KnownCategories model ↔
    ∃ canonical, Canonicalized model.outputTokenPolicy.categoryOverrides canonical := by
  have hname (i : Identifier) : i.value ∈ "json" :: RoutingCategory.all.map (·.value) ↔
      ∃ c, canonicalizeCategory i.value = .ok c := by
    simp only [canonicalizeCategory_eq_ok, List.mem_cons, List.mem_map]
    constructor
    · rintro (h | ⟨c, -, h⟩)
      · exact ⟨.structuredJson, .inr ⟨h, rfl⟩⟩
      · exact ⟨c, .inl h.symm⟩
    · rintro ⟨c, h | ⟨h, -⟩⟩
      · exact .inr ⟨c, by cases c <;> decide, h.symm⟩
      · exact .inl h
  simp only [KnownCategories, hname]
  generalize model.outputTokenPolicy.categoryOverrides = items
  induction items with
  | nil => simp [Canonicalized]
  | cons item items ih =>
    simp only [List.forall_mem_cons, ih]
    constructor
    · rintro ⟨⟨c, hc⟩, canonical, h⟩
      exact ⟨(c, item.maxOutputTokens) :: canonical, .cons ⟨hc, rfl⟩ h⟩
    · rintro ⟨_, h⟩
      cases h with
      | cons h hs => exact ⟨⟨_, h.1⟩, _, hs⟩

/-- **What serving resolves**: it reads the whole policy, and takes the only override that counts. -/
theorem resolveEffectiveOutputAllowance_eq_ok (hc : features.category = some c)
    {n : PositiveTokenCount} :
    resolveEffectiveOutputAllowance features model = .ok n ↔
      KnownCategories model ∧ (canonicalOverrides model c).length ≤ 1 ∧
        n = (canonicalOverrides model c).head?.getD features.maxOutputTokens := by
  have hmap (canonical : List (RoutingCategory × PositiveTokenCount)) :
      (model.outputTokenPolicy.categoryOverrides.mapM fun item => do
        let c ← canonicalizeCategory item.category.value
        return (c, item.maxOutputTokens)) = .ok canonical ↔
        Canonicalized model.outputTokenPolicy.categoryOverrides canonical := by
    rw [List.mapM_eq_ok, Canonicalized]
    simp only [Except.bind_eq_ok, Except.pure_eq_ok, Prod.ext_iff]
    constructor <;> refine fun h => h.imp ?_
    · rintro item entry ⟨c, hc, rfl, h⟩
      exact ⟨hc, h.symm⟩
    · rintro item entry ⟨hc, h⟩
      exact ⟨_, hc, rfl, h.symm⟩
  simp only [resolveEffectiveOutputAllowance, hc, Except.bind_eq_ok, hmap, Except.guard_eq_ok,
    Except.ok.injEq]
  constructor
  · rintro ⟨canonical, h, hlen, hn⟩
    rw [h.filter] at hlen hn
    exact ⟨knownCategories_iff.mpr ⟨canonical, h⟩, not_lt.mp hlen, hn.symm⟩
  · rintro ⟨hknown, hlen, rfl⟩
    obtain ⟨canonical, h⟩ := knownCategories_iff.mp hknown
    refine ⟨canonical, h, ?_⟩
    rw [h.filter]
    exact ⟨not_lt.mpr hlen, rfl⟩

/-- A policy has at most one override of a category. -/
theorem length_matchingOverrides_le (model : ModelConfig) (category : String) :
    (model.matchingOverrides category).length ≤ 1 := by
  rw [ModelConfig.matchingOverrides, List.length_map]
  have hnodup : ((model.outputTokenPolicy.categoryOverrides.filter
      (·.category.value = category)).map (·.category)).Nodup :=
    model.outputTokenPolicy.categories_nodup.sublist (List.filter_sublist.map _)
  have hcat : ∀ item ∈ model.outputTokenPolicy.categoryOverrides.filter
      (·.category.value = category), item.category.value = category := by
    simp [List.mem_filter]
  generalize model.outputTokenPolicy.categoryOverrides.filter (·.category.value = category) = items
    at hnodup hcat ⊢
  match items with
  | [] | [_] => simp
  | a :: b :: _ =>
    have hab : a.category = b.category :=
      Identifier.ext ((hcat a (by simp)).trans (hcat b (by simp)).symm)
    simp [hab] at hnodup

theorem overrideOf_eq_none {category : String} : overrideOf model category = none ↔
    ∀ item ∈ model.outputTokenPolicy.categoryOverrides, item.category.value ≠ category := by
  simp [overrideOf, ModelConfig.matchingOverrides]

/-- Outside `structured_json` serving counts the override of exactly the category. -/
theorem canonicalOverrides_of_ne (h : c ≠ .structuredJson) :
    canonicalOverrides model c = model.matchingOverrides c.value := by
  simp [canonicalOverrides, ModelConfig.matchingOverrides, h]

/-- Without a `json` override that of `structured_json` counts. -/
theorem canonicalOverrides_of_json_none (h : overrideOf model "json" = none) :
    canonicalOverrides model .structuredJson = model.matchingOverrides "structured_json" := by
  rw [canonicalOverrides, ModelConfig.matchingOverrides]
  congr 1
  refine List.filter_congr fun item hitem => ?_
  simp [RoutingCategory.value, overrideOf_eq_none.mp h item hitem]

/-- Without a `structured_json` override that of `json` counts. -/
theorem canonicalOverrides_of_structured_none (h : overrideOf model "structured_json" = none) :
    canonicalOverrides model .structuredJson = model.matchingOverrides "json" := by
  rw [canonicalOverrides, ModelConfig.matchingOverrides]
  congr 1
  refine List.filter_congr fun item hitem => ?_
  simp [RoutingCategory.value, overrideOf_eq_none.mp h item hitem]

/-- Two overrides of one canonical category cannot be resolved. -/
theorem one_lt_canonicalOverrides {a b : PositiveTokenCount} (hj : overrideOf model "json" = some a)
    (hs : overrideOf model "structured_json" = some b) :
    1 < (canonicalOverrides model .structuredJson).length := by
  have hmem {category : String} {n : PositiveTokenCount} (h : overrideOf model category = some n) :
      ∃ item ∈ model.outputTokenPolicy.categoryOverrides, item.category.value = category := by
    by_contra hnone
    push Not at hnone
    rw [overrideOf_eq_none.mpr hnone] at h
    cases h
  obtain ⟨x, hx, hxj⟩ := hmem hj
  obtain ⟨y, hy, hys⟩ := hmem hs
  rw [canonicalOverrides, List.length_map]
  by_contra hlen
  have hxmem : x ∈ model.outputTokenPolicy.categoryOverrides.filter fun item =>
      item.category.value = RoutingCategory.structuredJson.value ∨
        (item.category.value = "json" ∧ RoutingCategory.structuredJson = .structuredJson) :=
    List.mem_filter.mpr ⟨hx, by simp [hxj]⟩
  have hymem : y ∈ model.outputTokenPolicy.categoryOverrides.filter fun item =>
      item.category.value = RoutingCategory.structuredJson.value ∨
        (item.category.value = "json" ∧ RoutingCategory.structuredJson = .structuredJson) :=
    List.mem_filter.mpr ⟨hy, by simp [hys, RoutingCategory.value]⟩
  obtain ⟨z, hz⟩ := List.length_eq_one_iff.mp
    (le_antisymm (not_lt.mp hlen) (List.length_pos_of_mem hxmem))
  rw [hz, List.mem_singleton] at hxmem hymem
  rw [hxmem, ← hymem, hys] at hxj
  exact absurd hxj (by decide)

end resolve

end RouteLLM
