import RouteLLM.Errors
import RouteLLM.Lib.AssocList
import RouteLLM.Lib.Except

/-!
# The model registry

`registry/model_registry.py`: the models of a process by id, in the order of their registration.
-/

namespace RouteLLM

/-- `ModelRegistry`. Registering an id twice raises, so that the ids are distinct. -/
structure ModelRegistry where
  models : List ModelConfig
  ids_nodup : (models.map (·.modelId.value)).Nodup

namespace ModelRegistry

/-- `get`. The message quotes the id as `repr` does where the id has no quote. -/
def get (registry : ModelRegistry) (modelId : String) : Except Exc ModelConfig :=
  match registry.models.find? (·.modelId.value = modelId) with
  | some model => .ok model
  | none => .error (.raised .modelNotFoundError ("Unknown model: '" ++ modelId ++ "'"))

variable {registry : ModelRegistry} {model : ModelConfig} {modelId : String}

/-- A model that is found is registered under the id. -/
theorem get_eq_ok (h : registry.get modelId = .ok model) :
    model ∈ registry.models ∧ model.modelId.value = modelId := by
  rw [get] at h
  split at h
  · rename_i found hfound
    injection h with h
    subst h
    have hid := List.find?_some hfound
    exact ⟨List.mem_of_find?_eq_some hfound, by simpa using hid⟩
  · cases h

/-- An unknown id raises a `ModelNotFoundError`. -/
theorem get_eq_error {e : Exc} (h : registry.get modelId = .error e) :
    ∃ message, e = .raised .modelNotFoundError message := by
  rw [get] at h
  split at h
  · cases h
  · injection h with h
    exact ⟨_, h.symm⟩

/-- A registered model is found under its id. -/
theorem get_of_mem (h : model ∈ registry.models) : registry.get model.modelId.value = .ok model := by
  have hfound := AssocList.find?_of_nodup registry.ids_nodup h
  rw [get, hfound]

/-! ## Registration -/

/-- `ModelRegistry()`. -/
def empty : ModelRegistry := ⟨[], List.nodup_nil⟩

/-- `register`. The exception is a `DuplicateModelError`, which is a `ValueError`. -/
def register (registry : ModelRegistry) (model : ModelConfig) : Except Exc ModelRegistry :=
  if h : model.modelId.value ∈ registry.models.map (·.modelId.value) then
    .error (.raised .valueError ("Model already registered: '" ++ model.modelId.value ++ "'"))
  else
    .ok {
      models := registry.models ++ [model]
      ids_nodup := by
        rw [List.map_append, List.nodup_append]
        refine ⟨registry.ids_nodup, List.nodup_singleton _, ?_⟩
        rintro _ hold _ hnew rfl
        rw [List.map_singleton, List.mem_singleton] at hnew
        exact h (hnew ▸ hold) }

theorem ext {registry registry' : ModelRegistry} (h : registry.models = registry'.models) :
    registry = registry' := by
  cases registry
  cases registry'
  cases h
  rfl

/-- A model is registered last, where its id is new. -/
theorem register_eq_ok {registered : ModelRegistry} : registry.register model = .ok registered ↔
    registered.models = registry.models ++ [model] ∧
      model.modelId.value ∉ registry.models.map (·.modelId.value) := by
  unfold register
  split
  · rename_i hmem
    exact ⟨fun h => (by cases h), fun h => absurd hmem h.2⟩
  · rename_i hnew
    refine ⟨fun h => ?_, fun h => congrArg _ (ext h.1.symm)⟩
    cases h
    exact ⟨rfl, hnew⟩

/-- Models are registered in their order, exactly where the ids are distinct. -/
theorem foldlM_register_eq_ok {models : List ModelConfig} {registered : ModelRegistry} :
    models.foldlM register registry = .ok registered ↔
      registered.models = registry.models ++ models ∧
        ((registry.models ++ models).map (·.modelId.value)).Nodup := by
  induction models generalizing registry with
  | nil =>
    rw [List.foldlM_nil, List.append_nil, Except.pure_eq_ok]
    exact ⟨fun h => ⟨congrArg _ h.symm, registry.ids_nodup⟩, fun h => ext h.1.symm⟩
  | cons model models ih =>
    rw [List.foldlM_cons, Except.bind_eq_ok, List.append_cons]
    constructor
    · rintro ⟨next, hnext, h⟩
      rw [← (register_eq_ok.mp hnext).1]
      exact ih.mp h
    · rintro ⟨hmodels, hnodup⟩
      have hnew : model.modelId.value ∉ registry.models.map (·.modelId.value) := by
        rw [List.append_assoc, List.map_append, List.nodup_append] at hnodup
        exact fun hmem => hnodup.2.2 _ hmem _ (List.mem_cons_self) rfl
      obtain ⟨next, hnext⟩ : ∃ next, registry.register model = .ok next := by
        rw [register, dif_neg hnew]
        exact ⟨_, rfl⟩
      refine ⟨next, hnext, ih.mpr ?_⟩
      rw [(register_eq_ok.mp hnext).1]
      exact ⟨hmodels, hnodup⟩

end ModelRegistry

end RouteLLM
