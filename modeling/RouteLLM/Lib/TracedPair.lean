import Mathlib.Data.List.Forall2
import RouteLLM.Lib.Traced

/-!
# Two runs side by side

`Traced.Alike C E V x y`: from every state, the programs `x` and `y` end in the same state, both return
values that `V` relates or both raise exceptions that `E` relates, and record calls that `C` relates one by
one. With relations that forget a part of the data, this says that the part is not observed.
-/

/-- Two outcomes that both return, or both raise, what is related. -/
inductive Except.Alike {ε ε' α β : Type} (E : ε → ε' → Prop) (V : α → β → Prop) :
    Except ε α → Except ε' β → Prop
  | ok {a : α} {b : β} (h : V a b) : Except.Alike E V (.ok a) (.ok b)
  | error {e : ε} {e' : ε'} (h : E e e') : Except.Alike E V (.error e) (.error e')

namespace Except.Alike

variable {ε ε' α β : Type} {E : ε → ε' → Prop} {V : α → β → Prop} {r : Except ε α} {r' : Except ε' β}

theorem isOk_eq (h : Except.Alike E V r r') : r.isOk = r'.isOk := by
  cases h with
  | ok | error => rfl

end Except.Alike

namespace Traced

variable {ε ε' σ τ υ α α' β β' : Type}

/-- From every state, two programs end in one state, with related outcomes and related calls. -/
def Alike (C : τ → τ → Prop) (E : ε → ε → Prop) (V : α → α' → Prop) (x : Traced ε σ τ α)
    (y : Traced ε σ τ α') : Prop :=
  ∀ s, Except.Alike E V (x s).1 (y s).1 ∧ (x s).2.1 = (y s).2.1 ∧ List.Forall₂ C (x s).2.2 (y s).2.2

section
variable {C : τ → τ → Prop} {E : ε → ε → Prop} {V : α → α' → Prop} {W : β → β' → Prop}

theorem alike_pure {a : α} {b : α'} (h : V a b) :
    Alike C E V (pure a : Traced ε σ τ α) (pure b) := fun _ => ⟨.ok h, rfl, .nil⟩

theorem alike_raise {e e' : ε} (h : E e e') :
    Alike C E V (raise e : Traced ε σ τ α) (raise e') := fun _ => ⟨.error h, rfl, .nil⟩

theorem alike_tell {calls calls' : List τ} (h : List.Forall₂ C calls calls') :
    Alike C E Eq (tell calls : Traced ε σ τ Unit) (tell calls') := fun _ => ⟨.ok rfl, rfl, h⟩

theorem alike_tell_one {call call' : τ} (h : C call call') :
    Alike C E Eq (tell [call] : Traced ε σ τ Unit) (tell [call']) := alike_tell (.cons h .nil)

/-- The environment answers alike. -/
theorem alike_query {f : σ → α × σ} {g : σ → α' × σ} (h : ∀ s, V (f s).1 (g s).1 ∧ (f s).2 = (g s).2) :
    Alike C E V (query f : Traced ε σ τ α) (query g) := fun s => ⟨.ok (h s).1, (h s).2, .nil⟩

/-- The same question is answered alike. -/
theorem alike_query_same (f : σ → α × σ) : Alike C E Eq (query f : Traced ε σ τ α) (query f) :=
  alike_query fun _ => ⟨rfl, rfl⟩

theorem alike_ofExcept {r : Except ε α} {r' : Except ε α'} (h : Except.Alike E V r r') :
    Alike C E V (ofExcept r : Traced ε σ τ α) (ofExcept r') := by
  cases h with
  | ok h => exact alike_pure h
  | error h => exact alike_raise h

/-- The rule of sequencing. -/
theorem Alike.bind {x : Traced ε σ τ α} {y : Traced ε σ τ α'} {f : α → Traced ε σ τ β}
    {g : α' → Traced ε σ τ β'} (hxy : Alike C E V x y) (h : ∀ a b, V a b → Alike C E W (f a) (g b)) :
    Alike C E W (x >>= f) (y >>= g) := by
  intro s
  obtain ⟨hr, hs, hcalls⟩ := hxy s
  rcases hx : x s with ⟨r, t, calls⟩
  rcases hy : y s with ⟨r', t', calls'⟩
  rw [hx, hy] at hr hs hcalls
  dsimp only at hr hs hcalls
  subst hs
  cases hr with
  | ok hv =>
    obtain ⟨hr', hs', hcalls'⟩ := h _ _ hv t
    simp only [Bind.bind, hx, hy]
    exact ⟨hr', hs', List.rel_append hcalls hcalls'⟩
  | error he =>
    simp only [Bind.bind, hx, hy]
    exact ⟨.error he, trivial, hcalls⟩

/-- Programs that go on from equal values. -/
theorem Alike.bind_eq {x y : Traced ε σ τ α} {f : α → Traced ε σ τ β} {g : α → Traced ε σ τ β'}
    (hxy : Alike C E Eq x y) (h : ∀ a, Alike C E W (f a) (g a)) : Alike C E W (x >>= f) (y >>= g) :=
  hxy.bind fun a _ hab => hab ▸ h a

/-- What is attempted gives related outcomes. -/
theorem Alike.attempt {x : Traced ε σ τ α} {y : Traced ε σ τ α'} (h : Alike C E V x y) :
    Alike C E (Except.Alike E V) (attempt x) (attempt y) :=
  fun s => ⟨.ok (h s).1, (h s).2⟩

/-- Programs of another collaborator. -/
theorem Alike.embed {g : υ → τ} {D : υ → υ → Prop} {x : Traced ε σ υ α} {y : Traced ε σ υ α'}
    (h : Alike D E V x y) (hc : ∀ c c', D c c' → C (g c) (g c')) :
    Alike C E V (embed g x) (embed g y) := by
  intro s
  obtain ⟨hr, hs, hcalls⟩ := h s
  exact ⟨hr, hs,
    List.forall₂_map_left_iff.mpr (List.forall₂_map_right_iff.mpr (hcalls.imp fun _ _ => hc _ _))⟩

/-- Programs of another collaborator, under other names. -/
theorem Alike.translate {f : ε' → ε} {g : υ → τ} {D : υ → υ → Prop} {F : ε' → ε' → Prop}
    {x : Traced ε' σ υ α} {y : Traced ε' σ υ α'} (h : Alike D F V x y)
    (he : ∀ e e', F e e' → E (f e) (f e')) (hc : ∀ c c', D c c' → C (g c) (g c')) :
    Alike C E V (translate f g x) (translate f g y) := by
  intro s
  obtain ⟨hr, hs, hcalls⟩ := h s
  refine ⟨?_, hs, ?_⟩
  · rw [Traced.translate, Traced.translate]
    dsimp only
    generalize (x s).1 = r at hr ⊢
    generalize (y s).1 = r' at hr ⊢
    cases hr with
    | ok hv => exact .ok hv
    | error hf => exact .error (he _ _ hf)
  · exact List.forall₂_map_left_iff.mpr (List.forall₂_map_right_iff.mpr (hcalls.imp fun _ _ => hc _ _))

/-- A program is like itself, where the relations are reflexive. -/
theorem alike_refl (hc : ∀ c, C c c) (he : ∀ e, E e e) (x : Traced ε σ τ α) : Alike C E Eq x x := by
  intro s
  refine ⟨?_, rfl, List.forall₂_same.mpr fun c _ => hc c⟩
  cases (x s).1 with
  | ok a => exact .ok rfl
  | error e => exact .error (he e)

end

end Traced
