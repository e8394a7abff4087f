import Mathlib.Data.List.Basic

/-!
# Programs that record their calls

A `Traced` program runs over the state of its environment, may raise, and records every call it
makes to a collaborator together with the answer. `Traced.Holds x P` is the postcondition calculus:
from every state, the result and the recorded calls of `x` satisfy `P`. The state is quantified
away, so that a fact proved with these rules holds whatever the collaborators answer.
-/

/-- A program over states `σ` that raises `ε`, records calls `τ` and returns `α`. -/
def Traced (ε σ τ α : Type) := σ → Except ε α × σ × List τ

namespace Traced

variable {ε σ τ α β : Type}

instance : Monad (Traced ε σ τ) where
  pure a s := (.ok a, s, [])
  bind x f s :=
    match x s with
    | (.ok a, s', calls) => ((f a s').1, (f a s').2.1, calls ++ (f a s').2.2)
    | (.error e, s', calls) => (.error e, s', calls)

/-- Raise an exception. -/
def raise (e : ε) : Traced ε σ τ α := fun s => (.error e, s, [])

/-- Record calls. -/
def tell (calls : List τ) : Traced ε σ τ Unit := fun s => (.ok (), s, calls)

/-- Ask the environment. -/
def query (f : σ → α × σ) : Traced ε σ τ α := fun s => (.ok (f s).1, (f s).2, [])

/-- Return or raise an outcome. -/
def ofExcept : Except ε α → Traced ε σ τ α
  | .ok a => pure a
  | .error e => raise e

/-- Run a program and return its outcome, as `try` does for its handlers. -/
def attempt (x : Traced ε σ τ α) : Traced ε σ τ (Except ε α) :=
  fun s => (.ok (x s).1, (x s).2.1, (x s).2.2)

/-- Run a program of another collaborator: its calls are recorded under `g`. -/
def embed {υ : Type} (g : υ → τ) (x : Traced ε σ υ α) : Traced ε σ τ α :=
  fun s => ((x s).1, (x s).2.1, (x s).2.2.map g)

/-- Run a program of another collaborator: what it raises is raised under `f`, and its calls are recorded
under `g`. -/
def translate {ε' υ : Type} (f : ε' → ε) (g : υ → τ) (x : Traced ε' σ υ α) : Traced ε σ τ α :=
  fun s => ((x s).1.mapError f, (x s).2.1, (x s).2.2.map g)

/-- A program of another collaborator that keeps its calls to itself. -/
def unheard {υ : Type} (x : Traced ε σ υ α) : σ → Except ε α × σ := fun s => ((x s).1, (x s).2.1)

/-- From every state, the result and the recorded calls satisfy the postcondition. -/
def Holds (x : Traced ε σ τ α) (P : Except ε α → List τ → Prop) : Prop :=
  ∀ s, P (x s).1 (x s).2.2

variable {x : Traced ε σ τ α} {f : α → Traced ε σ τ β} {P : Except ε β → List τ → Prop}

/-- The rule of consequence. -/
theorem Holds.mono {P Q : Except ε α → List τ → Prop} (h : Holds x P)
    (hpq : ∀ r calls, P r calls → Q r calls) : Holds x Q :=
  fun s => hpq _ _ (h s)

/-- The rule of conjunction. -/
theorem Holds.and {P Q : Except ε α → List τ → Prop} (hp : Holds x P) (hq : Holds x Q) :
    Holds x fun r calls => P r calls ∧ Q r calls := fun s => ⟨hp s, hq s⟩

/-- The rule of sequencing: the calls of the second program follow those of the first. -/
theorem Holds.bind {Q : Except ε α → List τ → Prop} (hx : Holds x Q)
    (hok : ∀ a calls, Q (.ok a) calls → Holds (f a) fun r calls' => P r (calls ++ calls'))
    (herr : ∀ e calls, Q (.error e) calls → P (.error e) calls) : Holds (x >>= f) P := by
  intro s
  have h := hx s
  rcases hxs : x s with ⟨r, s', calls⟩
  rw [hxs] at h
  cases r with
  | error e => simpa [Bind.bind, hxs] using herr e calls h
  | ok a => simpa [Bind.bind, hxs] using hok a calls h s'

theorem holds_pure {a : α} {P : Except ε α → List τ → Prop} (h : P (.ok a) []) :
    Holds (pure a : Traced ε σ τ α) P := fun _ => h

theorem holds_raise {e : ε} {P : Except ε α → List τ → Prop} (h : P (.error e) []) :
    Holds (raise e : Traced ε σ τ α) P := fun _ => h

theorem holds_tell {calls : List τ} {P : Except ε Unit → List τ → Prop} (h : P (.ok ()) calls) :
    Holds (tell calls : Traced ε σ τ Unit) P := fun _ => h

/-- Recorded calls stand before those of the rest. -/
theorem holds_tell_bind {calls : List τ} {f : Unit → Traced ε σ τ β}
    (h : Holds (f ()) fun r calls' => P r (calls ++ calls')) : Holds (tell calls >>= f) P :=
  (holds_tell (P := fun r c => r = .ok () ∧ c = calls) ⟨rfl, rfl⟩).bind
    (fun _ _ hc => hc.2 ▸ h) (fun _ _ hc => nomatch hc.1)

/-- The environment may answer anything. -/
theorem holds_query_bind {g : σ → α × σ} (h : ∀ a, Holds (f a) P) : Holds (query g >>= f) P :=
  fun s => h (g s).1 (g s).2

/-- The environment answers something that `g` can answer. -/
theorem holds_query_bind_of {g : σ → α × σ} (h : ∀ s, Holds (f (g s).1) P) :
    Holds (query g >>= f) P :=
  fun s => h s (g s).2

theorem holds_ofExcept_bind {y : Except ε α} (hok : ∀ a, y = .ok a → Holds (f a) P)
    (herr : ∀ e, y = .error e → P (.error e) []) : Holds (ofExcept y >>= f) P := by
  cases y with
  | ok a => exact fun s => hok a rfl s
  | error e => exact fun _ => herr e rfl

/-- What is attempted raises nothing, and its outcome satisfies what the program does. -/
theorem holds_attempt_bind {Q : Except ε α → List τ → Prop} {f : Except ε α → Traced ε σ τ β}
    (hx : Holds x Q) (h : ∀ outcome calls, Q outcome calls →
      Holds (f outcome) fun r calls' => P r (calls ++ calls')) : Holds (attempt x >>= f) P :=
  Holds.bind (Q := fun r calls => ∃ outcome, r = .ok outcome ∧ Q outcome calls)
    (fun s => ⟨_, rfl, hx s⟩)
    (by
      intro _ calls ⟨outcome, heq, hq⟩
      cases heq
      exact h _ calls hq)
    (by
      intro _ _ ⟨_, heq, _⟩
      cases heq)

/-- An embedded program does what it does, under the names of its calls. -/
theorem Holds.embed {υ : Type} {g : υ → τ} {x : Traced ε σ υ α} {Q : Except ε α → List υ → Prop}
    (hx : Holds x Q) :
    Holds (Traced.embed g x) fun r calls => ∃ inner, calls = inner.map g ∧ Q r inner :=
  fun s => ⟨_, rfl, hx s⟩

/-- A translated program does what it does, under other names. -/
theorem Holds.translate {ε' υ : Type} {f : ε' → ε} {g : υ → τ} {x : Traced ε' σ υ α}
    {Q : Except ε' α → List υ → Prop} (hx : Holds x Q) :
    Holds (Traced.translate f g x) fun r calls =>
      ∃ r' inner, r = r'.mapError f ∧ calls = inner.map g ∧ Q r' inner :=
  fun s => ⟨_, _, rfl, rfl, hx s⟩

/-! ## Calls alone -/

/-- From every state, every recorded call satisfies a predicate. -/
def Emits (x : Traced ε σ τ α) (p : τ → Prop) : Prop := ∀ s, ∀ call ∈ (x s).2.2, p call

section
variable {p : τ → Prop}

theorem Emits.holds (h : Emits x p) : Holds x fun _ calls => ∀ call ∈ calls, p call := h

theorem emits_pure (a : α) : Emits (pure a : Traced ε σ τ α) p := fun _ _ h => nomatch h

theorem emits_raise (e : ε) : Emits (raise e : Traced ε σ τ α) p := fun _ _ h => nomatch h

theorem emits_tell {calls : List τ} (h : ∀ call ∈ calls, p call) :
    Emits (tell calls : Traced ε σ τ Unit) p := fun _ => h

theorem emits_tell_one {call : τ} (h : p call) : Emits (tell [call] : Traced ε σ τ Unit) p :=
  emits_tell (by simpa using h)

theorem emits_query (g : σ → α × σ) : Emits (query g : Traced ε σ τ α) p := fun _ _ h => nomatch h

theorem emits_ofExcept (y : Except ε α) : Emits (ofExcept y : Traced ε σ τ α) p := by
  cases y with
  | ok a => exact emits_pure a
  | error e => exact emits_raise e

theorem Emits.attempt (h : Emits x p) : Emits (attempt x) p := h

theorem Emits.bind (hx : Emits x p) (hf : ∀ a, Emits (f a) p) : Emits (x >>= f) p := by
  intro s call hcall
  have h := hx s
  rcases hxs : x s with ⟨r, s', calls⟩
  rw [hxs] at h
  cases r with
  | error e =>
    simp only [Bind.bind, hxs] at hcall
    exact h call hcall
  | ok a =>
    simp only [Bind.bind, hxs, List.mem_append] at hcall
    exact hcall.elim (h call) (hf a s' call)

end

theorem Emits.embed {υ : Type} {g : υ → τ} {x : Traced ε σ υ α} {q : υ → Prop} {p : τ → Prop}
    (h : Emits x q) (hpq : ∀ call, q call → p (g call)) : Emits (Traced.embed g x) p := by
  intro s call hcall
  obtain ⟨inner, hinner, rfl⟩ := List.mem_map.mp hcall
  exact hpq inner (h s inner hinner)

theorem Emits.translate {ε' υ : Type} {f : ε' → ε} {g : υ → τ} {x : Traced ε' σ υ α} {q : υ → Prop}
    {p : τ → Prop} (h : Emits x q) (hpq : ∀ call, q call → p (g call)) :
    Emits (Traced.translate f g x) p := by
  intro s call hcall
  obtain ⟨inner, hinner, rfl⟩ := List.mem_map.mp hcall
  exact hpq inner (h s inner hinner)

/-- A returned value is that of the rest. -/
theorem emits_pure_bind {a : α} {p : τ → Prop} (h : Emits (f a) p) :
    Emits (pure a >>= f : Traced ε σ τ β) p := h

/-! ## Results alone -/

/-- Two programs that return or raise the same from every state. -/
def Agrees (x y : Traced ε σ τ α) : Prop := ∀ s, (x s).1 = (y s).1

theorem Agrees.refl (x : Traced ε σ τ α) : Agrees x x := fun _ => rfl

theorem Agrees.symm {x y : Traced ε σ τ α} (h : Agrees x y) : Agrees y x := fun s => (h s).symm

theorem Agrees.trans {x y z : Traced ε σ τ α} (hxy : Agrees x y) (hyz : Agrees y z) : Agrees x z :=
  fun s => (hxy s).trans (hyz s)

/-- Sequences agree whose second programs do. -/
theorem Agrees.bind {g : α → Traced ε σ τ β} (x : Traced ε σ τ α) (h : ∀ a, Agrees (f a) (g a)) :
    Agrees (x >>= f) (x >>= g) := by
  intro s
  rcases hxs : x s with ⟨r, s', calls⟩
  cases r with
  | error e => simp only [Bind.bind, hxs]
  | ok a =>
    simp only [Bind.bind, hxs]
    exact h a s'

/-- A program that always returns does not change what is returned after it. -/
theorem agrees_then_pure (hx : ∀ s, ∃ a, (x s).1 = .ok a) (b : β) :
    Agrees (x >>= fun _ => pure b) (pure b) := by
  intro s
  obtain ⟨a, ha⟩ := hx s
  rcases hxs : x s with ⟨r, s', calls⟩
  rw [hxs] at ha
  cases ha
  simp only [Bind.bind, hxs]
  rfl

/-- A program that always returns does not change what is raised after it. -/
theorem agrees_then_raise (hx : ∀ s, ∃ a, (x s).1 = .ok a) (e : ε) :
    Agrees (x >>= fun _ => raise e : Traced ε σ τ β) (raise e) := by
  intro s
  obtain ⟨a, ha⟩ := hx s
  rcases hxs : x s with ⟨r, s', calls⟩
  rw [hxs] at ha
  cases ha
  simp only [Bind.bind, hxs]
  rfl

end Traced
