import RouteLLM.Lib.Traced

/-!
# What a program leaves in its state

Hoare triples for `Traced` programs: the precondition is of the state, the postcondition of the
outcome and of the state that is left. A program keeps an invariant (`Keeps`) where it leaves it true
however it ends.
-/

namespace Traced

variable {ε ε' σ τ τ' υ α β : Type}

/-- End with an outcome and its calls. -/
def report (answer : Except ε α × List τ) : Traced ε σ τ α := fun s => (answer.1, s, answer.2)

/-- From every state with the precondition, the outcome and the state that is left satisfy the
postcondition. -/
def Triple (P : σ → Prop) (x : Traced ε σ τ α) (Q : Except ε α → σ → Prop) : Prop :=
  ∀ s, P s → Q (x s).1 (x s).2.1

/-- The program leaves the invariant true, however it ends. -/
def Keeps (I : σ → Prop) (x : Traced ε σ τ α) : Prop := Triple I x fun _ => I

variable {P I : σ → Prop} {x : Traced ε σ τ α} {f : α → Traced ε σ τ β} {Q : Except ε β → σ → Prop}

/-- The rule of sequencing. -/
theorem Triple.bind {R : Except ε α → σ → Prop} (hx : Triple P x R)
    (hok : ∀ a, Triple (R (.ok a)) (f a) Q) (herr : ∀ e s, R (.error e) s → Q (.error e) s) :
    Triple P (x >>= f) Q := by
  intro s hs
  have h := hx s hs
  rcases hxs : x s with ⟨r, s', calls⟩
  rw [hxs] at h
  cases r with
  | error e => simpa only [Bind.bind, hxs] using herr e s' h
  | ok a => simpa only [Bind.bind, hxs] using hok a s' h

/-- The environment answers and moves as `g` does. -/
theorem triple_query_bind {g : σ → α × σ} {R : α → σ → Prop} (hg : ∀ s, P s → R (g s).1 (g s).2)
    (h : ∀ a, Triple (R a) (f a) Q) : Triple P (query g >>= f) Q :=
  fun s hs => h (g s).1 (g s).2 (hg s hs)

/-! ## Invariants -/

theorem keeps_pure (a : α) : Keeps I (pure a : Traced ε σ τ α) := fun _ hs => hs

theorem keeps_raise (e : ε) : Keeps I (raise e : Traced ε σ τ α) := fun _ hs => hs

theorem keeps_tell (calls : List τ) : Keeps I (tell calls : Traced ε σ τ Unit) := fun _ hs => hs

theorem keeps_report (answer : Except ε α × List τ) :
    Keeps I (report answer : Traced ε σ τ α) := fun _ hs => hs

theorem keeps_ofExcept (y : Except ε α) : Keeps I (ofExcept y : Traced ε σ τ α) := by
  cases y with
  | ok a => exact keeps_pure a
  | error e => exact keeps_raise e

/-- What keeps an invariant leaves it true after any precondition that implies it. -/
theorem Keeps.after (hx : Keeps I x) (h : ∀ s, P s → I s) : Triple P x fun _ => I :=
  fun s hs => hx s (h s hs)

/-- A sequence keeps what both programs keep. -/
theorem Keeps.bind (hx : Keeps I x) (hf : ∀ a, Keeps I (f a)) : Keeps I (x >>= f) :=
  Triple.bind hx hf fun _ _ hs => hs

theorem keeps_pure_bind {a : α} (h : Keeps I (f a)) :
    Keeps I ((pure a : Traced ε σ τ α) >>= f) := fun s hs => h s hs

/-- What is attempted keeps what it keeps. -/
theorem Keeps.attempt (hx : Keeps I x) : Keeps I (Traced.attempt x) := fun s hs => hx s hs

/-- A part of the environment keeps an invariant of the state. -/
theorem keeps_query {g : σ → α × σ} (hg : ∀ s, I s → I (g s).2) :
    Keeps I (query g : Traced ε σ τ α) := fun s hs => hg s hs

/-- A program that keeps its calls to itself keeps what it keeps. -/
theorem keeps_unheard {y : Traced ε' σ τ' β} (hy : Keeps I y) :
    Keeps I (query (unheard y) : Traced ε σ τ (Except ε' β)) := fun s hs => hy s hs

end Traced
