import RouteLLM.Lib.Traced

/-!
# Programs over a collaborator that logs

A collaborator that is a program itself records calls of its own. Where it is part of the environment
of another program, its calls go to a log in the state (`logged`), and `Logs x R` is the
postcondition of what one run of `x` returns, records and adds to the log.
-/

namespace Traced

variable {ε ε' σ τ τ' υ α β : Type}

/-- A collaborator whose calls go to the log. -/
def logged (y : Traced ε' σ υ β) : σ × List υ → Except ε' β × σ × List υ :=
  fun s => ((y s.1).1, (y s.1).2.1, s.2 ++ (y s.1).2.2)

/-- A part of the environment that leaves the log alone. -/
def unlogged (g : σ → α × σ) : σ × List υ → α × σ × List υ :=
  fun s => ((g s.1).1, (g s.1).2, s.2)

/-- From every state, what the program returns, records and adds to the log satisfies the
postcondition. -/
def Logs (x : Traced ε (σ × List υ) τ α) (R : Except ε α → List τ → List υ → Prop) : Prop :=
  ∀ s log, ∃ inner, (x (s, log)).2.1.2 = log ++ inner ∧ R (x (s, log)).1 (x (s, log)).2.2 inner

variable {x : Traced ε (σ × List υ) τ α} {f : α → Traced ε (σ × List υ) τ β}
  {R : Except ε β → List τ → List υ → Prop}

theorem Logs.mono {Q Q' : Except ε α → List τ → List υ → Prop} (h : Logs x Q)
    (himp : ∀ r calls inner, Q r calls inner → Q' r calls inner) : Logs x Q' := by
  intro s log
  obtain ⟨inner, hlog, hq⟩ := h s log
  exact ⟨inner, hlog, himp _ _ _ hq⟩

/-- A program that does what `P` says does so from every log. -/
theorem Logs.and_holds {Q : Except ε α → List τ → List υ → Prop} {P : Except ε α → List τ → Prop}
    (h : Logs x Q) (hx : Holds x P) : Logs x fun r calls inner => Q r calls inner ∧ P r calls := by
  intro s log
  obtain ⟨inner, hlog, hq⟩ := h s log
  exact ⟨inner, hlog, hq, hx (s, log)⟩

/-- The rule of sequencing: what the second program records and logs follows. -/
theorem Logs.bind {Q : Except ε α → List τ → List υ → Prop} (hx : Logs x Q)
    (hok : ∀ a calls inner, Q (.ok a) calls inner →
      Logs (f a) fun r calls' inner' => R r (calls ++ calls') (inner ++ inner'))
    (herr : ∀ e calls inner, Q (.error e) calls inner → R (.error e) calls inner) :
    Logs (x >>= f) R := by
  intro s log
  obtain ⟨inner, hlog, hq⟩ := hx s log
  rcases hxs : x (s, log) with ⟨r, ⟨s', log'⟩, calls⟩
  rw [hxs] at hlog hq
  cases r with
  | error e => exact ⟨inner, by simp only [Bind.bind, hxs]; exact hlog,
      by simpa only [Bind.bind, hxs] using herr e calls inner hq⟩
  | ok a =>
    obtain ⟨inner', hlog', hr⟩ := hok a calls inner hq s' log'
    refine ⟨inner ++ inner', ?_, ?_⟩
    · simp only [Bind.bind, hxs]
      rw [hlog', ← List.append_assoc]
      exact congrArg (· ++ inner') hlog
    · simpa only [Bind.bind, hxs] using hr

theorem logs_pure {a : α} {R : Except ε α → List τ → List υ → Prop} (h : R (.ok a) [] []) :
    Logs (pure a : Traced ε (σ × List υ) τ α) R :=
  fun _ log => ⟨[], (List.append_nil log).symm, h⟩

theorem logs_raise {e : ε} {R : Except ε α → List τ → List υ → Prop} (h : R (.error e) [] []) :
    Logs (raise e : Traced ε (σ × List υ) τ α) R :=
  fun _ log => ⟨[], (List.append_nil log).symm, h⟩

theorem logs_tell {calls : List τ} {R : Except ε Unit → List τ → List υ → Prop}
    (h : R (.ok ()) calls []) : Logs (tell calls : Traced ε (σ × List υ) τ Unit) R :=
  fun _ log => ⟨[], (List.append_nil log).symm, h⟩

/-- Recorded calls stand before those of the rest. -/
theorem logs_tell_bind {calls : List τ} {f : Unit → Traced ε (σ × List υ) τ β}
    (h : Logs (f ()) fun r calls' inner => R r (calls ++ calls') inner) :
    Logs (tell calls >>= f) R :=
  (logs_tell (R := fun r c inner => r = .ok () ∧ c = calls ∧ inner = []) ⟨rfl, rfl, rfl⟩).bind
    (fun _ _ _ hc => by obtain ⟨_, rfl, rfl⟩ := hc; exact h) (fun _ _ _ hc => nomatch hc.1)

/-- The environment may answer anything and leaves the log alone. -/
theorem logs_unlogged_bind {g : σ → α × σ} (h : ∀ a, Logs (f a) R) :
    Logs (query (unlogged g) >>= f) R :=
  fun s log => h (g s).1 (g s).2 log

/-- The calls of the collaborator are logged before what the rest logs. -/
theorem logs_logged_bind {y : Traced ε' σ υ β} {f : Except ε' β → Traced ε (σ × List υ) τ α}
    {R : Except ε α → List τ → List υ → Prop} {Q : Except ε' β → List υ → Prop} (hy : Holds y Q)
    (h : ∀ r inner, Q r inner → Logs (f r) fun r' calls inner' => R r' calls (inner ++ inner')) :
    Logs (query (logged y) >>= f) R := by
  intro s log
  obtain ⟨inner', hlog, hr⟩ := h _ _ (hy s) (y s).2.1 (log ++ (y s).2.2)
  exact ⟨(y s).2.2 ++ inner', hlog.trans (List.append_assoc _ _ _), hr⟩

/-- A part of the environment that logs what it does. -/
theorem logs_query_bind {g : σ × List υ → α × σ × List υ} {Q : α → List υ → Prop}
    (hg : ∀ s log, ∃ inner, (g (s, log)).2.2 = log ++ inner ∧ Q (g (s, log)).1 inner)
    (h : ∀ a inner, Q a inner → Logs (f a) fun r calls inner' => R r calls (inner ++ inner')) :
    Logs (query g >>= f) R := by
  intro s log
  obtain ⟨inner, hlog, hq⟩ := hg s log
  obtain ⟨inner', hlog', hr⟩ := h _ inner hq (g (s, log)).2.1 (g (s, log)).2.2
  exact ⟨inner ++ inner', by rw [← List.append_assoc, ← hlog]; exact hlog', hr⟩

/-- A program that keeps its calls to itself logs what it logs. -/
theorem logs_unheard_bind {y : Traced ε' (σ × List υ) τ' β}
    {f : Except ε' β → Traced ε (σ × List υ) τ α} {R : Except ε α → List τ → List υ → Prop}
    {Q : Except ε' β → List τ' → List υ → Prop} (hy : Logs y Q)
    (h : ∀ r calls inner, Q r calls inner →
      Logs (f r) fun r' calls' inner' => R r' calls' (inner ++ inner')) :
    Logs (query (unheard y) >>= f) R := by
  refine logs_query_bind (Q := fun r inner => ∃ calls, Q r calls inner) (fun s log => ?_) ?_
  · obtain ⟨inner, hlog, hq⟩ := hy s log
    exact ⟨inner, hlog, _, hq⟩
  · rintro r inner ⟨calls, hq⟩
    exact h r calls inner hq

/-- What is attempted raises nothing, and its outcome satisfies what the program does. -/
theorem logs_attempt_bind {Q : Except ε α → List τ → List υ → Prop}
    {f : Except ε α → Traced ε (σ × List υ) τ β} (hx : Logs x Q)
    (h : ∀ outcome calls inner, Q outcome calls inner →
      Logs (f outcome) fun r calls' inner' => R r (calls ++ calls') (inner ++ inner')) :
    Logs (attempt x >>= f) R := by
  refine Logs.bind (Q := fun r calls inner => ∃ outcome, r = .ok outcome ∧ Q outcome calls inner)
    (fun s log => ?_) ?_ ?_
  · obtain ⟨inner, hlog, hq⟩ := hx s log
    exact ⟨inner, hlog, _, rfl, hq⟩
  · rintro _ calls inner ⟨outcome, heq, hq⟩
    cases heq
    exact h _ calls inner hq
  · rintro _ _ _ ⟨_, heq, _⟩
    cases heq

/-- An embedded program logs what it logs, under the names of its calls. -/
theorem Logs.embed {g : τ' → τ} {y : Traced ε (σ × List υ) τ' α}
    {Q : Except ε α → List τ' → List υ → Prop} (hy : Logs y Q) :
    Logs (Traced.embed g y) fun r calls inner => ∃ own, calls = own.map g ∧ Q r own inner := by
  intro s log
  obtain ⟨inner, hlog, hq⟩ := hy s log
  exact ⟨inner, hlog, _, rfl, hq⟩

theorem logs_ofExcept_bind {y : Except ε α} (hok : ∀ a, y = .ok a → Logs (f a) R)
    (herr : ∀ e, y = .error e → R (.error e) [] []) : Logs (ofExcept y >>= f) R := by
  cases y with
  | ok a => exact hok a rfl
  | error e => exact fun _ log => ⟨[], (List.append_nil log).symm, herr e rfl⟩

end Traced
