import Mathlib.Data.List.Basic

/-!
# Writes in background threads

A call hands its writes to a thread of its own. A call that returns has done all of them; one that raised, or is
still waited for, has done some, and its thread may go on with the others at any later time. Each write is atomic.
-/

namespace WriteThreads

variable {α σ : Type} {apply : α → σ → σ} {initial : σ}

/-- What is stored, and what is left to the threads of the calls. -/
structure Disk (α σ : Type) where
  state : σ
  threads : List (List α)

/-- A thread does its next write. -/
inductive Step (apply : α → σ → σ) : Disk α σ → Disk α σ → Prop
  | write (state : σ) (before : List (List α)) (op : α) (rest : List α) (after : List (List α)) :
      Step apply ⟨state, before ++ (op :: rest) :: after⟩ ⟨apply op state, before ++ rest :: after⟩

/-- What can be stored after some calls, each with whether it has returned. -/
inductive Reached (apply : α → σ → σ) (initial : σ) : List (List α × Bool) → Disk α σ → Prop
  | start : Reached apply initial [] ⟨initial, []⟩
  | write {calls : List (List α × Bool)} {disk disk' : Disk α σ} (h : Reached apply initial calls disk)
      (hstep : Step apply disk disk') : Reached apply initial calls disk'
  | issued {calls : List (List α × Bool)} {disk : Disk α σ} (ops : List α) (h : Reached apply initial calls disk) :
      Reached apply initial (calls ++ [(ops, false)]) ⟨disk.state, disk.threads ++ [ops]⟩
  | returned {calls : List (List α × Bool)} {ops : List α} {state : σ} {threads : List (List α)}
      (h : Reached apply initial (calls ++ [(ops, false)]) ⟨state, threads ++ [[]]⟩) :
      Reached apply initial (calls ++ [(ops, true)]) ⟨state, threads ++ [[]]⟩

/-- The writes of some calls. -/
def writes (calls : List (List α × Bool)) : List α := calls.flatMap (·.1)

@[simp] theorem writes_concat (calls : List (List α × Bool)) (call : List α × Bool) :
    writes (calls ++ [call]) = writes calls ++ call.1 := by simp [writes]

/-- **The invariant rule.** What every write of the calls preserves holds of what is stored. -/
theorem Reached.invariant {I : σ → Prop} {calls : List (List α × Bool)} {disk : Disk α σ}
    (h : Reached apply initial calls disk) (hinitial : I initial)
    (hwrite : ∀ op ∈ writes calls, ∀ s, I s → I (apply op s)) :
    I disk.state ∧ ∀ thread ∈ disk.threads, thread ⊆ writes calls := by
  induction h with
  | start => exact ⟨hinitial, fun _ hmem => absurd hmem List.not_mem_nil⟩
  | write _ hstep ih =>
    obtain ⟨hstate, hthreads⟩ := ih hwrite
    cases hstep with
    | write state before op rest after =>
      obtain ⟨hop, hrest⟩ := List.cons_subset.mp (hthreads (op :: rest) (by simp))
      refine ⟨hwrite op hop state hstate, fun thread hthread => ?_⟩
      rcases List.mem_append.mp hthread with hbefore | hafter
      · exact hthreads thread (List.mem_append_left _ hbefore)
      · rcases List.mem_cons.mp hafter with rfl | hafter
        · exact hrest
        · exact hthreads thread (List.mem_append_right _ (.tail _ hafter))
  | issued ops _ ih =>
    rw [writes_concat] at hwrite ⊢
    obtain ⟨hstate, hthreads⟩ := ih fun op hop => hwrite op (List.mem_append_left _ hop)
    refine ⟨hstate, fun thread hthread => ?_⟩
    rcases List.mem_append.mp hthread with hold | hnew
    · exact fun op hop => List.mem_append_left _ (hthreads thread hold hop)
    · rw [List.mem_singleton.mp hnew]
      exact List.subset_append_right _ _
  | returned _ ih =>
    rw [writes_concat] at hwrite ih ⊢
    exact ih hwrite

/-- The threads of calls that returned have nothing left. -/
theorem last_thread {idle : List (List α)} (hidle : ∀ thread ∈ idle, thread = []) {remaining : List α}
    {before after : List (List α)} {op : α} {rest : List α}
    (h : idle ++ [remaining] = before ++ (op :: rest) :: after) :
    before = idle ∧ remaining = op :: rest ∧ after = [] := by
  rcases List.append_eq_append_iff.mp h with ⟨a, hbefore, hlast⟩ | ⟨c, hidle', hlast⟩
  · rcases a with _ | ⟨x, a⟩
    · obtain ⟨hremaining, hafter⟩ := List.cons.inj hlast
      exact ⟨by rw [hbefore, List.append_nil], hremaining, hafter.symm⟩
    · obtain ⟨-, hnil⟩ := List.cons.inj hlast
      simp at hnil
  · rcases c with _ | ⟨x, c⟩
    · obtain ⟨hremaining, hafter⟩ := List.cons.inj hlast
      exact ⟨by rw [hidle', List.append_nil], hremaining.symm, hafter⟩
    · obtain ⟨hop, -⟩ := List.cons.inj hlast
      have hnil := hidle x (by rw [hidle']; simp)
      rw [hnil] at hop
      cases hop

/-- What is stored while the last of some calls is waited for, the others having returned. -/
def InTurn (apply : α → σ → σ) (initial : σ) (calls : List (List α × Bool)) (ops : List α) (disk : Disk α σ) : Prop :=
  ∃ idle done rest, (∀ thread ∈ idle, thread = []) ∧ ops = done ++ rest ∧ disk.threads = idle ++ [rest] ∧
    disk.state = (writes calls ++ done).foldl (fun s op => apply op s) initial

/-- Calls that have all returned have done all their writes, in order. -/
structure Settled (apply : α → σ → σ) (initial : σ) (calls : List (List α × Bool)) (disk : Disk α σ) : Prop where
  idle : ∀ thread ∈ disk.threads, thread = []
  state : disk.state = (writes calls).foldl (fun s op => apply op s) initial

theorem Reached.in_order {calls : List (List α × Bool)} {disk : Disk α σ} (h : Reached apply initial calls disk) :
    ((∀ call ∈ calls, call.2 = true) → Settled apply initial calls disk) ∧
      ∀ front ops, calls = front ++ [(ops, false)] → (∀ call ∈ front, call.2 = true) →
        InTurn apply initial front ops disk := by
  induction h with
  | start =>
    refine ⟨fun _ => ⟨fun _ hmem => absurd hmem List.not_mem_nil, rfl⟩, fun front ops heq => ?_⟩
    simp at heq
  | write _ hstep ih =>
    cases hstep with
    | write state before op rest after =>
      refine ⟨fun hall => ?_, fun front ops heq hfront => ?_⟩
      · have hnil := (ih.1 hall).idle (op :: rest) (by simp)
        cases hnil
      · obtain ⟨idle, done, remaining, hidle, hops, hthreads, hstate⟩ := ih.2 front ops heq hfront
        obtain ⟨rfl, rfl, rfl⟩ := last_thread hidle hthreads.symm
        refine ⟨before, done ++ [op], rest, hidle, by rw [hops, List.append_assoc]; rfl, rfl, ?_⟩
        rw [← List.append_assoc, List.foldl_append, ← hstate]
        rfl
  | @issued calls disk ops _ ih =>
    refine ⟨fun hall => ?_, fun front ops' heq hfront => ?_⟩
    · have hfalse := hall (ops, false) (by simp)
      cases hfalse
    · obtain ⟨rfl, hlast⟩ := List.append_inj' heq rfl
      cases hlast
      obtain ⟨hidle, hstate⟩ := ih.1 hfront
      exact ⟨disk.threads, [], ops, hidle, rfl, rfl, by rw [List.append_nil]; exact hstate⟩
  | @returned calls ops state threads _ ih =>
    refine ⟨fun hall => ?_, fun front ops' heq hfront => ?_⟩
    · have hfront : ∀ call ∈ calls, call.2 = true := fun call hcall => hall call (List.mem_append_left _ hcall)
      obtain ⟨idle, done, rest, hidle, hops, hthreads, hstate⟩ := ih.2 calls ops rfl hfront
      obtain ⟨rfl, hlast⟩ := List.append_inj' hthreads rfl
      cases hlast
      rw [List.append_nil] at hops
      refine ⟨fun thread hthread => ?_, by rw [writes_concat, hops]; exact hstate⟩
      rcases List.mem_append.mp hthread with hmem | hmem
      · exact hidle thread hmem
      · exact List.mem_singleton.mp hmem
    · obtain ⟨-, hlast⟩ := List.append_inj' heq rfl
      cases hlast

/-- **Calls that have all returned** leave what their writes make in order. -/
theorem Reached.state_eq {calls : List (List α × Bool)} {disk : Disk α σ} (h : Reached apply initial calls disk)
    (hall : ∀ call ∈ calls, call.2 = true) :
    disk.state = (writes calls).foldl (fun s op => apply op s) initial :=
  (h.in_order.1 hall).state

end WriteThreads
