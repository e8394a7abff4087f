import Mathlib.Data.List.Nodup
import Mathlib.Order.Bounds.Basic
import Mathlib.Data.List.Perm.Subperm

/-!
# Breadth-first search over a list of edges

A queue of nodes with their distances, read from the front while it grows at the end, and the set of the nodes
that were ever in it. The nodes that were read are closed under edges, and the queue is ordered by distance with
at most one step between its ends: so the distance of a node is the least length of a walk to it.
-/

namespace PathSearch

variable {α : Type} {edges : List (α × α)} {start : α}

/-- A walk of a number of edges from the start. -/
inductive Walk (edges : List (α × α)) (start : α) : α → ℕ → Prop
  | nil : Walk edges start start 0
  | step {a b n} (h : Walk edges start a n) (hedge : (a, b) ∈ edges) : Walk edges start b (n + 1)

/-- One round of the loop over the edges: the target of an edge from the node is queued unless it was seen. -/
def relax [DecidableEq α] (node : α) (distance : ℕ) (state : List (α × ℕ) × List α) (edge : α × α) :
    List (α × ℕ) × List α :=
  if edge.1 = node ∧ edge.2 ∉ state.2 then (state.1 ++ [(edge.2, distance + 1)], state.2 ++ [edge.2])
  else state

/-- The loop over the queue, which tells the distance of the node that it looks for, or none where the queue
ends. It gives up after a number of rounds. -/
def search [DecidableEq α] (edges : List (α × α)) (stop : α) : ℕ → List (α × ℕ) → List α → Option (Option ℕ)
  | _, [], _ => some none
  | 0, _ :: _, _ => none
  | fuel + 1, (node, distance) :: queue, seen =>
    if node = stop then some (some distance)
    else
      let state := edges.foldl (relax node distance) (queue, seen)
      search edges stop fuel state.1 state.2

/-! ## The nodes of a round -/

/-- The nodes that a round adds to the queue. -/
structure Discovered (edges : List (α × α)) (node : α) (seen added : List α) : Prop where
  nodup : added.Nodup
  fresh : ∀ b ∈ added, b ∉ seen
  edge : ∀ b ∈ added, (node, b) ∈ edges
  complete : ∀ b, (node, b) ∈ edges → b ∈ seen ++ added

/-- A round adds the targets of the node that were not seen. -/
theorem exists_discovered [DecidableEq α] (edges : List (α × α)) (node : α) (distance : ℕ)
    (queue : List (α × ℕ)) (seen : List α) : ∃ added, edges.foldl (relax node distance) (queue, seen) =
      (queue ++ added.map (·, distance + 1), seen ++ added) ∧ Discovered edges node seen added := by
  induction edges generalizing queue seen with
  | nil =>
    refine ⟨[], by simp, List.nodup_nil, ?_, ?_, ?_⟩
    · intro b hb
      cases hb
    · intro b hb
      cases hb
    · intro b hb
      cases hb
  | cons edge edges ih =>
    rw [List.foldl_cons]
    by_cases hnew : edge.1 = node ∧ edge.2 ∉ seen
    · obtain ⟨added, heq, hadded⟩ := ih (queue ++ [(edge.2, distance + 1)]) (seen ++ [edge.2])
      refine ⟨edge.2 :: added, ?_, ?_, ?_, ?_, ?_⟩
      · rw [relax, if_pos hnew, heq, List.append_assoc, List.append_assoc]
        rfl
      · refine List.nodup_cons.mpr ⟨fun hmem => hadded.fresh _ hmem ?_, hadded.nodup⟩
        exact List.mem_append_right _ List.mem_cons_self
      · refine List.forall_mem_cons.mpr ⟨hnew.2, fun b hb hseen => hadded.fresh b hb ?_⟩
        exact List.mem_append_left _ hseen
      · refine List.forall_mem_cons.mpr ⟨?_, fun b hb => List.mem_cons_of_mem _ (hadded.edge b hb)⟩
        rw [← hnew.1]
        exact List.mem_cons_self
      · intro b hb
        have hrest : b ∈ seen ++ [edge.2] ++ added := by
          rcases List.mem_cons.mp hb with hb | hb
          · rw [← hb]
            simp
          · exact hadded.complete b hb
        rwa [List.append_assoc] at hrest
    · obtain ⟨added, heq, hadded⟩ := ih queue seen
      refine ⟨added, by rw [relax, if_neg hnew, heq], hadded.nodup, hadded.fresh,
        fun b hb => List.mem_cons_of_mem _ (hadded.edge b hb), fun b hb => ?_⟩
      rcases List.mem_cons.mp hb with hb | hb
      · have hseen : b ∈ seen := by
          by_contra hb'
          exact hnew (by rw [← hb]; exact ⟨rfl, hb'⟩)
        exact List.mem_append_left _ hseen
      · exact hadded.complete b hb

/-! ## The invariant -/

/-- The distance is the least length of a walk. -/
def Nearest (edges : List (α × α)) (start : α) (entry : α × ℕ) : Prop :=
  IsLeast {n | Walk edges start entry.1 n} entry.2

/-- What holds of the nodes that were read, of the queue and of the nodes that were seen. -/
structure Invariant (edges : List (α × α)) (start stop : α) (done : List α) (queue : List (α × ℕ))
    (seen : List α) : Prop where
  seen_perm : seen.Perm (done ++ queue.map Prod.fst)
  seen_nodup : seen.Nodup
  start_mem : start ∈ seen
  target : ∀ b ∈ seen, b = start ∨ ∃ a, (a, b) ∈ edges
  stop_not_mem : stop ∉ done
  closed : ∀ a ∈ done, ∀ b, (a, b) ∈ edges → b ∈ seen
  nearest : ∀ entry ∈ queue, Nearest edges start entry
  sorted : queue.Pairwise (·.2 ≤ ·.2)
  band : ∀ entry ∈ queue.head?, ∀ other ∈ queue, other.2 ≤ entry.2 + 1

variable {stop : α} {done seen : List α} {queue : List (α × ℕ)}

/-- A walk to a node that was not seen leaves the seen nodes from the queue. -/
theorem Invariant.exists_exit (h : Invariant edges start stop done queue seen) {b : α} {n : ℕ}
    (hwalk : Walk edges start b n) (hb : b ∉ seen) : ∃ entry ∈ queue, entry.2 < n := by
  induction hwalk with
  | nil => exact absurd h.start_mem hb
  | @step a b n hwalk hedge ih =>
    by_cases ha : a ∈ seen
    · rcases List.mem_append.mp (h.seen_perm.mem_iff.mp ha) with hdone | hqueue
      · exact absurd (h.closed a hdone b hedge) hb
      · obtain ⟨entry, hentry, rfl⟩ := List.mem_map.mp hqueue
        exact ⟨entry, hentry, Nat.lt_succ_of_le ((h.nearest entry hentry).2 hwalk)⟩
    · obtain ⟨entry, hentry, hlt⟩ := ih ha
      exact ⟨entry, hentry, Nat.lt_succ_of_lt hlt⟩

/-- The start alone, before the loop. -/
theorem Invariant.initial (edges : List (α × α)) (start stop : α) :
    Invariant edges start stop [] [(start, 0)] [start] := by
  refine ⟨List.Perm.refl _, List.nodup_singleton _, List.mem_singleton_self _, ?_, List.not_mem_nil, ?_, ?_,
    List.pairwise_singleton _ _, ?_⟩
  · intro b hb
    exact Or.inl (List.mem_singleton.mp hb)
  · intro a ha
    cases ha
  · intro entry hentry
    rw [List.mem_singleton.mp hentry]
    exact ⟨Walk.nil, fun n _ => Nat.zero_le n⟩
  · intro entry _ other hother
    rw [List.mem_singleton.mp hother]
    exact Nat.zero_le _

variable {node : α} {distance : ℕ} {added : List α}

/-- No entry of the queue is nearer than its head. -/
theorem Invariant.head_le (h : Invariant edges start stop done ((node, distance) :: queue) seen)
    {entry : α × ℕ} (hentry : entry ∈ (node, distance) :: queue) : distance ≤ entry.2 := by
  rcases List.mem_cons.mp hentry with rfl | hentry
  · exact le_rfl
  · exact (List.pairwise_cons.mp h.sorted).1 entry hentry

/-- No entry of the queue is more than a step farther than its head. -/
theorem Invariant.le_head_add_one (h : Invariant edges start stop done ((node, distance) :: queue) seen)
    {entry : α × ℕ} (hentry : entry ∈ (node, distance) :: queue) : entry.2 ≤ distance + 1 :=
  h.band (node, distance) rfl entry hentry

/-- A target that was not seen is one step farther than the head of the queue. -/
theorem Invariant.nearest_added (h : Invariant edges start stop done ((node, distance) :: queue) seen)
    {b : α} (hedge : (node, b) ∈ edges) (hb : b ∉ seen) : Nearest edges start (b, distance + 1) := by
  refine ⟨Walk.step (h.nearest (node, distance) List.mem_cons_self).1 hedge, fun n hwalk => ?_⟩
  obtain ⟨entry, hentry, hlt⟩ := h.exists_exit hwalk hb
  exact Nat.succ_le_of_lt (lt_of_le_of_lt (h.head_le hentry) hlt)

/-- A round of the loop over the queue keeps the invariant. -/
theorem Invariant.step (h : Invariant edges start stop done ((node, distance) :: queue) seen)
    (hadded : Discovered edges node seen added) (hnode : node ≠ stop) :
    Invariant edges start stop (done ++ [node]) (queue ++ added.map (·, distance + 1)) (seen ++ added) := by
  have hfst : (added.map (·, distance + 1)).map Prod.fst = added := by
    rw [List.map_map]
    exact List.map_id _
  have hqueue : ∀ entry ∈ queue ++ added.map (·, distance + 1), entry ∈ (node, distance) :: queue ∨
      ∃ b ∈ added, entry = (b, distance + 1) := by
    intro entry hentry
    rcases List.mem_append.mp hentry with hentry | hentry
    · exact Or.inl (List.mem_cons_of_mem _ hentry)
    · obtain ⟨b, hb, rfl⟩ := List.mem_map.mp hentry
      exact Or.inr ⟨b, hb, rfl⟩
  have hlow : ∀ entry ∈ queue ++ added.map (·, distance + 1), distance ≤ entry.2 := by
    intro entry hentry
    rcases hqueue entry hentry with hentry | ⟨b, _, rfl⟩
    · exact h.head_le hentry
    · exact Nat.le_succ _
  have hhigh : ∀ entry ∈ queue ++ added.map (·, distance + 1), entry.2 ≤ distance + 1 := by
    intro entry hentry
    rcases hqueue entry hentry with hentry | ⟨b, _, rfl⟩
    · exact h.le_head_add_one hentry
    · exact le_rfl
  refine ⟨?_, ?_, List.mem_append_left _ h.start_mem, ?_, ?_, ?_, ?_, ?_, ?_⟩
  · rw [List.map_append, hfst, List.append_assoc, List.singleton_append, ← List.cons_append, ← List.append_assoc]
    exact h.seen_perm.append_right added
  · refine h.seen_nodup.append hadded.nodup fun b hseen hb => ?_
    exact hadded.fresh b hb hseen
  · intro b hb
    rcases List.mem_append.mp hb with hb | hb
    · exact h.target b hb
    · exact Or.inr ⟨node, hadded.edge b hb⟩
  · intro hmem
    rcases List.mem_append.mp hmem with hmem | hmem
    · exact h.stop_not_mem hmem
    · exact hnode (List.mem_singleton.mp hmem).symm
  · intro a ha b hedge
    rcases List.mem_append.mp ha with ha | ha
    · exact List.mem_append_left _ (h.closed a ha b hedge)
    · rw [List.mem_singleton.mp ha] at hedge
      exact hadded.complete b hedge
  · intro entry hentry
    rcases hqueue entry hentry with hentry | ⟨b, hb, rfl⟩
    · exact h.nearest entry hentry
    · exact h.nearest_added (hadded.edge b hb) (hadded.fresh b hb)
  · refine List.pairwise_append.mpr ⟨(List.pairwise_cons.mp h.sorted).2, ?_, ?_⟩
    · refine List.pairwise_map.mpr (List.pairwise_of_forall fun a b => ?_)
      exact le_rfl
    · intro entry hentry other hother
      obtain ⟨b, _, rfl⟩ := List.mem_map.mp hother
      exact h.le_head_add_one (List.mem_cons_of_mem _ hentry)
  · intro entry hentry other hother
    have hmem := List.mem_of_mem_head? hentry
    exact le_trans (hhigh other hother) (Nat.succ_le_succ (hlow entry hmem))

/-! ## The answer -/

/-- What the loop tells: the least length of a walk, or that there is none. -/
def Answers (edges : List (α × α)) (start stop : α) : Option ℕ → Prop
  | some n => IsLeast {n | Walk edges start stop n} n
  | none => ∀ n, ¬ Walk edges start stop n

/-- Where the queue ends, no walk leads to the node that is looked for. -/
theorem Invariant.answers_nil (h : Invariant edges start stop done [] seen) : Answers edges start stop none := by
  have hstop : stop ∉ seen := by
    intro hmem
    have hdone := h.seen_perm.mem_iff.mp hmem
    rw [List.map_nil, List.append_nil] at hdone
    exact h.stop_not_mem hdone
  intro n hwalk
  obtain ⟨entry, hentry, _⟩ := h.exists_exit hwalk hstop
  cases hentry

/-- The nodes that were seen are the start and targets of edges. -/
theorem Invariant.length_le (h : Invariant edges start stop done queue seen) :
    done.length + queue.length ≤ edges.length + 1 := by
  have hlength := h.seen_perm.length_eq
  rw [List.length_append, List.length_map] at hlength
  have hsub : seen ⊆ start :: edges.map Prod.snd := by
    intro b hb
    rcases h.target b hb with rfl | ⟨a, hedge⟩
    · exact List.mem_cons_self
    · exact List.mem_cons_of_mem _ (List.mem_map.mpr ⟨(a, b), hedge, rfl⟩)
  have hle := (h.seen_nodup.subperm hsub).length_le
  rw [List.length_cons, List.length_map] at hle
  omega

/-- The loop answers within a round for each edge and one for the start. -/
theorem Invariant.exists_answer [DecidableEq α] (fuel : ℕ) (h : Invariant edges start stop done queue seen)
    (hfuel : edges.length + 1 ≤ done.length + fuel) :
    ∃ answer, search edges stop fuel queue seen = some answer ∧ Answers edges start stop answer := by
  induction fuel generalizing done queue seen with
  | zero =>
    have hlength := h.length_le
    obtain rfl : queue = [] := List.length_eq_zero_iff.mp (by omega)
    exact ⟨none, rfl, h.answers_nil⟩
  | succ fuel ih =>
    rcases queue with _ | ⟨⟨node, distance⟩, queue⟩
    · exact ⟨none, rfl, h.answers_nil⟩
    · by_cases hstop : node = stop
      · refine ⟨some distance, by rw [search, if_pos hstop], ?_⟩
        have hnear := h.nearest (node, distance) List.mem_cons_self
        rw [hstop] at hnear
        exact hnear
      · obtain ⟨added, heq, hadded⟩ := exists_discovered edges node distance queue seen
        rw [search, if_neg hstop, heq]
        refine ih (h.step hadded hstop) ?_
        rw [List.length_append, List.length_singleton]
        omega

/-- The search from the start tells the least length of a walk, or that there is none. -/
theorem exists_answer [DecidableEq α] (edges : List (α × α)) (start stop : α) {fuel : ℕ}
    (hfuel : edges.length + 1 ≤ fuel) :
    ∃ answer, search edges stop fuel [(start, 0)] [start] = some answer ∧
      Answers edges start stop answer :=
  (Invariant.initial edges start stop).exists_answer fuel (by rw [List.length_nil]; omega)

/-- There is one answer. -/
theorem Answers.unique {answer answer' : Option ℕ} (h : Answers edges start stop answer)
    (h' : Answers edges start stop answer') : answer = answer' := by
  rcases answer with _ | n
  · rcases answer' with _ | n
    · rfl
    · exact absurd h'.1 (h n)
  · rcases answer' with _ | n'
    · exact absurd h.1 (h' n)
    · exact congrArg some (IsLeast.unique h h')

/-- The walks do not depend on the order of the edges, nor on how often an edge is listed. -/
theorem Walk.of_subset {edges' : List (α × α)} (hsub : edges ⊆ edges') {b : α} {n : ℕ}
    (h : Walk edges start b n) : Walk edges' start b n := by
  induction h with
  | nil => exact Walk.nil
  | step _ hedge ih => exact Walk.step ih (hsub hedge)

/-- Lists with the same edges have the same answer. -/
theorem Answers.of_mem_iff {edges' : List (α × α)} (hmem : ∀ edge, edge ∈ edges ↔ edge ∈ edges')
    {answer : Option ℕ} (h : Answers edges start stop answer) : Answers edges' start stop answer := by
  have hwalk : ∀ n, Walk edges start stop n ↔ Walk edges' start stop n := fun n =>
    ⟨Walk.of_subset fun edge hedge => (hmem edge).mp hedge, Walk.of_subset fun edge hedge => (hmem edge).mpr hedge⟩
  rcases answer with _ | n
  · intro n hn
    exact h n ((hwalk n).mpr hn)
  · exact ⟨(hwalk n).mp h.1, fun m hm => h.2 ((hwalk m).mpr hm)⟩

end PathSearch
