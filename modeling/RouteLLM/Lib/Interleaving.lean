import Mathlib.Algebra.BigOperators.Group.Finset.Basic
import Mathlib.Algebra.BigOperators.Ring.Finset
import Mathlib.Algebra.Order.BigOperators.Group.Finset
import Mathlib.Data.Fintype.Basic
import Mathlib.Data.List.Infix

/-!
# Interleaved threads

A history lists what threads do, in any order between them. What is counted over a history is the sum of
what is counted over its threads (`countP_eq_sum`); so where no thread does a thing twice, the count is the
number of the threads that have done it (`countP_eq_card`), and where a thing is done only to be undone, the
difference of the counts is the number of the threads in between (`countP_sub_eq_card`).
-/

namespace Interleaving

variable {ι τ : Type} [DecidableEq ι]

/-- What a thread has done. -/
def thread (i : ι) (history : List (ι × τ)) : List τ :=
  history.filterMap fun e => if e.1 = i then some e.2 else none

/-- Each thread has done a first part of its program. -/
def IsHistory (programs : ι → List τ) (history : List (ι × τ)) : Prop :=
  ∀ i, thread i history <+: programs i

/-- What has happened, in order. -/
def happened (history : List (ι × τ)) : List τ := history.map (·.2)

theorem thread_cons (i : ι) (e : ι × τ) (history : List (ι × τ)) :
    thread i (e :: history) = (if e.1 = i then [e.2] else []) ++ thread i history := by
  unfold thread
  rw [List.filterMap_cons]
  split <;> split <;> simp_all

/-- **Counting threads.** -/
theorem countP_eq_sum [Fintype ι] (p : τ → Bool) (history : List (ι × τ)) :
    (happened history).countP p = ∑ i, (thread i history).countP p := by
  induction history with
  | nil => simp [happened, thread]
  | cons e history ih =>
    have hfirst : ∑ i, List.countP p (if e.1 = i then [e.2] else []) = List.countP p [e.2] := by
      rw [Finset.sum_eq_single e.1]
      · rw [if_pos rfl]
      · intro i _ hne
        rw [if_neg (Ne.symm hne), List.countP_nil]
      · exact fun hnot => absurd (Finset.mem_univ _) hnot
    have hsplit : ∑ i, (thread i (e :: history)).countP p =
        List.countP p [e.2] + ∑ i, (thread i history).countP p := by
      rw [← hfirst, ← Finset.sum_add_distrib]
      exact Finset.sum_congr rfl fun i _ => by rw [thread_cons, List.countP_append]
    rw [hsplit, ← ih, ← List.countP_append]
    rfl

/-- Something that is done at most once has been done, or not. -/
theorem countP_eq_ite {p : τ → Bool} {part : List τ} (h : part.countP p ≤ 1) :
    part.countP p = if part.any p then 1 else 0 := by
  split
  · rename_i hany
    have hpos : 0 < part.countP p := List.countP_pos_iff.mpr (List.any_eq_true.mp hany)
    omega
  · rename_i hany
    refine List.countP_eq_zero.mpr fun c hc hp => hany ?_
    exact List.any_eq_true.mpr ⟨c, hc, hp⟩

variable {programs : ι → List τ} {history : List (ι × τ)}

theorem IsHistory.countP_le (h : IsHistory programs history) (p : τ → Bool) (i : ι) :
    (thread i history).countP p ≤ (programs i).countP p := (h i).sublist.countP_le

/-- **What no thread does twice** has happened as often as there are threads that have done it. -/
theorem countP_eq_card [Fintype ι] (h : IsHistory programs history) {p : τ → Bool}
    (honce : ∀ i, (programs i).countP p ≤ 1) :
    (happened history).countP p = (Finset.univ.filter fun i => (thread i history).any p).card := by
  rw [countP_eq_sum, Finset.card_filter]
  exact Finset.sum_congr rfl fun i _ => countP_eq_ite ((h.countP_le p i).trans (honce i))

/-- A program that opens at most once, and closes no more often than it has opened. -/
def Bracketed (opens closes : τ → Bool) (program : List τ) : Prop :=
  ∀ part, part <+: program → part.countP closes ≤ part.countP opens ∧ part.countP opens ≤ 1

/-- It has opened and not closed. -/
def Running (opens closes : τ → Bool) (part : List τ) : Bool := part.any opens && !part.any closes

/-- **What has opened and not closed** is counted by the difference. -/
theorem countP_sub_eq_card [Fintype ι] (h : IsHistory programs history) {opens closes : τ → Bool}
    (hbracketed : ∀ i, Bracketed opens closes (programs i)) :
    ((happened history).countP opens : ℤ) - (happened history).countP closes =
      (Finset.univ.filter fun i => Running opens closes (thread i history)).card := by
  rw [countP_eq_sum, countP_eq_sum, Finset.card_filter]
  push_cast
  rw [← Finset.sum_sub_distrib]
  refine Finset.sum_congr rfl fun i _ => ?_
  obtain ⟨hcloses, hopens⟩ := hbracketed i _ (h i)
  have hopened := countP_eq_ite hopens
  have hclosed := countP_eq_ite (hcloses.trans hopens)
  rw [hopened, hclosed] at hcloses ⊢
  cases hopen : (thread i history).any opens with
  | true => cases hclose : (thread i history).any closes <;> simp [Running, hopen, hclose]
  | false =>
    cases hclose : (thread i history).any closes with
    | true => simp [hopen, hclose] at hcloses
    | false => simp [Running, hopen]

end Interleaving
