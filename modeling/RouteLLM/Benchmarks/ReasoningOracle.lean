import RouteLLM.Lib.PathSearch

/-!
# The reasoning oracle

The path search of `_oracle` in `benchmarks/routing_benchmark_v1.py`, whose answer the ground truth audit compares
with the canonical response of a task. A node is a value of any type with a decidable equality.
-/

namespace RouteLLM.RoutingBenchmark

open PathSearch

variable {α : Type} [DecidableEq α]

/-- A specification whose operation is `shortest`. -/
structure ShortestSpec (α : Type) where
  edges : List (α × α)
  start : α
  stop : α

/-- The answer of a search, as a text. -/
def distanceText : Option ℕ → String
  | some distance => toString distance
  | none => "-1"

/-- `_oracle` on a `shortest` specification. The queue grows while it is read, so the loop is given a number of
rounds after which it gives up. -/
def oracleShortest (fuel : ℕ) (spec : ShortestSpec α) : Option String :=
  (search spec.edges spec.stop fuel [(spec.start, 0)] [spec.start]).map distanceText

theorem distanceText_some_ne (n : ℕ) : distanceText (some n) ≠ "-1" := by
  intro h
  have hdigit : ('-').isDigit = true := by
    refine Nat.isDigit_of_mem_toDigits (b := 10) (n := n) (by omega) (by omega) ?_
    have hlist : Nat.toDigits 10 n = ['-', '1'] := String.ofList_inj.mp h
    rw [hlist]
    exact List.mem_cons_self
  cases hdigit

theorem distanceText_injective : Function.Injective distanceText := by
  intro answer answer' h
  rcases answer with _ | n
  · rcases answer' with _ | n'
    · rfl
    · exact absurd h.symm (distanceText_some_ne n')
  · rcases answer' with _ | n'
    · exact absurd h (distanceText_some_ne n)
    · have hdigits : Nat.toDigits 10 n = Nat.toDigits 10 n' := String.ofList_inj.mp h
      rw [← Nat.ofDigitChars_toDigits (b := 10) (n := n) (by omega) le_rfl, hdigits,
        Nat.ofDigitChars_toDigits (by omega) le_rfl]

/-- The search ends, and the answer tells the least number of edges from the start to the end, or that the end
is out of reach. A list of the same edges in another order has the same answer. -/
theorem oracleShortest_exact (spec : ShortestSpec α) :
    ∃ answer, (∀ fuel, spec.edges.length + 1 ≤ fuel → oracleShortest fuel spec = some answer) ∧
      (∀ n, answer = toString n ↔ IsLeast {k | Walk spec.edges spec.start spec.stop k} n) ∧
      (answer = "-1" ↔ ∀ n, ¬ Walk spec.edges spec.start spec.stop n) ∧
      ∀ edges, edges.Perm spec.edges → ∀ fuel, spec.edges.length + 1 ≤ fuel →
        oracleShortest fuel { spec with edges := edges } = some answer := by
  obtain ⟨answer, hsearch, hanswer⟩ := exists_answer spec.edges spec.start spec.stop le_rfl
  have horder : ∀ edges, edges.Perm spec.edges → ∀ fuel, spec.edges.length + 1 ≤ fuel →
      oracleShortest fuel { spec with edges := edges } = some (distanceText answer) := by
    intro edges hperm fuel hfuel
    rw [← hperm.length_eq] at hfuel
    obtain ⟨answer', hsearch', hanswer'⟩ := exists_answer edges spec.start spec.stop hfuel
    have hsame := (hanswer'.of_mem_iff fun edge => hperm.mem_iff).unique hanswer
    rw [oracleShortest, hsearch', hsame]
    rfl
  refine ⟨distanceText answer, horder spec.edges (List.Perm.refl _), fun n => ⟨fun h => ?_, fun h => ?_⟩,
    ⟨fun h => ?_, fun h => ?_⟩, horder⟩
  · rw [@distanceText_injective answer (some n) h] at hanswer
    exact hanswer
  · have hsome : Answers spec.edges spec.start spec.stop (some n) := h
    exact congrArg distanceText (hanswer.unique hsome)
  · rw [@distanceText_injective answer none h] at hanswer
    exact hanswer
  · have hnone : Answers spec.edges spec.start spec.stop none := h
    exact congrArg distanceText (hanswer.unique hnone)

end RouteLLM.RoutingBenchmark
