import RouteLLM.Lib.PyStr

/-!
# The Unicode database

What `str` methods and patterns read of the Unicode database, with the facts that hold in every version of
it. A result for every database holds for the one that an interpreter was built with.
-/

/-- The tables of a version of the database. -/
structure UnicodeData where
  /-- The decimal digits, which `\d` matches. -/
  isDecimal : ℕ → Bool
  /-- The characters that `str.isalnum` accepts. -/
  isAlnum : ℕ → Bool
  /-- The full case folding of a code point. -/
  fold : ℕ → PyStr
  isDecimal_ascii : ∀ n < 128, isDecimal n = (48 ≤ n && n ≤ 57)
  isDecimal_space : ∀ n, isDecimal n = true → PyStr.isSpace n = false
  isAlnum_ascii : ∀ n < 128, isAlnum n =
    ((48 ≤ n && n ≤ 57) || (65 ≤ n && n ≤ 90) || (97 ≤ n && n ≤ 122))
  isAlnum_decimal : ∀ n, isDecimal n = true → isAlnum n = true
  fold_ascii : ∀ n < 128, fold n = [if 65 ≤ n ∧ n ≤ 90 then n + 32 else n]
  fold_ne_nil : ∀ n, fold n ≠ []
  fold_lower : ∀ n, ∀ c ∈ fold n, ¬ (65 ≤ c ∧ c ≤ 90)

namespace UnicodeData

variable (unicode : UnicodeData)

/-- `str.casefold()`. -/
def casefold (s : PyStr) : PyStr := s.flatMap unicode.fold

@[simp] theorem casefold_append (s t : PyStr) :
    unicode.casefold (s ++ t) = unicode.casefold s ++ unicode.casefold t :=
  List.flatMap_append

/-- No text folds to the text that it starts. -/
theorem casefold_concat_ne (s : PyStr) (n : ℕ) : unicode.casefold (s ++ [n]) ≠ unicode.casefold s := by
  rw [casefold_append]
  intro h
  have hnil := List.append_right_eq_self.mp h
  rw [casefold, List.flatMap_singleton] at hnil
  exact unicode.fold_ne_nil n hnil

/-- The tables restricted to ASCII. -/
def ascii : UnicodeData where
  isDecimal n := 48 ≤ n && n ≤ 57
  isAlnum n := (48 ≤ n && n ≤ 57) || (65 ≤ n && n ≤ 90) || (97 ≤ n && n ≤ 122)
  fold n := [if 65 ≤ n ∧ n ≤ 90 then n + 32 else n]
  isDecimal_ascii _ _ := rfl
  isDecimal_space n h := by
    rw [Bool.and_eq_true, decide_eq_true_eq, decide_eq_true_eq] at h
    simp [PyStr.isSpace]
    omega
  isAlnum_ascii _ _ := rfl
  isAlnum_decimal n h := by rw [h, Bool.true_or, Bool.true_or]
  fold_ascii _ _ := rfl
  fold_ne_nil _ := List.cons_ne_nil _ _
  fold_lower n c hc := by
    rw [List.mem_singleton.mp hc]
    split_ifs <;> omega

end UnicodeData
