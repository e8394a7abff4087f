import RouteLLM.Benchmarks.DuplicateAudit

/-!
# Cosmetic variants

What the audit is for: two prompts say the same where their sequences of alphanumeric tokens agree after every
number and every e-mail address is replaced. The code tokenizes first, so that its patterns see neither a point
nor an `@`, and its tokens are those of ASCII.
-/

namespace RouteLLM.RoutingBenchmark

variable {unicode : UnicodeData}

/-! ## Canonical texts are joined tokens -/

def isDigitChar (c : ℕ) : Bool := 48 ≤ c && c ≤ 57

/-- A token with its placeholder. -/
def placeholder (w : PyStr) : PyStr := if w.all isDigitChar then PyStr.ofString "<number>" else w

theorem isTokenChar_lt {c : ℕ} (h : isTokenChar c = true) : c < 128 := by
  simp only [isTokenChar, Bool.or_eq_true, Bool.and_eq_true, decide_eq_true_eq] at h
  omega

theorem isWordChar_of_isTokenChar {c : ℕ} (h : isTokenChar c = true) : isWordChar unicode c = true := by
  rw [isWordChar, unicode.isAlnum_ascii c (isTokenChar_lt h)]
  simp only [isTokenChar, Bool.or_eq_true, Bool.and_eq_true, decide_eq_true_eq] at h ⊢
  omega

theorem isDecimal_of_isTokenChar {c : ℕ} (h : isTokenChar c = true) :
    unicode.isDecimal c = isDigitChar c :=
  unicode.isDecimal_ascii c (isTokenChar_lt h)

theorem isWordChar_space : isWordChar unicode 32 = false := by
  rw [isWordChar, unicode.isAlnum_ascii 32 (by omega)]
  rfl

theorem isDecimal_space : unicode.isDecimal 32 = false := unicode.isDecimal_ascii 32 (by omega)

theorem mem_contentTokens {text w : PyStr} (h : w ∈ contentTokens unicode text) :
    w ≠ [] ∧ ∀ c ∈ w, isTokenChar c = true := by
  obtain ⟨hne, hw⟩ := PyStr.mem_splitBy h
  exact ⟨hne, fun c hc => by simpa using hw c hc⟩

/-- What follows a token: the end of the text or a space. -/
def AfterToken (rest : PyStr) : Prop := rest = [] ∨ ∃ cs, rest = 32 :: cs

theorem AfterToken.head? {rest : PyStr} (h : AfterToken rest) :
    rest.head?.any (isWordChar unicode) = false ∧ rest.head? ≠ some 46 ∧
      rest.takeWhile unicode.isDecimal = [] := by
  rcases h with rfl | ⟨cs, rfl⟩
  · exact ⟨rfl, by simp, rfl⟩
  · exact ⟨isWordChar_space, by simp, by rw [List.takeWhile_cons, isDecimal_space]; rfl⟩

theorem downFrom_succ (n : ℕ) : downFrom (n + 1) = (n + 1) :: downFrom n := by
  rw [downFrom, List.range_succ, List.map_append, List.reverse_append]
  rfl

theorem mem_downFrom {n i : ℕ} : i ∈ downFrom n ↔ 1 ≤ i ∧ i ≤ n := by
  rw [downFrom, List.mem_reverse, List.mem_map]
  constructor
  · rintro ⟨j, hj, rfl⟩
    have := List.mem_range.mp hj
    omega
  · intro h
    exact ⟨i - 1, List.mem_range.mpr (by omega), by omega⟩

/-- A token of digits after a boundary is a number. -/
theorem numberMatch_digits {before : Option ℕ} {w rest : PyStr}
    (hbefore : before.any (isWordChar unicode) = false) (hne : w ≠ [])
    (hw : ∀ c ∈ w, isTokenChar c = true) (hdigits : w.all isDigitChar = true) (hrest : AfterToken rest) :
    numberMatch unicode before (w ++ rest) = some w.length := by
  obtain ⟨hword, hpoint, hdecimal⟩ := @AfterToken.head? unicode _ hrest
  obtain ⟨c, cs, rfl⟩ := List.exists_cons_of_ne_nil hne
  have hfirst : wordBoundary unicode before (c :: cs ++ rest).head? = true := by
    rw [wordBoundary, hbefore, List.cons_append, List.head?_cons, Option.any_some,
      isWordChar_of_isTokenChar (hw c List.mem_cons_self)]
    rfl
  have hrun : (c :: cs ++ rest).takeWhile unicode.isDecimal = c :: cs := by
    rw [List.takeWhile_append_of_pos, hdecimal, List.append_nil]
    intro d hd
    rw [isDecimal_of_isTokenChar (hw d hd)]
    exact List.all_eq_true.mp hdigits d hd
  have hafter : (c :: cs ++ rest)[(c :: cs).length]? = rest.head? := by
    rw [List.getElem?_append_right le_rfl, Nat.sub_self, List.head?_eq_getElem?]
  have hlast : (c :: cs ++ rest)[(c :: cs).length - 1]? = (c :: cs).getLast? := by
    rw [List.getElem?_append_left (by simp), List.getLast?_eq_getElem?]
  have hend : endsAtBoundary unicode (c :: cs ++ rest) (c :: cs).length = true := by
    rw [endsAtBoundary, wordBoundary, hlast, hafter, hword, List.getLast?_eq_some_getLast hne, Option.any_some,
      isWordChar_of_isTokenChar (hw _ (List.getLast_mem hne))]
    rfl
  have hends : numberEnds unicode (c :: cs ++ rest) (c :: cs).length = [(c :: cs).length] := by
    rw [numberEnds, hafter, if_neg hpoint, List.nil_append]
  rw [numberMatch, if_pos hfirst, hrun, List.length_cons, downFrom_succ, List.findSome?_cons,
    ← List.length_cons (a := c), hends, List.find?_cons, hend]

/-- No number starts inside a token. -/
theorem numberMatch_inside {before : Option ℕ} {c : ℕ} {cs : PyStr}
    (hbefore : before.any (isWordChar unicode) = true) (hc : isTokenChar c = true) :
    numberMatch unicode before (c :: cs) = none := by
  rw [numberMatch, if_neg]
  rw [wordBoundary, hbefore, List.head?_cons, Option.any_some, isWordChar_of_isTokenChar hc]
  exact Bool.noConfusion

/-- The digits that start a token with a letter end in the token. -/
theorem length_takeWhile_lt {w rest : PyStr} (hw : ∀ c ∈ w, isTokenChar c = true)
    (hdigits : w.all isDigitChar = false) :
    ((w ++ rest).takeWhile unicode.isDecimal).length < w.length := by
  have hle := (List.takeWhile_prefix unicode.isDecimal (l := w)).length_le
  have hne : (w.takeWhile unicode.isDecimal).length ≠ w.length := by
    intro hlength
    have hself := (List.takeWhile_prefix unicode.isDecimal (l := w)).eq_of_length hlength
    have hall : w.all isDigitChar = true := by
      refine List.all_eq_true.mpr fun c hc => ?_
      rw [← @isDecimal_of_isTokenChar unicode _ (hw c hc)]
      exact List.takeWhile_eq_self_iff.mp hself c hc
    rw [hall] at hdigits
    cases hdigits
  rw [List.takeWhile_append, if_neg hne]
  omega

/-- No number starts a token that has a letter. -/
theorem numberMatch_letters {before : Option ℕ} {w rest : PyStr} (hw : ∀ c ∈ w, isTokenChar c = true)
    (hdigits : w.all isDigitChar = false) : numberMatch unicode before (w ++ rest) = none := by
  rw [numberMatch]
  split
  · refine List.findSome?_eq_none_iff.mpr fun i hi => ?_
    obtain ⟨hlow, hhigh⟩ := mem_downFrom.mp hi
    have hlt := @length_takeWhile_lt unicode _ rest hw hdigits
    have hchar : ∀ j < w.length, ∃ c, (w ++ rest)[j]? = some c ∧ isTokenChar c = true := by
      intro j hj
      rw [List.getElem?_append_left hj, List.getElem?_eq_getElem hj]
      exact ⟨_, rfl, hw _ (List.getElem_mem hj)⟩
    obtain ⟨c, hc, htoken⟩ := hchar i (by omega)
    obtain ⟨d, hd, htoken'⟩ := hchar (i - 1) (by omega)
    have hpoint : ¬ (w ++ rest)[i]? = some 46 := by
      rw [hc]
      intro h
      cases h
      cases htoken
    have hend : endsAtBoundary unicode (w ++ rest) i = false := by
      rw [endsAtBoundary, wordBoundary, hc, hd, Option.any_some, Option.any_some,
        isWordChar_of_isTokenChar htoken, isWordChar_of_isTokenChar htoken']
      rfl
    rw [numberEnds, if_neg hpoint, List.nil_append, List.find?_singleton, hend]
    rfl
  · rfl

/-- No number starts with a space. -/
theorem numberMatch_space {before : Option ℕ} {cs : PyStr} :
    numberMatch unicode before (32 :: cs) = none := by
  rw [numberMatch, List.takeWhile_cons, isDecimal_space]
  split
  · rfl
  · rfl

/-! ## Substitution in joined tokens -/

/-- The character before what follows a text. -/
def lastOr (before : Option ℕ) : PyStr → Option ℕ
  | [] => before
  | c :: cs => lastOr (some c) cs

/-- No match starts anywhere in a text. -/
def Unmatched (matchAt : Option ℕ → PyStr → Option ℕ) : Option ℕ → PyStr → Prop
  | _, [] => True
  | before, c :: cs => matchAt before (c :: cs) = none ∧ Unmatched matchAt (some c) cs

instance Unmatched.decidable (matchAt : Option ℕ → PyStr → Option ℕ) :
    (before : Option ℕ) → (cs : PyStr) → Decidable (Unmatched matchAt before cs)
  | _, [] => isTrue trivial
  | before, c :: cs =>
    have := Unmatched.decidable matchAt (some c) cs
    inferInstanceAs (Decidable (matchAt before (c :: cs) = none ∧ Unmatched matchAt (some c) cs))

theorem subFrom_skip (matchAt : Option ℕ → PyStr → Option ℕ) (replacement : PyStr) (before : Option ℕ)
    (cs rest : PyStr) : subFrom matchAt replacement cs.length before (cs ++ rest) =
      subFrom matchAt replacement 0 (lastOr before cs) rest := by
  induction cs generalizing before with
  | nil => rfl
  | cons c cs ih => exact ih (some c)

/-- Nothing is replaced in a text without a match. -/
theorem subFrom_unmatched {matchAt : Option ℕ → PyStr → Option ℕ} {replacement : PyStr} {before : Option ℕ}
    {cs : PyStr} (h : Unmatched matchAt before cs) : subFrom matchAt replacement 0 before cs = cs := by
  induction cs generalizing before with
  | nil => rfl
  | cons c cs ih =>
    rw [subFrom, h.1]
    exact congrArg (c :: ·) (ih h.2)

/-- The rest of a token is kept. -/
theorem subFrom_inside {replacement : PyStr} {before : Option ℕ} {cs rest : PyStr}
    (hbefore : before.any (isWordChar unicode) = true) (hcs : ∀ c ∈ cs, isTokenChar c = true) :
    subFrom (numberMatch unicode) replacement 0 before (cs ++ rest) =
      cs ++ subFrom (numberMatch unicode) replacement 0 (lastOr before cs) rest := by
  induction cs generalizing before with
  | nil => rfl
  | cons c cs ih =>
    obtain ⟨hc, hcs⟩ := List.forall_mem_cons.mp hcs
    rw [List.cons_append, subFrom, numberMatch_inside hbefore hc]
    exact congrArg (c :: ·) (ih (isWordChar_of_isTokenChar hc) hcs)

/-- A token becomes its placeholder. -/
theorem subFrom_token {before : Option ℕ} {w rest : PyStr} (hbefore : before.any (isWordChar unicode) = false)
    (hne : w ≠ []) (hw : ∀ c ∈ w, isTokenChar c = true) (hrest : AfterToken rest) :
    subFrom (numberMatch unicode) (PyStr.ofString "<number>") 0 before (w ++ rest) =
      placeholder w ++ subFrom (numberMatch unicode) (PyStr.ofString "<number>") 0 (lastOr before w) rest := by
  obtain ⟨c, cs, rfl⟩ := List.exists_cons_of_ne_nil hne
  rw [placeholder]
  cases hdigits : (c :: cs).all isDigitChar with
  | true =>
    have hmatch := numberMatch_digits hbefore hne hw hdigits hrest
    rw [if_pos rfl, List.cons_append, subFrom, ← List.cons_append, hmatch]
    exact congrArg (PyStr.ofString "<number>" ++ ·) (subFrom_skip _ _ (some c) cs rest)
  | false =>
    obtain ⟨hc, hcs⟩ := List.forall_mem_cons.mp hw
    rw [if_neg Bool.false_ne_true, List.cons_append, subFrom, ← List.cons_append, numberMatch_letters hw hdigits]
    exact congrArg (c :: ·) (subFrom_inside (isWordChar_of_isTokenChar hc) hcs)

theorem subFrom_space {before : Option ℕ} {replacement cs : PyStr} :
    subFrom (numberMatch unicode) replacement 0 before (32 :: cs) =
      32 :: subFrom (numberMatch unicode) replacement 0 (some 32) cs := by
  rw [subFrom, numberMatch_space]

/-- Joined tokens become their joined placeholders. -/
theorem subFrom_joined {before : Option ℕ} {words : List PyStr} (hbefore : before.any (isWordChar unicode) = false)
    (hwords : ∀ w ∈ words, w ≠ [] ∧ ∀ c ∈ w, isTokenChar c = true) :
    subFrom (numberMatch unicode) (PyStr.ofString "<number>") 0 before ([32].intercalate words) =
      [32].intercalate (words.map placeholder) := by
  induction words generalizing before with
  | nil => rfl
  | cons w words ih =>
    obtain ⟨⟨hne, hw⟩, hwords⟩ := List.forall_mem_cons.mp hwords
    have hspace : (some 32).any (isWordChar unicode) = false := isWordChar_space
    cases words with
    | nil =>
      have htoken := subFrom_token hbefore hne hw (.inl rfl)
      rw [List.append_nil] at htoken
      rw [List.intercalate_singleton, htoken, List.map_singleton, List.intercalate_singleton]
      exact List.append_nil _
    | cons v words =>
      rw [List.intercalate_cons_cons, List.append_assoc, List.singleton_append,
        subFrom_token hbefore hne hw (.inr ⟨_, rfl⟩), subFrom_space, ih hspace hwords]
      simp only [List.map_cons, List.intercalate_cons_cons, List.append_assoc, List.singleton_append]

/-- A text without an `@` has no e-mail address. -/
theorem unmatched_email {before : Option ℕ} {cs : PyStr} (h : 64 ∉ cs) : Unmatched (emailMatch unicode) before cs := by
  induction cs generalizing before with
  | nil => trivial
  | cons c cs ih =>
    refine ⟨?_, ih fun hmem => h (.tail _ hmem)⟩
    rw [emailMatch]
    dsimp only
    rw [if_neg]
    rintro ⟨-, -, hat⟩
    exact h (List.mem_of_getElem? hat)

theorem placeholder_ne_nil {w : PyStr} (hne : w ≠ []) : placeholder w ≠ [] := by
  rw [placeholder]
  split
  · exact List.cons_ne_nil _ _
  · exact hne

theorem mem_placeholder {w : PyStr} (hw : ∀ c ∈ w, isTokenChar c = true) :
    ∀ c ∈ placeholder w, c ≠ 32 ∧ c ≠ 64 := by
  intro c hc
  rw [placeholder] at hc
  split at hc
  · revert c
    decide
  · refine ⟨?_, ?_⟩
    all_goals
      rintro rfl
      have hfalse := hw _ hc
      cases hfalse

/-- Tokens that are joined by spaces can be told apart. -/
theorem joined_inj {words words' : List PyStr} (h : ∀ w ∈ words, w ≠ [] ∧ ∀ c ∈ w, c ≠ 32)
    (h' : ∀ w ∈ words', w ≠ [] ∧ ∀ c ∈ w, c ≠ 32) :
    [32].intercalate words = [32].intercalate words' ↔ words = words' := by
  have hsplit : ∀ words : List PyStr, (∀ w ∈ words, w ≠ [] ∧ ∀ c ∈ w, c ≠ 32) →
      PyStr.splitBy (fun c : ℕ => c == 32) ([32].intercalate words) = words := by
    intro words hwords
    refine PyStr.splitBy_intercalate rfl fun w hw => ⟨(hwords w hw).1, fun c hc => ?_⟩
    exact beq_false_of_ne ((hwords w hw).2 c hc)
  refine ⟨fun heq => ?_, fun heq => by rw [heq]⟩
  rw [← hsplit words h, heq, hsplit words' h']

/-- The placeholders of the tokens of a text. -/
def canonicalWords (unicode : UnicodeData) (text : PyStr) : List PyStr :=
  (contentTokens unicode text).map placeholder

theorem mem_canonicalWords {text w : PyStr} (h : w ∈ canonicalWords unicode text) :
    w ≠ [] ∧ ∀ c ∈ w, c ≠ 32 ∧ c ≠ 64 := by
  obtain ⟨v, hv, rfl⟩ := List.mem_map.mp h
  obtain ⟨hne, hchars⟩ := mem_contentTokens hv
  exact ⟨placeholder_ne_nil hne, mem_placeholder hchars⟩

/-- A canonical text is the joined placeholders of the tokens. -/
theorem canonicalizeContent_eq (text : PyStr) :
    canonicalizeContent unicode text = [32].intercalate (canonicalWords unicode text) := by
  have hnumbers : sub (numberMatch unicode) (PyStr.ofString "<number>") (normalizeContent unicode text) =
      [32].intercalate (canonicalWords unicode text) :=
    subFrom_joined rfl fun w hw => mem_contentTokens hw
  rw [canonicalizeContent, hnumbers]
  refine subFrom_unmatched (unmatched_email fun hat => ?_)
  rcases PyStr.mem_intercalate hat with hspace | ⟨w, hw, hat⟩
  · cases hspace
  · exact ((mem_canonicalWords hw).2 64 hat).2 rfl

theorem canonicalizeContent_inj {left right : PyStr} :
    canonicalizeContent unicode left = canonicalizeContent unicode right ↔
      canonicalWords unicode left = canonicalWords unicode right := by
  rw [canonicalizeContent_eq, canonicalizeContent_eq]
  exact joined_inj (fun w hw => ⟨(mem_canonicalWords hw).1, fun c hc => ((mem_canonicalWords hw).2 c hc).1⟩)
    fun w hw => ⟨(mem_canonicalWords hw).1, fun c hc => ((mem_canonicalWords hw).2 c hc).1⟩

theorem normalizeContent_inj {left right : PyStr} :
    normalizeContent unicode left = normalizeContent unicode right ↔
      contentTokens unicode left = contentTokens unicode right := by
  have hspace : ∀ text, ∀ w ∈ contentTokens unicode text, w ≠ [] ∧ ∀ c ∈ w, c ≠ 32 := by
    intro text w hw
    refine ⟨(mem_contentTokens hw).1, fun c hc h => ?_⟩
    have hfalse := (mem_contentTokens hw).2 c hc
    rw [h] at hfalse
    cases hfalse
  exact joined_inj (hspace left) (hspace right)

end RouteLLM.RoutingBenchmark
