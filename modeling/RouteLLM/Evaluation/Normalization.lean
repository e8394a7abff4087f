import RouteLLM.Lib.Unicode
import RouteLLM.Lib.Words

/-!
# Normalization of answers

`evaluation/normalization.py` and the comparison of `AcceptedAnswerEvaluator`. An answer is compared after its
whitespace is collapsed, one pair of quotes and one sentence mark are removed, and its case is folded. No mark
is removed after a decimal number.
-/

namespace RouteLLM

/-- The code points of `.`, `!` and `?`. -/
def isSentenceMark (n : ℕ) : Bool := n == 46 || n == 33 || n == 63

/-- The code points of the three quote characters. -/
def isQuote (n : ℕ) : Bool := n == 34 || n == 39 || n == 96

/-- `" ".join(value.strip().split())`. -/
def collapse (value : PyStr) : PyStr := PyStr.collapseBy PyStr.isSpace 32 value

/-- The inside of a pair of matching quotes. -/
def unquote : PyStr → PyStr
  | [] => []
  | q :: rest =>
    if rest.getLast? = some q ∧ isQuote q then PyStr.stripBy PyStr.isSpace rest.dropLast else q :: rest

variable (unicode : UnicodeData)

/-- A text whose end matches `\d\.\d[.!?]`. -/
def endsInDecimalMark (value : PyStr) : Bool :=
  match value.reverse with
  | m :: b :: p :: a :: _ => isSentenceMark m && unicode.isDecimal b && p == 46 && unicode.isDecimal a
  | _ => false

/-- `re.search(r"\d\.\d[.!?]$", value)`: the end of a pattern is also before a last newline. -/
def searchDecimalMark (value : PyStr) : Bool :=
  endsInDecimalMark unicode value ||
    (value.getLast? == some 10 && endsInDecimalMark unicode value.dropLast)

/-- The text without one sentence mark at its end. -/
def removeMark (value : PyStr) : PyStr :=
  if value.getLast?.any isSentenceMark ∧ searchDecimalMark unicode value = false then
    value.dropLast.rdropWhile PyStr.isSpace
  else value

/-- `normalize_answer`. -/
def normalizeAnswer (value : PyStr) (caseSensitive : Bool) : PyStr :=
  let value := removeMark unicode (unquote (collapse value))
  if caseSensitive then value else unicode.casefold value

/-- The comparison of `AcceptedAnswerEvaluator.score`, whose candidate is the response. -/
def matchesAccepted (accepted : List PyStr) (response : PyStr) : Bool :=
  accepted.any fun answer =>
    normalizeAnswer unicode response false == normalizeAnswer unicode answer false

/-! ## The mark after an answer -/

/-- A text whose end matches `\d\.\d`. -/
def endsInDecimal (value : PyStr) : Bool :=
  match value.reverse with
  | b :: p :: a :: _ => unicode.isDecimal b && p == 46 && unicode.isDecimal a
  | _ => false

/-- An answer that ends in no sentence mark and has no quote at an end. -/
structure PlainAnswer where
  text : PyStr
  nonempty : collapse text ≠ []
  unmarked : ∀ c ∈ (collapse text).getLast?, isSentenceMark c = false
  unquoted_head : ∀ c ∈ (collapse text).head?, isQuote c = false
  unquoted_last : ∀ c ∈ (collapse text).getLast?, isQuote c = false

/-- A mark after the answer does not matter, whatever whitespace and quotes surround the two. -/
def MarkIgnored (v : PyStr) (m : ℕ) : Prop :=
  ∀ x, collapse x = collapse (v ++ [m]) →
    (∀ caseSensitive, normalizeAnswer unicode x caseSensitive = normalizeAnswer unicode v caseSensitive) ∧
    (∀ q, isQuote q = true → ∀ y, collapse y = collapse (q :: (x ++ [q])) → ∀ caseSensitive,
      normalizeAnswer unicode y caseSensitive = normalizeAnswer unicode v caseSensitive) ∧
    ∀ accepted, v ∈ accepted → matchesAccepted unicode accepted x = true

theorem isSpace_of_isQuote {q : ℕ} (hq : isQuote q = true) : PyStr.isSpace q = false := by
  simp only [isQuote, Bool.or_eq_true, beq_iff_eq] at hq
  rcases hq with (rfl | rfl) | rfl <;> rfl

theorem isSpace_of_isSentenceMark {m : ℕ} (hm : isSentenceMark m = true) : PyStr.isSpace m = false := by
  simp only [isSentenceMark, Bool.or_eq_true, beq_iff_eq] at hm
  rcases hm with (rfl | rfl) | rfl <;> rfl

theorem unquote_eq_self {value : PyStr} (h : ∀ c ∈ value.head?, isQuote c = false) :
    unquote value = value := by
  cases value with
  | nil => rfl
  | cons q rest =>
    rw [unquote, if_neg]
    intro hq
    have := h q rfl
    rw [hq.2] at this
    cases this

/-- Quotes around a collapsed text, with whitespace or none inside them, are removed. -/
theorem unquote_quoted {x y : PyStr} {q : ℕ} (hq : isQuote q = true) (hx : collapse x ≠ [])
    (hy : collapse y = collapse (q :: (x ++ [q]))) : unquote (collapse y) = collapse x := by
  obtain ⟨l, r, hl, hr, hquoted⟩ :=
    @PyStr.exists_collapseBy_quoted _ PyStr.isSpace 32 _ _ rfl (isSpace_of_isQuote hq) hx
  have hcollapse : collapse y = q :: (l ++ (collapse x ++ r) ++ [q]) := hy.trans hquoted
  rw [hcollapse, unquote, if_pos ⟨List.getLast?_concat, hq⟩, List.dropLast_concat,
    PyStr.stripBy_append _ hl hr]
  exact PyStr.stripBy_collapseBy x

/-- A mark after a text, where the guard reads the text before it. -/
theorem searchDecimalMark_concat {w : PyStr} {m : ℕ} (hm : isSentenceMark m = true) :
    searchDecimalMark unicode (w ++ [m]) = endsInDecimal unicode w := by
  have hnewline : ((w ++ [m]).getLast? == some 10) = false := by
    rw [List.getLast?_concat]
    simp only [isSentenceMark, Bool.or_eq_true, beq_iff_eq] at hm
    rcases hm with (rfl | rfl) | rfl <;> rfl
  rw [searchDecimalMark, hnewline, Bool.false_and, Bool.or_false, endsInDecimalMark, endsInDecimal,
    List.reverse_append, List.reverse_singleton, List.singleton_append]
  rcases w.reverse with _ | ⟨b, _ | ⟨p, _ | ⟨a, rest⟩⟩⟩
  · rfl
  · rfl
  · rfl
  · show (isSentenceMark m && unicode.isDecimal b && p == 46 && unicode.isDecimal a) = _
    rw [hm, Bool.true_and]

/-- Whitespace before a word does not make it a decimal. -/
theorem endsInDecimal_append {ys u : PyStr} (hys : ∀ c ∈ ys.getLast?, PyStr.isSpace c = true) (hne : u ≠ []) :
    endsInDecimal unicode (ys ++ u) = endsInDecimal unicode u := by
  have hspace : ∀ n, PyStr.isSpace n = true → unicode.isDecimal n = false := by
    intro n hn
    by_contra h
    rw [unicode.isDecimal_space n (by simpa using h)] at hn
    cases hn
  rw [← List.head?_reverse] at hys
  rw [endsInDecimal, endsInDecimal, List.reverse_append]
  revert hys
  have hne' : u.reverse ≠ [] := fun h => hne (List.reverse_eq_nil_iff.mp h)
  rcases hu : u.reverse with _ | ⟨b, _ | ⟨p, _ | ⟨a, rest⟩⟩⟩
  · exact absurd hu hne'
  · rcases ys.reverse with _ | ⟨c, _ | ⟨d, rest⟩⟩
    · exact fun _ => rfl
    · exact fun _ => rfl
    · intro hys
      show (unicode.isDecimal b && c == 46 && unicode.isDecimal d) = false
      have hc : (c == 46) = false := by
        rw [beq_eq_false_iff_ne]
        rintro rfl
        exact Bool.noConfusion (hys 46 rfl)
      rw [hc, Bool.and_false, Bool.false_and]
  · rcases ys.reverse with _ | ⟨c, rest⟩
    · exact fun _ => rfl
    · intro hys
      show (unicode.isDecimal b && p == 46 && unicode.isDecimal c) = false
      rw [hspace c (hys c rfl), Bool.and_false]
  · exact fun _ => rfl

variable {unicode}

/-- The guard reads the text of the answer. -/
theorem endsInDecimal_collapse {ys : PyStr} {d : ℕ} (hd : PyStr.isSpace d = false) :
    endsInDecimal unicode (collapse (ys ++ [d])) = endsInDecimal unicode (ys ++ [d]) := by
  obtain ⟨zs, u, hsplit, -, hzs, hu⟩ := @PyStr.exists_last_word _ PyStr.isSpace (ys ++ [d])
  have hne : u ≠ [] := by
    rintro rfl
    rw [List.append_nil] at hsplit
    have := hzs d (by rw [← hsplit, List.getLast?_concat]; rfl)
    rw [hd] at this
    cases this
  have hlead : ∀ c ∈ (PyStr.lead PyStr.isSpace 32 zs).getLast?, PyStr.isSpace c = true := by
    intro c hc
    rw [PyStr.lead] at hc
    split at hc
    · cases hc
    · rw [List.getLast?_concat] at hc
      cases hc
      rfl
  rw [hsplit, endsInDecimal_append unicode hzs hne, collapse, PyStr.collapseBy_append (.inl hzs) hne hu,
    endsInDecimal_append unicode hlead hne]

theorem endsInDecimal_of_space {ys : PyStr} {d : ℕ} (hd : PyStr.isSpace d = true) :
    endsInDecimal unicode (ys ++ [d]) = false := by
  have hdecimal : unicode.isDecimal d = false := by
    by_contra h
    rw [unicode.isDecimal_space d (by simpa using h)] at hd
    cases hd
  rw [endsInDecimal, List.reverse_append, List.reverse_singleton, List.singleton_append]
  rcases ys.reverse with _ | ⟨p, _ | ⟨a, rest⟩⟩
  · rfl
  · rfl
  · show (unicode.isDecimal d && p == 46 && unicode.isDecimal a) = false
    rw [hdecimal, Bool.false_and, Bool.false_and]

theorem rdropWhile_collapse (v : PyStr) : (collapse v).rdropWhile PyStr.isSpace = collapse v := by
  rw [List.rdropWhile_eq_self_iff]
  intro hne hlast
  have := PyStr.getLast?_collapseBy _ (List.getLast?_eq_some_getLast hne)
  rw [hlast] at this
  cases this

/-- The mark after a text is removed unless the text ends in a decimal. -/
theorem removeMark_concat {w : PyStr} {m : ℕ} (hm : isSentenceMark m = true) :
    removeMark unicode (w ++ [m]) =
      if endsInDecimal unicode w = true then w ++ [m] else w.rdropWhile PyStr.isSpace := by
  rw [removeMark, List.getLast?_concat, searchDecimalMark_concat unicode hm, Option.any_some,
    List.dropLast_concat]
  cases hdecimal : endsInDecimal unicode w with
  | true => rw [if_neg fun h => Bool.noConfusion h.2, if_pos rfl]
  | false => rw [if_pos ⟨hm, rfl⟩, if_neg Bool.false_ne_true]

/-- The collapsed text of an answer with the mark that follows it. -/
theorem removeMark_marked (v : PlainAnswer) {m : ℕ} (hm : isSentenceMark m = true) :
    removeMark unicode (collapse (v.text ++ [m])) =
      if endsInDecimal unicode v.text = true then collapse v.text ++ [m] else collapse v.text := by
  have hnonempty := v.nonempty
  rcases List.eq_nil_or_concat' v.text with hv | ⟨ys, d, hv⟩
  · rw [hv] at hnonempty
    exact absurd rfl hnonempty
  · rw [hv] at hnonempty ⊢
    cases hd : PyStr.isSpace d with
    | true =>
      have hcollapse : collapse (ys ++ [d] ++ [m]) = collapse (ys ++ [d]) ++ [32] ++ [m] := by
        rw [List.append_assoc (collapse _)]
        refine PyStr.collapseBy_concat_space ?_ (isSpace_of_isSentenceMark hm) hnonempty
        intro c hc
        rw [List.getLast?_concat] at hc
        cases hc
        exact hd
      rw [hcollapse, removeMark_concat hm, endsInDecimal_of_space hd, endsInDecimal_of_space rfl,
        if_neg Bool.false_ne_true, if_neg Bool.false_ne_true, List.rdropWhile_concat_pos _ _ _ rfl,
        rdropWhile_collapse]
    | false =>
      have hcollapse : collapse (ys ++ [d] ++ [m]) = collapse (ys ++ [d]) ++ [m] :=
        PyStr.collapseBy_concat (isSpace_of_isSentenceMark hm) hd
      rw [hcollapse, removeMark_concat hm, endsInDecimal_collapse hd, rdropWhile_collapse]

theorem normalizeAnswer_plain (v : PlainAnswer) (caseSensitive : Bool) :
    normalizeAnswer unicode v.text caseSensitive =
      if caseSensitive then collapse v.text else unicode.casefold (collapse v.text) := by
  have hmark : removeMark unicode (collapse v.text) = collapse v.text := by
    rw [removeMark, if_neg]
    intro h
    obtain ⟨c, hc, hm⟩ := (Option.any_eq_true _ _).mp h.1
    rw [v.unmarked c hc] at hm
    cases hm
  rw [normalizeAnswer, unquote_eq_self v.unquoted_head, hmark]

/-- What is left of an answer decides what it is normalized to. -/
theorem normalizeAnswer_eq (v : PlainAnswer) {x : PyStr}
    (h : removeMark unicode (unquote (collapse x)) = collapse v.text) (caseSensitive : Bool) :
    normalizeAnswer unicode x caseSensitive = normalizeAnswer unicode v.text caseSensitive := by
  rw [normalizeAnswer_plain, normalizeAnswer, h]

/-- The answer with its mark starts as the answer does, with no quote. -/
theorem unquote_marked (v : PlainAnswer) {m : ℕ} (hm : isSentenceMark m = true) :
    unquote (collapse (v.text ++ [m])) = collapse (v.text ++ [m]) := by
  obtain ⟨s, -, hcollapse⟩ : ∃ s, _ ∧ collapse (v.text ++ [m]) = collapse v.text ++ (s ++ [m]) :=
    PyStr.exists_collapseBy_concat rfl (isSpace_of_isSentenceMark hm) v.nonempty
  refine unquote_eq_self fun c hc => ?_
  rw [hcollapse, List.head?_append_of_ne_nil _ v.nonempty] at hc
  exact v.unquoted_head c hc

theorem collapse_marked_ne_nil (v : PlainAnswer) {m : ℕ} (hm : isSentenceMark m = true) :
    collapse (v.text ++ [m]) ≠ [] := by
  obtain ⟨s, -, hcollapse⟩ : ∃ s, _ ∧ collapse (v.text ++ [m]) = collapse v.text ++ (s ++ [m]) :=
    PyStr.exists_collapseBy_concat rfl (isSpace_of_isSentenceMark hm) v.nonempty
  rw [hcollapse]
  exact List.append_ne_nil_of_left_ne_nil v.nonempty _

/-- No mark after a decimal number is ignored. -/
theorem not_markIgnored (v : PlainAnswer) {m : ℕ} (hm : isSentenceMark m = true)
    (hdecimal : endsInDecimal unicode v.text = true) : ¬ MarkIgnored unicode v.text m := by
  intro hignored
  have hsame := (hignored _ rfl).1 false
  rw [normalizeAnswer_plain, normalizeAnswer, unquote_marked v hm, removeMark_marked v hm,
    if_pos hdecimal] at hsame
  exact unicode.casefold_concat_ne _ _ hsame

/-- A mark after an answer is ignored exactly where the answer does not end in a decimal number. -/
theorem markIgnored_iff (unicode : UnicodeData) (v : PlainAnswer) (m : {m : ℕ // isSentenceMark m = true}) :
    MarkIgnored unicode v.text m ↔ endsInDecimal unicode v.text = false := by
  obtain ⟨m, hm⟩ := m
  have hremove : removeMark unicode (collapse (v.text ++ [m])) = _ := removeMark_marked v hm
  refine ⟨fun hignored => ?_, fun hdecimal x hx => ?_⟩
  · by_contra hdecimal
    rw [Bool.not_eq_false] at hdecimal
    exact not_markIgnored v hm hdecimal hignored
  · rw [if_neg (by simp [hdecimal])] at hremove
    have hplain : removeMark unicode (unquote (collapse x)) = collapse v.text := by
      rw [hx, unquote_marked v hm, hremove]
    have hquoted : ∀ q, isQuote q = true → ∀ y, collapse y = collapse (q :: (x ++ [q])) →
        removeMark unicode (unquote (collapse y)) = collapse v.text := by
      intro q hq y hy
      rw [unquote_quoted hq (hx ▸ collapse_marked_ne_nil v hm) hy, hx, hremove]
    refine ⟨normalizeAnswer_eq v hplain, fun q hq y hy => normalizeAnswer_eq v (hquoted q hq y hy), ?_⟩
    intro accepted hv
    exact List.any_eq_true.mpr ⟨v.text, hv, beq_iff_eq.mpr (normalizeAnswer_eq v hplain false)⟩

theorem collapse_decimal : collapse (PyStr.ofString "4.2") = PyStr.ofString "4.2" := by decide

/-- The answer `4.2`. -/
def PlainAnswer.decimal : PlainAnswer where
  text := PyStr.ofString "4.2"
  nonempty := by simp only [collapse_decimal]; decide
  unmarked := by simp only [collapse_decimal]; decide
  unquoted_head := by simp only [collapse_decimal]; decide
  unquoted_last := by simp only [collapse_decimal]; decide

/-- The period after the answer `4.2` makes it another answer. -/
theorem mark_after_decimal_matters :
    ¬ ∃ unicode : UnicodeData, MarkIgnored unicode PlainAnswer.decimal.text 46 := by
  rintro ⟨unicode, hignored⟩
  have hdigit : ∀ n, 48 ≤ n → n ≤ 57 → unicode.isDecimal n = true := by
    intro n hlow hhigh
    rw [unicode.isDecimal_ascii n (by omega), Bool.and_eq_true, decide_eq_true_eq, decide_eq_true_eq]
    exact ⟨hlow, hhigh⟩
  have hends : endsInDecimal unicode PlainAnswer.decimal.text =
      (unicode.isDecimal 50 && 46 == 46 && unicode.isDecimal 52) := rfl
  refine not_markIgnored .decimal rfl ?_ hignored
  rw [hends, hdigit 50 (by omega) (by omega), hdigit 52 (by omega) (by omega)]
  rfl

end RouteLLM
