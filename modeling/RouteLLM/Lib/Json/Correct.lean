import RouteLLM.Lib.Except
import RouteLLM.Lib.Json.Parser

/-!
# The decoder decides the grammar

`decode_eq_ok_iff`: the decoder returns a tree exactly when the text derives it and the tree nests
no deeper than the decoder may recurse. Soundness is by induction on the fuel, completeness by
induction on the derivation; the two meet in what a scanner leaves of a text, which a number may
only leave where the text is `Delimited`.
-/

namespace JsonParser

open JsonGrammar

/-! ## Scanners -/

section scan
variable {p : Char → Bool} {ds rest cs : List Char}

/-- The longest run of a class ends where the class does. -/
theorem takeWhile_append_stop (hds : ∀ c ∈ ds, p c = true) (hrest : ∀ c ∈ rest.head?, p c = false) :
    (ds ++ rest).takeWhile p = ds ∧ (ds ++ rest).dropWhile p = rest := by
  rw [List.takeWhile_append_of_pos hds, List.dropWhile_append_of_pos hds]
  cases rest with
  | nil => simp
  | cons c rest => simp [hrest c rfl]

theorem takeWhile_digits (cs : List Char) : Digits (cs.takeWhile Char.isDigit) :=
  fun _ hc => List.mem_takeWhile_imp hc

/-- Whitespace is skipped up to a character that is none. -/
theorem skipWs_append (hds : Ws ds) (hrest : ∀ c ∈ rest.head?, isWs c = false) :
    skipWs (ds ++ rest) = rest := (takeWhile_append_stop hds hrest).2

theorem skipWs_split (cs : List Char) : ∃ w, Ws w ∧ cs = w ++ skipWs cs :=
  ⟨cs.takeWhile isWs, fun _ hc => List.mem_takeWhile_imp hc, (List.takeWhile_append_dropWhile).symm⟩

end scan

/-! ## Numbers -/

/-- A text that no digit starts. -/
def NoDigit (rest : List Char) : Prop := ∀ c ∈ rest.head?, c.isDigit = false

/-- A text that does not extend a number. -/
def Delimited (rest : List Char) : Prop :=
  ∀ c ∈ rest.head?, c.isDigit = false ∧ c ≠ '.' ∧ c ≠ 'e' ∧ c ≠ 'E'

section numbers
variable {cs rest i f e : List Char}

theorem scanInteger_complete (h : IntText i) (hrest : NoDigit rest) :
    scanInteger (i ++ rest) = some (i, rest) := by
  cases h with
  | zero => rfl
  | pos hc hne hds =>
    have := takeWhile_append_stop hds hrest
    simp [scanInteger, hc, hne, this]

theorem scanInteger_sound (h : scanInteger cs = some (i, rest)) : IntText i ∧ cs = i ++ rest := by
  cases cs with
  | nil => cases h
  | cons c cs =>
    rw [scanInteger] at h
    split at h
    · rename_i hc
      cases h
      exact ⟨hc ▸ .zero, by rw [hc]; rfl⟩
    · rename_i hne
      split at h
      · rename_i hc
        cases h
        exact ⟨.pos hc hne (takeWhile_digits cs), by simp⟩
      · cases h

theorem scanFraction_complete {fraction : Option (List Char)} (h : FractionText f fraction)
    (hrest : NoDigit rest) (hpoint : rest.head? ≠ some '.') :
    scanFraction (f ++ rest) = (fraction, rest) := by
  cases h with
  | absent =>
    cases rest with
    | nil => rfl
    | cons c rest =>
      have hc : c ≠ '.' := by simpa using hpoint
      simp [scanFraction, hc]
  | digits hne hds =>
    have := takeWhile_append_stop hds hrest
    simp [scanFraction, this, hne]

theorem scanFraction_sound {fraction : Option (List Char)} (h : scanFraction cs = (fraction, rest)) :
    ∃ f, FractionText f fraction ∧ cs = f ++ rest := by
  cases cs with
  | nil => cases h; exact ⟨[], .absent, rfl⟩
  | cons c cs =>
    rw [scanFraction] at h
    split at h
    · rename_i hc
      cases h
      exact ⟨c :: cs.takeWhile Char.isDigit, hc.1 ▸ .digits hc.2 (takeWhile_digits cs), by simp⟩
    · cases h
      exact ⟨[], .absent, rfl⟩

theorem scanExponent_complete {exponent : Option ℤ} (h : ExponentText e exponent)
    (hrest : Delimited rest) : scanExponent (e ++ rest) = (exponent, rest) := by
  have hnd : NoDigit rest := fun c hc => (hrest c hc).1
  cases h with
  | absent =>
    cases rest with
    | nil => rfl
    | cons c rest =>
      obtain ⟨-, -, h1, h2⟩ := hrest c rfl
      simp [scanExponent, h1, h2]
  | @unsigned e ds he hne hds =>
    obtain ⟨d, ds, rfl⟩ := List.exists_cons_of_ne_nil hne
    have hd : d.isDigit = true := hds d (.head _)
    have h1 : d ≠ '-' := by rintro rfl; cases hd
    have h2 : d ≠ '+' := by rintro rfl; cases hd
    have hspan := takeWhile_append_stop hds hnd
    rw [List.cons_append] at hspan
    simp only [scanExponent, List.cons_append, scanExponentSign, if_neg h1, if_neg h2, hspan]
    simp [he]
  | plus he hne hds =>
    have hspan := takeWhile_append_stop hds hnd
    simp [scanExponent, scanExponentSign, he, hne, hspan]
  | minus he hne hds =>
    have hspan := takeWhile_append_stop hds hnd
    simp [scanExponent, scanExponentSign, he, hne, hspan]

theorem scanExponent_sound {exponent : Option ℤ} (h : scanExponent cs = (exponent, rest)) :
    ∃ e, ExponentText e exponent ∧ cs = e ++ rest := by
  cases cs with
  | nil => cases h; exact ⟨[], .absent, rfl⟩
  | cons c cs =>
    rw [scanExponent] at h
    dsimp only at h
    split at h
    · rename_i hc
      obtain ⟨he, hne⟩ := hc
      cases h
      cases cs with
      | nil => exact absurd rfl hne
      | cons d ds =>
        simp only [scanExponentSign] at hne ⊢
        split
        · rename_i hd
          subst hd
          simp only [if_true] at hne ⊢
          exact ⟨_, .minus he hne (takeWhile_digits _), by simp⟩
        · split
          · rename_i hd0 hd
            subst hd
            simp only [if_neg hd0, if_true] at hne ⊢
            exact ⟨_, .plus he hne (takeWhile_digits _), by simp⟩
          · rename_i hd0 hd1
            simp only [if_neg hd0, if_neg hd1] at hne ⊢
            exact ⟨_, .unsigned he hne (takeWhile_digits _), by simp⟩
    · cases h
      exact ⟨[], .absent, rfl⟩

/-- What follows the integer part of a number starts with no digit. -/
theorem noDigit_fraction {fraction : Option (List Char)} {exponent : Option ℤ}
    (hf : FractionText f fraction) (he : ExponentText e exponent) (hrest : Delimited rest) :
    NoDigit (f ++ (e ++ rest)) := by
  intro c hc
  cases hf with
  | digits => cases hc; rfl
  | absent =>
    cases he with
    | absent => exact (hrest c hc).1
    | unsigned h | plus h | minus h =>
      cases hc
      rcases h with rfl | rfl <;> rfl

/-- What follows the fraction of a number starts with no digit and no point. -/
theorem noDigit_exponent {exponent : Option ℤ} (he : ExponentText e exponent)
    (hrest : Delimited rest) : NoDigit (e ++ rest) ∧ (e ++ rest).head? ≠ some '.' := by
  cases he with
  | absent => exact ⟨fun c hc => (hrest c hc).1, fun hc => (hrest '.' hc).2.1 rfl⟩
  | unsigned h | plus h | minus h =>
    rcases h with rfl | rfl <;> exact ⟨by rintro c ⟨⟩; rfl, by simp⟩

theorem scanUnsigned_complete {fraction : Option (List Char)} {exponent : Option ℤ}
    (negative : Bool) (hi : IntText i) (hf : FractionText f fraction)
    (he : ExponentText e exponent) (hrest : Delimited rest) :
    scanUnsigned negative (i ++ (f ++ (e ++ rest))) =
      some (⟨negative, i, fraction, exponent⟩, rest) := by
  have h1 := scanInteger_complete hi (noDigit_fraction hf he hrest)
  obtain ⟨hnd, hpoint⟩ := noDigit_exponent he hrest
  have h2 := scanFraction_complete hf hnd hpoint
  have h3 := scanExponent_complete he hrest
  simp [scanUnsigned, h1, h2, h3]

/-- A digit is no whitespace. -/
theorem isWs_digit {c : Char} (h : c.isDigit = true) : isWs c = false := by
  by_contra hw
  simp only [isWs, Bool.or_eq_true, decide_eq_true_eq, Bool.not_eq_false] at hw
  rcases hw with ((rfl | rfl) | rfl) | rfl <;> cases h

/-- A number starts with a digit, or with a sign and a digit. -/
theorem numberText_head {n : JsonNumber} (h : NumberText cs n) :
    ∃ c tail, cs = c :: tail ∧ (c.isDigit = true ∨ c = '-' ∧ ∃ d ∈ tail.head?, d.isDigit = true) := by
  obtain ⟨hs, hi, -, -⟩ := h
  cases hs <;> cases hi with
  | zero => simp
  | pos hc => simp [hc]

theorem scanNumber_complete {n : JsonNumber} (h : NumberText cs n) (hrest : Delimited rest) :
    scanNumber (cs ++ rest) = some (n, rest) := by
  obtain ⟨hs, hi, hf, he⟩ := h
  have hu (negative : Bool) := scanUnsigned_complete negative hi hf he hrest
  simp only [List.append_assoc]
  cases hs with
  | minus => simpa [scanNumber] using hu true
  | absent =>
    cases hi with
    | zero => simpa [scanNumber] using hu false
    | @pos c ds hc hne hds =>
      have hminus : c ≠ '-' := by rintro rfl; cases hc
      simpa [scanNumber, hminus] using hu false

theorem scanUnsigned_sound {negative : Bool} {n : JsonNumber}
    (h : scanUnsigned negative cs = some (n, rest)) :
    ∃ i f e fraction exponent, IntText i ∧ FractionText f fraction ∧ ExponentText e exponent ∧
      n = ⟨negative, i, fraction, exponent⟩ ∧ cs = i ++ (f ++ (e ++ rest)) := by
  simp only [scanUnsigned, Option.bind_eq_bind, Option.bind_eq_some_iff] at h
  obtain ⟨⟨i, cs₁⟩, hi, h⟩ := h
  rcases hf : scanFraction cs₁ with ⟨fraction, cs₂⟩
  rcases he : scanExponent cs₂ with ⟨exponent, cs₃⟩
  simp only [hf, he] at h
  cases h
  obtain ⟨hit, rfl⟩ := scanInteger_sound hi
  obtain ⟨f, hft, rfl⟩ := scanFraction_sound hf
  obtain ⟨e, het, rfl⟩ := scanExponent_sound he
  exact ⟨i, f, e, fraction, exponent, hit, hft, het, rfl, rfl⟩

theorem scanNumber_sound {n : JsonNumber} (h : scanNumber cs = some (n, rest)) :
    ∃ pre, NumberText pre n ∧ cs = pre ++ rest := by
  cases cs with
  | nil => cases h
  | cons c cs =>
    rw [scanNumber] at h
    split at h
    · rename_i hc
      obtain ⟨i, f, e, _, _, hi, hf, he, rfl, rfl⟩ := scanUnsigned_sound h
      exact ⟨_, .mk .minus hi hf he, by simp [hc]⟩
    · obtain ⟨i, f, e, _, _, hi, hf, he, rfl, hcs⟩ := scanUnsigned_sound h
      exact ⟨_, .mk .absent hi hf he, by simp [hcs]⟩

end numbers

/-! ## Strings and names -/

section strings
variable {cs rest : List Char} {units : List ℕ}

theorem scanChars_complete (h : CharsText cs units) :
    scanChars (cs ++ '"' :: rest) = some (units, rest) := by
  induction h with
  | nil => rw [List.nil_append, scanChars.eq_def]; rfl
  | @plain c cs units hc h ih =>
    have hc' := hc
    simp only [isPlain, Bool.and_eq_true, decide_eq_true_eq] at hc
    obtain ⟨⟨h1, h2⟩, -⟩ := hc
    rw [List.cons_append, scanChars.eq_def]
    simp [h1, h2, hc', ih]
  | @escape c u cs units hc h ih =>
    have hu : c ≠ 'u' := by rintro rfl; cases hc
    rw [List.cons_append, List.cons_append, scanChars.eq_def]
    simp [hu, hc, ih]
  | @unicode a b c d u cs units hu h ih =>
    rw [scanChars.eq_def]
    simp [hu, ih]

theorem scanChars_sound (h : scanChars cs = some (units, rest)) :
    ∃ pre, CharsText pre units ∧ cs = pre ++ '"' :: rest := by
  fun_induction scanChars cs generalizing units with
  | case1 | case5 | case7 => cases h
  | case2 => cases h; exact ⟨[], .nil, rfl⟩
  | case3 a b c d cs _ ih =>
    obtain ⟨u, hu, h⟩ := Option.bind_eq_some_iff.mp h
    obtain ⟨⟨us, r⟩, hs, ⟨⟩⟩ := Option.bind_eq_some_iff.mp h
    obtain ⟨pre, hpre, rfl⟩ := ih hs
    exact ⟨_, .unicode hu hpre, rfl⟩
  | case4 c cs _ _ ih =>
    obtain ⟨u, hu, h⟩ := Option.bind_eq_some_iff.mp h
    obtain ⟨⟨us, r⟩, hs, ⟨⟩⟩ := Option.bind_eq_some_iff.mp h
    obtain ⟨pre, hpre, rfl⟩ := ih hs
    exact ⟨_, .escape hu hpre, rfl⟩
  | case6 c cs _ _ hc ih =>
    obtain ⟨⟨us, r⟩, hs, ⟨⟩⟩ := Option.bind_eq_some_iff.mp h
    obtain ⟨pre, hpre, rfl⟩ := ih hs
    exact ⟨_, .plain hc hpre, rfl⟩

theorem scanKeyword_mem {v : JsonTree} (h : scanKeyword cs = some (v, rest)) :
    ∃ pre, (pre, v) ∈ keywords ∧ cs = pre ++ rest := by
  obtain ⟨⟨text, w⟩, hmem, h⟩ := List.exists_of_findSome?_eq_some h
  obtain ⟨rest', hdrop, h⟩ := Option.map_eq_some_iff.mp h
  cases h
  obtain ⟨pre, rfl, hpre⟩ := List.dropPrefix?_eq_some_iff.mp hdrop
  obtain rfl : pre = text := by simpa using hpre
  exact ⟨pre, hmem, rfl⟩

theorem scanKeyword_complete {pre : List Char} {v : JsonTree} (h : (pre, v) ∈ keywords) :
    scanKeyword (pre ++ rest) = some (v, rest) := by
  simp only [keywords, List.mem_cons, Prod.mk.injEq, List.not_mem_nil, or_false] at h
  rcases h with ⟨rfl, rfl⟩ | ⟨rfl, rfl⟩ | ⟨rfl, rfl⟩ | ⟨rfl, rfl⟩ | ⟨rfl, rfl⟩ | ⟨rfl, rfl⟩ <;>
    simp [scanKeyword, keywords, constantText, List.dropPrefix?]

/-- Every literal name derives its tree, which is a scalar. -/
theorem derives_keyword {pre : List Char} {v : JsonTree} (h : (pre, v) ∈ keywords) :
    Derives pre (.value v) ∧ v.nesting = 0 := by
  simp only [keywords, List.mem_cons, Prod.mk.injEq, List.not_mem_nil, or_false] at h
  rcases h with ⟨rfl, rfl⟩ | ⟨rfl, rfl⟩ | ⟨rfl, rfl⟩ | ⟨rfl, rfl⟩ | ⟨rfl, rfl⟩ | ⟨rfl, rfl⟩
  · exact ⟨.null, rfl⟩
  · exact ⟨.true, rfl⟩
  · exact ⟨.false, rfl⟩
  · exact ⟨.constant .nan, rfl⟩
  · exact ⟨.constant .infinity, rfl⟩
  · exact ⟨.constant .negInfinity, rfl⟩

/-- A literal name starts with a letter, or with a sign and a letter. -/
theorem keyword_head {pre : List Char} {v : JsonTree} (h : (pre, v) ∈ keywords) :
    ∃ c d tail, pre = c :: d :: tail ∧ c.isDigit = false ∧ d.isDigit = false ∧
      c ≠ '"' ∧ c ≠ '[' ∧ c ≠ '\x7b' := by
  simp only [keywords, List.mem_cons, Prod.mk.injEq, List.not_mem_nil, or_false] at h
  rcases h with ⟨rfl, -⟩ | ⟨rfl, -⟩ | ⟨rfl, -⟩ | ⟨rfl, -⟩ | ⟨rfl, -⟩ | ⟨rfl, -⟩ <;>
    exact ⟨_, _, _, rfl, rfl, rfl, by decide, by decide, by decide⟩

/-- No literal name starts a number. -/
theorem scanKeyword_number {n : JsonNumber} (h : NumberText cs n) :
    scanKeyword (cs ++ rest) = none := by
  obtain ⟨c, tail, rfl, hc⟩ := numberText_head h
  rw [Option.eq_none_iff_forall_ne_some]
  rintro ⟨v, rest'⟩ hscan
  obtain ⟨pre, hmem, hcs⟩ := scanKeyword_mem hscan
  obtain ⟨c', d', tail', rfl, hc', hd', -⟩ := keyword_head hmem
  injection hcs with hcc htail
  rcases hc with hc | ⟨-, d, hd, hdigit⟩
  · rw [hcc, hc'] at hc
    cases hc
  · cases tail with
    | nil => cases hd
    | cons d tail =>
      cases hd
      injection htail with hdd
      rw [hdd, hd'] at hdigit
      cases hdigit

end strings

/-! ## Values -/

section values
variable {cs rest : List Char} {v : JsonTree}

/-- The first character of a value is neither whitespace nor a closing bracket. -/
theorem derives_head (h : Derives cs (.value v)) :
    ∃ c tail, cs = c :: tail ∧ isWs c = false ∧ c ≠ ']' := by
  cases h with
  | null | true | false => exact ⟨_, _, rfl, rfl, by decide⟩
  | constant c => cases c <;> exact ⟨_, _, rfl, rfl, by decide⟩
  | number h =>
    obtain ⟨c, tail, rfl, hc⟩ := numberText_head h
    refine ⟨c, tail, rfl, ?_, ?_⟩
    · rcases hc with hc | ⟨rfl, -⟩
      · exact isWs_digit hc
      · rfl
    · rintro rfl
      rcases hc with hc | ⟨hc, -⟩ <;> cases hc
  | string | emptyArray | array | emptyObject | object => exact ⟨_, _, rfl, rfl, by decide⟩

theorem scanScalar_sound (h : scanScalar cs = .ok (v, rest)) :
    ∃ pre, Derives pre (.value v) ∧ v.nesting = 0 ∧ cs = pre ++ rest := by
  unfold scanScalar at h
  split at h
  · rename_i hk
    cases h
    obtain ⟨pre, hmem, rfl⟩ := scanKeyword_mem hk
    exact ⟨pre, (derives_keyword hmem).1, (derives_keyword hmem).2, rfl⟩
  · split at h
    · rename_i hn
      cases h
      obtain ⟨pre, hpre, rfl⟩ := scanNumber_sound hn
      exact ⟨pre, .number hpre, rfl, rfl⟩
    · cases h

/-- A closing character after whitespace. -/
theorem skipWs_eq_cons {c : Char} (h : skipWs cs = c :: rest) : ∃ w, Ws w ∧ cs = w ++ c :: rest := by
  obtain ⟨w, hw, hcs⟩ := skipWs_split cs
  exact ⟨w, hw, h ▸ hcs⟩

/-- A container that was parsed is empty up to whitespace, or holds what its parser returned. -/
theorem container_sound {α : Type} {close : Char} {mk : List α → JsonTree}
    {parse : ℕ → List Char → Except DecodeError (List α × List Char)} {depth : ℕ}
    (h : container close mk parse depth cs = .ok (v, rest)) :
    ∃ d, depth = d + 1 ∧ ((v = mk [] ∧ ∃ w, Ws w ∧ cs = w ++ close :: rest) ∨
      ∃ xs, v = mk xs ∧ parse d cs = .ok (xs, rest)) := by
  cases depth with
  | zero => cases h
  | succ d =>
    refine ⟨d, rfl, ?_⟩
    simp only [container] at h
    split at h
    · rename_i hclose
      cases h
      refine .inl ⟨rfl, ?_⟩
      cases hx : skipWs cs with
      | nil => simp [hx] at hclose
      | cons a as =>
        rw [hx, List.head?_cons, Option.some.injEq] at hclose
        exact skipWs_eq_cons (hclose ▸ hx)
    · obtain ⟨⟨xs, rest'⟩, hxs, h⟩ := Except.bind_eq_ok.mp h
      cases h
      exact .inr ⟨xs, rfl, hxs⟩

/-- After an element come whitespace and the end, or a comma and more elements. -/
theorem elementTail_sound {α : Type} {close : Char} {x : α} {xs : List α}
    {parse : List Char → Except DecodeError (List α × List Char)}
    (h : elementTail close x parse cs = .ok (xs, rest)) :
    ∃ w, Ws w ∧ ((xs = [x] ∧ cs = w ++ close :: rest) ∨
      ∃ cs' ys, cs = w ++ ',' :: cs' ∧ parse cs' = .ok (ys, rest) ∧ xs = x :: ys) := by
  unfold elementTail at h
  split at h
  · cases h
  · rename_i c cs' hskip
    obtain ⟨w, hw, rfl⟩ := skipWs_eq_cons hskip
    refine ⟨w, hw, ?_⟩
    split_ifs at h with hclose hcomma
    · cases h
      exact .inl ⟨rfl, by rw [hclose]⟩
    · obtain ⟨⟨ys, rest'⟩, hys, h⟩ := Except.bind_eq_ok.mp h
      cases h
      exact .inr ⟨cs', ys, by rw [hcomma], hys, rfl⟩

theorem memberKey_sound {key : PyStr} (h : memberKey cs = .ok (key, rest)) :
    ∃ w ks units w₁, Ws w ∧ CharsText ks units ∧ Ws w₁ ∧ key = joinSurrogates units ∧
      cs = w ++ '"' :: (ks ++ '"' :: (w₁ ++ ':' :: rest)) := by
  unfold memberKey at h
  split at h
  · rename_i cs' hquote
    obtain ⟨w, hw, rfl⟩ := skipWs_eq_cons hquote
    split at h
    · cases h
    · rename_i units rest' hchars
      obtain ⟨ks, hks, rfl⟩ := scanChars_sound hchars
      split at h
      · rename_i rest'' hcolon
        obtain ⟨w₁, hw₁, rfl⟩ := skipWs_eq_cons hcolon
        cases h
        exact ⟨w, ks, units, w₁, hw, hks, hw₁, rfl, rfl⟩
      · cases h
  · cases h

/-- What the parsers return at a fuel is derived by what they consumed. -/
structure SoundAt (fuel : ℕ) : Prop where
  value : ∀ {depth cs v rest}, parseValue fuel depth cs = .ok (v, rest) →
    ∃ pre, Derives pre (.value v) ∧ v.nesting ≤ depth ∧ cs = pre ++ rest
  items : ∀ {depth cs vs rest}, parseItems fuel depth cs = .ok (vs, rest) →
    ∃ pre, Derives pre (.items vs) ∧ JsonTree.nestingItems vs ≤ depth ∧ cs = pre ++ ']' :: rest
  members : ∀ {depth cs kvs rest}, parseMembers fuel depth cs = .ok (kvs, rest) →
    ∃ pre, Derives pre (.members kvs) ∧ JsonTree.nestingMembers kvs ≤ depth ∧
      cs = pre ++ '\x7d' :: rest

theorem SoundAt.value_succ {fuel : ℕ} (ih : SoundAt fuel) {depth : ℕ}
    (h : parseValue (fuel + 1) depth cs = .ok (v, rest)) :
    ∃ pre, Derives pre (.value v) ∧ v.nesting ≤ depth ∧ cs = pre ++ rest := by
  cases cs with
  | nil => cases h
  | cons c cs =>
    simp only [parseValue] at h
    split_ifs at h with hq hb ho
    · subst hq
      split at h
      · rename_i hs
        cases h
        obtain ⟨pre, hpre, rfl⟩ := scanChars_sound hs
        exact ⟨_, .string hpre, Nat.zero_le _, by simp⟩
      · cases h
    · subst hb
      obtain ⟨d, rfl, ⟨rfl, w, hw, rfl⟩ | ⟨xs, rfl, hxs⟩⟩ := container_sound h
      · exact ⟨_, .emptyArray hw, by simp [JsonTree.nesting, JsonTree.nestingItems], by simp⟩
      · obtain ⟨pre, hpre, hdepth, rfl⟩ := ih.items hxs
        exact ⟨_, .array hpre, Nat.succ_le_succ hdepth, by simp⟩
    · subst ho
      obtain ⟨d, rfl, ⟨rfl, w, hw, rfl⟩ | ⟨xs, rfl, hxs⟩⟩ := container_sound h
      · exact ⟨_, .emptyObject hw, by simp [JsonTree.nesting, JsonTree.nestingMembers], by simp⟩
      · obtain ⟨pre, hpre, hdepth, rfl⟩ := ih.members hxs
        exact ⟨_, .object hpre, Nat.succ_le_succ hdepth, by simp⟩
    · obtain ⟨pre, hpre, hzero, hcs⟩ := scanScalar_sound h
      exact ⟨pre, hpre, hzero ▸ Nat.zero_le _, hcs⟩

theorem SoundAt.items_succ {fuel : ℕ} (ih : SoundAt fuel) {depth : ℕ} {vs : List JsonTree}
    (h : parseItems (fuel + 1) depth cs = .ok (vs, rest)) :
    ∃ pre, Derives pre (.items vs) ∧ JsonTree.nestingItems vs ≤ depth ∧
      cs = pre ++ ']' :: rest := by
  simp only [parseItems] at h
  obtain ⟨⟨v, rest₁⟩, hv, h⟩ := Except.bind_eq_ok.mp h
  obtain ⟨pre, hpre, hdepth, hskip⟩ := ih.value hv
  obtain ⟨w, hw, hcs⟩ := skipWs_split cs
  obtain ⟨w', hw', ⟨rfl, rfl⟩ | ⟨cs', ys, rfl, hys, rfl⟩⟩ := elementTail_sound h
  · exact ⟨_, .lastItem hw hpre hw', by simpa [JsonTree.nestingItems] using hdepth,
      by rw [hcs, hskip]; simp⟩
  · obtain ⟨pre', hpre', hdepth', rfl⟩ := ih.items hys
    exact ⟨_, .nextItem hw hpre hw' hpre', max_le hdepth hdepth', by rw [hcs, hskip]; simp⟩

theorem SoundAt.members_succ {fuel : ℕ} (ih : SoundAt fuel) {depth : ℕ}
    {kvs : List (PyStr × JsonTree)} (h : parseMembers (fuel + 1) depth cs = .ok (kvs, rest)) :
    ∃ pre, Derives pre (.members kvs) ∧ JsonTree.nestingMembers kvs ≤ depth ∧
      cs = pre ++ '\x7d' :: rest := by
  simp only [parseMembers] at h
  obtain ⟨⟨key, rest₀⟩, hkey, hvalue⟩ := Except.bind_eq_ok.mp h
  obtain ⟨⟨v, rest₁⟩, hv, htail⟩ := Except.bind_eq_ok.mp hvalue
  obtain ⟨w, ks, units, w₁, hw, hks, hw₁, rfl, rfl⟩ := memberKey_sound hkey
  obtain ⟨pre, hpre, hdepth, hskip⟩ := ih.value hv
  obtain ⟨w₂, hw₂, hcs⟩ := skipWs_split rest₀
  obtain ⟨w₃, hw₃, ⟨rfl, rfl⟩ | ⟨cs', ys, rfl, hys, rfl⟩⟩ := elementTail_sound htail
  · exact ⟨_, .lastMember hw hks hw₁ hw₂ hpre hw₃,
      by simpa [JsonTree.nestingMembers] using hdepth, by rw [hcs, hskip]; simp⟩
  · obtain ⟨pre', hpre', hdepth', rfl⟩ := ih.members hys
    exact ⟨_, .nextMember hw hks hw₁ hw₂ hpre hw₃ hpre', max_le hdepth hdepth',
      by rw [hcs, hskip]; simp⟩

/-- **Soundness**, by induction on the fuel. -/
theorem sound (fuel : ℕ) : SoundAt fuel := by
  induction fuel with
  | zero =>
    constructor
    · intro _ _ _ _ h; cases h
    · intro _ _ _ _ h; cases h
    · intro _ _ _ _ h; cases h
  | succ fuel ih => exact ⟨ih.value_succ, ih.items_succ, ih.members_succ⟩

/-! ## Completeness -/

/-- After an element comes whitespace or a punctuation mark, which extends no number. -/
theorem delimited_ws {w : List Char} (hw : Ws w) (rest : List Char) {c : Char}
    (hc : c = ',' ∨ c = ']' ∨ c = '\x7d') : Delimited (w ++ c :: rest) := by
  intro d hd
  cases w with
  | nil =>
    cases hd
    rcases hc with rfl | rfl | rfl <;> exact ⟨rfl, by decide, by decide, by decide⟩
  | cons a w =>
    cases hd
    have := hw _ (.head _)
    simp only [isWs, Bool.or_eq_true, decide_eq_true_eq] at this
    rcases this with ((rfl | rfl) | rfl) | rfl <;> exact ⟨rfl, by decide, by decide, by decide⟩

/-- Whitespace before a value is skipped. -/
theorem skipWs_value {w : List Char} (hw : Ws w) (h : Derives cs (.value v)) :
    skipWs (w ++ (cs ++ rest)) = cs ++ rest := by
  obtain ⟨c, tail, rfl, hc, -⟩ := derives_head h
  exact skipWs_append hw (by rintro c' ⟨⟩; exact hc)

/-- Whitespace before a punctuation mark is skipped. -/
theorem skipWs_cons {w : List Char} (hw : Ws w) {c : Char} (hc : isWs c = false) :
    skipWs (w ++ c :: rest) = c :: rest := skipWs_append hw (by rintro c' ⟨⟩; exact hc)

/-- The items of an array do not start with its closing bracket. -/
theorem items_head {vs : List JsonTree} (h : Derives cs (.items vs)) :
    (skipWs (cs ++ rest)).head? ≠ some ']' := by
  cases h with
  | lastItem hw hv | nextItem hw hv =>
    obtain ⟨c, tail, rfl, -, hne⟩ := derives_head hv
    rw [List.append_assoc, List.append_assoc, skipWs_value hw hv]
    simpa using hne

/-- The members of an object start with a quote. -/
theorem members_head {kvs : List (PyStr × JsonTree)} (h : Derives cs (.members kvs)) :
    (skipWs (cs ++ rest)).head? ≠ some '\x7d' := by
  cases h with
  | lastMember hw | nextMember hw =>
    rw [List.append_assoc, List.cons_append, skipWs_cons hw rfl]
    simp

theorem memberKey_complete {w ks w₁ : List Char} {units : List ℕ} (hw : Ws w)
    (hk : CharsText ks units) (hw₁ : Ws w₁) :
    memberKey (w ++ '"' :: (ks ++ '"' :: (w₁ ++ ':' :: rest))) = .ok (joinSurrogates units, rest) := by
  rw [memberKey, skipWs_cons hw rfl]
  simp only [scanChars_complete hk, skipWs_cons hw₁ (show isWs ':' = false from rfl)]

theorem elementTail_last {α : Type} {close : Char} (hclose : isWs close = false) {x : α}
    {parse : List Char → Except DecodeError (List α × List Char)} {w : List Char} (hw : Ws w) :
    elementTail close x parse (w ++ close :: rest) = .ok ([x], rest) := by
  simp [elementTail, skipWs_cons hw hclose]

theorem elementTail_next {α : Type} {close : Char} (hclose : close ≠ ',') {x : α} {xs : List α}
    {parse : List Char → Except DecodeError (List α × List Char)} {w : List Char} (hw : Ws w)
    (h : parse cs = .ok (xs, rest)) :
    elementTail close x parse (w ++ ',' :: cs) = .ok (x :: xs, rest) := by
  rw [elementTail, skipWs_cons hw rfl]
  simp [hclose.symm, h, bind, Except.bind, pure, Except.pure]

theorem container_empty {α : Type} {close : Char} (hclose : isWs close = false)
    {mk : List α → JsonTree} {parse : ℕ → List Char → Except DecodeError (List α × List Char)}
    {depth : ℕ} {w : List Char} (hw : Ws w) :
    container close mk parse (depth + 1) (w ++ close :: rest) = .ok (mk [], rest) := by
  simp [container, skipWs_cons hw hclose]

theorem container_more {α : Type} {close : Char} (mk : List α → JsonTree)
    {parse : ℕ → List Char → Except DecodeError (List α × List Char)} {depth : ℕ} {xs : List α}
    (hhead : (skipWs cs).head? ≠ some close) (h : parse depth cs = .ok (xs, rest)) :
    container close mk parse (depth + 1) cs = .ok (mk xs, rest) := by
  simp [container, hhead, h, bind, Except.bind, pure, Except.pure]

/-- A derived text is parsed whatever follows it, at a fuel above twice its length. -/
def Complete (cs : List Char) : Item → Prop
  | .value v => ∀ {fuel depth rest}, 2 * cs.length < fuel → v.nesting ≤ depth → Delimited rest →
      parseValue fuel depth (cs ++ rest) = .ok (v, rest)
  | .items vs => ∀ {fuel depth rest}, 2 * cs.length + 1 < fuel →
      JsonTree.nestingItems vs ≤ depth → parseItems fuel depth (cs ++ ']' :: rest) = .ok (vs, rest)
  | .members kvs => ∀ {fuel depth rest}, 2 * cs.length + 1 < fuel →
      JsonTree.nestingMembers kvs ≤ depth →
      parseMembers fuel depth (cs ++ '\x7d' :: rest) = .ok (kvs, rest)

theorem parseValue_scalar {c : Char} (h1 : c ≠ '"') (h2 : c ≠ '[') (h3 : c ≠ '\x7b')
    (fuel depth : ℕ) : parseValue (fuel + 1) depth (c :: cs) = scanScalar (c :: cs) := by
  simp only [parseValue, if_neg h1, if_neg h2, if_neg h3]

theorem complete_keyword {pre : List Char} (h : (pre, v) ∈ keywords) : Complete pre (.value v) := by
  intro fuel depth rest hfuel _ _
  obtain ⟨fuel, rfl⟩ := Nat.exists_eq_succ_of_ne_zero (Nat.ne_zero_of_lt hfuel)
  have hscan : scanKeyword (pre ++ rest) = some (v, rest) := scanKeyword_complete h
  obtain ⟨c, d, tail, rfl, -, -, h1, h2, h3⟩ := keyword_head h
  rw [List.cons_append, parseValue_scalar h1 h2 h3, ← List.cons_append, scanScalar, hscan]

theorem complete_number {n : JsonNumber} (h : NumberText cs n) :
    Complete cs (.value (.number n)) := by
  intro fuel depth rest hfuel _ hrest
  obtain ⟨fuel, rfl⟩ := Nat.exists_eq_succ_of_ne_zero (Nat.ne_zero_of_lt hfuel)
  have hkeyword : scanKeyword (cs ++ rest) = none := scanKeyword_number h
  have hnumber := scanNumber_complete h hrest
  obtain ⟨c, tail, rfl, hc⟩ := numberText_head h
  have hne (d : Char) (hd : d.isDigit = false) (hd' : '-' ≠ d) : c ≠ d := by
    rintro rfl
    rcases hc with hc | ⟨hc, -⟩
    · rw [hd] at hc
      cases hc
    · exact hd' hc.symm
  rw [List.cons_append, parseValue_scalar (hne _ rfl (by decide)) (hne _ rfl (by decide))
    (hne _ rfl (by decide)), ← List.cons_append, scanScalar, hkeyword, hnumber]

/-- **Completeness**, by induction on the derivation. -/
theorem complete {item : Item} (h : Derives cs item) : Complete cs item := by
  induction h with
  | null => exact complete_keyword (.head _)
  | true => exact complete_keyword (.tail _ (.head _))
  | false => exact complete_keyword (.tail _ (.tail _ (.head _)))
  | constant c => exact complete_keyword (by cases c <;> simp [keywords])
  | number h => exact complete_number h
  | string h =>
    intro fuel depth rest hfuel _ _
    obtain ⟨fuel, rfl⟩ := Nat.exists_eq_succ_of_ne_zero (Nat.ne_zero_of_lt hfuel)
    simp [parseValue, scanChars_complete h]
  | emptyArray hw =>
    intro fuel depth rest hfuel hdepth _
    obtain ⟨fuel, rfl⟩ := Nat.exists_eq_succ_of_ne_zero (Nat.ne_zero_of_lt hfuel)
    obtain ⟨depth, rfl⟩ := Nat.exists_eq_succ_of_ne_zero (Nat.ne_zero_of_lt hdepth)
    simp [parseValue, container_empty (show isWs ']' = _ from rfl) hw]
  | @array cs vs h ih =>
    intro fuel depth rest hfuel hdepth _
    obtain ⟨fuel, rfl⟩ := Nat.exists_eq_succ_of_ne_zero (Nat.ne_zero_of_lt hfuel)
    obtain ⟨depth, rfl⟩ := Nat.exists_eq_succ_of_ne_zero (Nat.ne_zero_of_lt hdepth)
    simp only [List.length_cons, List.length_append, List.length_nil] at hfuel
    have hitems := @ih fuel _ rest (by omega) (Nat.le_of_succ_le_succ hdepth)
    have := container_more .array (items_head h) hitems
    simpa [parseValue] using this
  | emptyObject hw =>
    intro fuel depth rest hfuel hdepth _
    obtain ⟨fuel, rfl⟩ := Nat.exists_eq_succ_of_ne_zero (Nat.ne_zero_of_lt hfuel)
    obtain ⟨depth, rfl⟩ := Nat.exists_eq_succ_of_ne_zero (Nat.ne_zero_of_lt hdepth)
    simp [parseValue, container_empty (show isWs '\x7d' = _ from rfl) hw]
  | @object cs kvs h ih =>
    intro fuel depth rest hfuel hdepth _
    obtain ⟨fuel, rfl⟩ := Nat.exists_eq_succ_of_ne_zero (Nat.ne_zero_of_lt hfuel)
    obtain ⟨depth, rfl⟩ := Nat.exists_eq_succ_of_ne_zero (Nat.ne_zero_of_lt hdepth)
    simp only [List.length_cons, List.length_append, List.length_nil] at hfuel
    have hmembers := @ih fuel _ rest (by omega) (Nat.le_of_succ_le_succ hdepth)
    have := container_more .object (members_head h) hmembers
    simpa [parseValue] using this
  | @lastItem w cs w' v hw hv hw' ih =>
    intro fuel depth rest hfuel hdepth
    obtain ⟨fuel, rfl⟩ := Nat.exists_eq_succ_of_ne_zero (Nat.ne_zero_of_lt hfuel)
    simp only [List.length_append] at hfuel
    have hvalue := @ih fuel _ _ (by omega) (le_trans (le_max_left _ _) hdepth)
      (delimited_ws hw' rest (.inr (.inl rfl)))
    rw [parseItems, List.append_assoc, List.append_assoc, skipWs_value hw hv]
    exact Except.bind_eq_ok.mpr ⟨_, hvalue, elementTail_last rfl hw'⟩
  | @nextItem w cs w' cs' v vs hw hv hw' hrest ih ihrest =>
    intro fuel depth rest hfuel hdepth
    obtain ⟨fuel, rfl⟩ := Nat.exists_eq_succ_of_ne_zero (Nat.ne_zero_of_lt hfuel)
    simp only [List.length_append, List.length_cons] at hfuel
    have hvalue := @ih fuel _ _ (by omega) (le_trans (le_max_left _ _) hdepth)
      (delimited_ws hw' (cs' ++ ']' :: rest) (.inl rfl))
    have hitems := @ihrest fuel _ rest (by omega)
      (le_trans (le_max_right _ _) hdepth)
    simp only [parseItems, List.append_assoc, List.cons_append, skipWs_value hw hv]
    exact Except.bind_eq_ok.mpr ⟨_, hvalue, elementTail_next (by decide) hw' hitems⟩
  | @lastMember w ks units w₁ w₂ cs w₃ v hw hk hw₁ hw₂ hv hw₃ ih =>
    intro fuel depth rest hfuel hdepth
    obtain ⟨fuel, rfl⟩ := Nat.exists_eq_succ_of_ne_zero (Nat.ne_zero_of_lt hfuel)
    simp only [List.length_append, List.length_cons] at hfuel
    have hvalue := @ih fuel _ _ (by omega) (le_trans (le_max_left _ _) hdepth)
      (delimited_ws hw₃ rest (.inr (.inr rfl)))
    simp only [parseMembers, List.append_assoc, List.cons_append]
    refine Except.bind_eq_ok.mpr ⟨_, memberKey_complete hw hk hw₁, ?_⟩
    rw [skipWs_value hw₂ hv]
    exact Except.bind_eq_ok.mpr ⟨_, hvalue, elementTail_last rfl hw₃⟩
  | @nextMember w ks units w₁ w₂ cs w₃ cs' v kvs hw hk hw₁ hw₂ hv hw₃ hrest ih ihrest =>
    intro fuel depth rest hfuel hdepth
    obtain ⟨fuel, rfl⟩ := Nat.exists_eq_succ_of_ne_zero (Nat.ne_zero_of_lt hfuel)
    simp only [List.length_append, List.length_cons] at hfuel
    have hvalue := @ih fuel _ _ (by omega) (le_trans (le_max_left _ _) hdepth)
      (delimited_ws hw₃ (cs' ++ '\x7d' :: rest) (.inl rfl))
    have hmembers := @ihrest fuel _ rest (by omega)
      (le_trans (le_max_right _ _) hdepth)
    simp only [parseMembers, List.append_assoc, List.cons_append]
    refine Except.bind_eq_ok.mpr ⟨_, memberKey_complete hw hk hw₁, ?_⟩
    rw [skipWs_value hw₂ hv]
    exact Except.bind_eq_ok.mpr ⟨_, hvalue, elementTail_next (by decide) hw₃ hmembers⟩

/-! ## The decoder -/

theorem skipWs_eq_nil_iff : skipWs cs = [] ↔ Ws cs := List.dropWhile_eq_nil_iff

/-- **The decoder decides the grammar**, up to the depth it may recurse. -/
theorem decode_eq_ok_iff {depth : ℕ} :
    decode depth cs = .ok v ↔ Text cs v ∧ v.nesting ≤ depth := by
  constructor
  · intro h
    obtain ⟨⟨w, rest⟩, hparse, hend⟩ := Except.bind_eq_ok.mp h
    obtain ⟨pre, hpre, hdepth, hskip⟩ := (sound _).value hparse
    obtain ⟨ws, hws, hcs⟩ := skipWs_split cs
    dsimp only at hend
    split at hend
    · rename_i hnil
      cases hend
      exact ⟨⟨ws, pre, rest, hws, hpre, skipWs_eq_nil_iff.mp hnil, by rw [hcs, hskip]⟩, hdepth⟩
    · cases hend
  · rintro ⟨⟨w, cs', w', hw, hv, hw', rfl⟩, hdepth⟩
    have hdelimited : Delimited w' := by
      cases w' with
      | nil => exact fun c hc => nomatch hc
      | cons c w' =>
        rintro d ⟨⟩
        have := hw' _ (.head _)
        simp only [isWs, Bool.or_eq_true, decide_eq_true_eq] at this
        rcases this with ((rfl | rfl) | rfl) | rfl <;>
          exact ⟨rfl, by decide, by decide, by decide⟩
    have hparse : parseValue (2 * (w ++ (cs' ++ w')).length + 1) depth (cs' ++ w') = .ok (v, w') :=
      complete hv (by simp only [List.length_append]; omega) hdepth hdelimited
    refine Except.bind_eq_ok.mpr ⟨(v, w'), by rw [skipWs_value hw hv, hparse], ?_⟩
    exact if_pos (skipWs_eq_nil_iff.mpr hw')

/-- A text has at most one tree. -/
theorem text_unique {v' : JsonTree} (h : Text cs v) (h' : Text cs v') : v = v' := by
  have hv := decode_eq_ok_iff.mpr ⟨h, le_max_left v.nesting v'.nesting⟩
  have hv' := decode_eq_ok_iff.mpr ⟨h', le_max_right v.nesting v'.nesting⟩
  exact Except.ok.inj (hv.symm.trans hv')

end values

end JsonParser
