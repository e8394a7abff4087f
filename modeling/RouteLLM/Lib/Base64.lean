import Mathlib.Data.List.DropRight

/-!
# URL-safe base64

`urlsafe_b64encode` and `urlsafe_b64decode` of Python's `base64` module on bytes below 256. The
decoder is the state machine of `binascii.a2b_base64` outside its strict mode: it skips the characters
that are not of the alphabet and stops at a complete padding.
-/

namespace Base64

/-- The alphabet. -/
def alphabet : List Char :=
  "ABCDEFGHIJKLMNOPQRSTUVWXYZabcdefghijklmnopqrstuvwxyz0123456789-_".toList

/-- The character of a value below 64. -/
def char (v : ℕ) : Char := alphabet.getD v '='

/-- The value of a character; those of the standard alphabet are read too. -/
def value? (c : Char) : Option ℕ :=
  if c = '+' then some 62
  else if c = '/' then some 63
  else if c ∈ alphabet then some (alphabet.idxOf c)
  else none

/-- `urlsafe_b64encode`. -/
def encode : List ℕ → List Char
  | [] => []
  | [a] => [char (a / 4), char (a % 4 * 16), '=', '=']
  | [a, b] => [char (a / 4), char (a % 4 * 16 + b / 16), char (b % 16 * 4), '=']
  | a :: b :: c :: rest =>
    char (a / 4) :: char (a % 4 * 16 + b / 16) :: char (b % 16 * 4 + c / 64) :: char (c % 64) ::
      encode rest

/-- The decoder at a position in a group of four, with the bits left of the character before and the
number of padding characters of the group. -/
def decodeFrom : ℕ → ℕ → ℕ → List Char → Option (List ℕ)
  | position, _, _, [] => if position = 0 then some [] else none
  | position, left, pads, c :: cs =>
    if c = '=' then
      if 2 ≤ position then
        if 4 ≤ position + (pads + 1) then some [] else decodeFrom position left (pads + 1) cs
      else decodeFrom position left pads cs
    else
      match value? c with
      | none => decodeFrom position left pads cs
      | some v =>
        match position with
        | 0 => decodeFrom 1 v 0 cs
        | 1 => (decodeFrom 2 (v % 16) 0 cs).map ((left * 4 + v / 16) :: ·)
        | 2 => (decodeFrom 3 (v % 4) 0 cs).map ((left * 16 + v / 4) :: ·)
        | _ => (decodeFrom 0 0 0 cs).map ((left * 64 + v) :: ·)

/-- `urlsafe_b64decode` of a text: a character beyond ASCII raises. -/
def decode (cs : List Char) : Option (List ℕ) :=
  if cs.all fun c => c.toNat < 128 then decodeFrom 0 0 0 cs else none

/-! ## The round trip -/

/-- The characters that carry bits. -/
theorem char_spec {v : ℕ} (h : v < 64) :
    char v ≠ '=' ∧ value? (char v) = some v ∧ (char v).toNat < 128 := by
  have hall : ∀ v < 64, char v ≠ '=' ∧ value? (char v) = some v ∧ (char v).toNat < 128 := by
    decide +kernel
  exact hall v h

variable {position left pads v : ℕ} {cs : List Char}

theorem decodeFrom_zero_char (h : v < 64) :
    decodeFrom 0 left pads (char v :: cs) = decodeFrom 1 v 0 cs := by
  obtain ⟨hne, hvalue, -⟩ := char_spec h
  rw [decodeFrom, if_neg hne, hvalue]
  rfl

theorem decodeFrom_one_char (h : v < 64) :
    decodeFrom 1 left pads (char v :: cs) =
      (decodeFrom 2 (v % 16) 0 cs).map ((left * 4 + v / 16) :: ·) := by
  obtain ⟨hne, hvalue, -⟩ := char_spec h
  rw [decodeFrom, if_neg hne, hvalue]
  rfl

theorem decodeFrom_two_char (h : v < 64) :
    decodeFrom 2 left pads (char v :: cs) =
      (decodeFrom 3 (v % 4) 0 cs).map ((left * 16 + v / 4) :: ·) := by
  obtain ⟨hne, hvalue, -⟩ := char_spec h
  rw [decodeFrom, if_neg hne, hvalue]
  rfl

theorem decodeFrom_three_char (h : v < 64) :
    decodeFrom 3 left pads (char v :: cs) =
      (decodeFrom 0 0 0 cs).map ((left * 64 + v) :: ·) := by
  obtain ⟨hne, hvalue, -⟩ := char_spec h
  rw [decodeFrom, if_neg hne, hvalue]
  rfl

/-- A group of four characters is three bytes. -/
theorem decodeFrom_group {a b c : ℕ} (ha : a < 256) (hb : b < 256) (cs : List Char) :
    decodeFrom 0 left pads (char (a / 4) :: char (a % 4 * 16 + b / 16) ::
      char (b % 16 * 4 + c / 64 % 4) :: char (c % 64) :: cs) =
      (decodeFrom 0 0 0 cs).map fun bytes => a :: b :: (c / 64 % 4 * 64 + c % 64) :: bytes := by
  rw [decodeFrom_zero_char (by omega), decodeFrom_one_char (by omega),
    decodeFrom_two_char (by omega), decodeFrom_three_char (by omega)]
  have hfirst : a / 4 * 4 + (a % 4 * 16 + b / 16) / 16 = a := by omega
  have hsecond : (a % 4 * 16 + b / 16) % 16 * 16 + (b % 16 * 4 + c / 64 % 4) / 4 = b := by omega
  have hthird : (b % 16 * 4 + c / 64 % 4) % 4 = c / 64 % 4 := by omega
  rw [hfirst, hsecond, hthird]
  cases decodeFrom 0 0 0 cs <;> rfl

/-- What is encoded is decoded. -/
theorem decodeFrom_encode : ∀ {bytes : List ℕ} {left pads : ℕ}, (∀ b ∈ bytes, b < 256) →
    decodeFrom 0 left pads (encode bytes) = some bytes
  | [], _, _, _ => by
    rw [encode, decodeFrom, if_pos rfl]
  | [a], _, _, h => by
    have ha := h a (.head _)
    have hfirst : a / 4 * 4 + a % 4 * 16 / 16 = a := by omega
    rw [encode, decodeFrom_zero_char (by omega), decodeFrom_one_char (by omega), hfirst]
    rfl
  | [a, b], _, _, h => by
    have ha := h a (.head _)
    have hb := h b (.tail _ (.head _))
    have hfirst : a / 4 * 4 + (a % 4 * 16 + b / 16) / 16 = a := by omega
    have hsecond : (a % 4 * 16 + b / 16) % 16 * 16 + b % 16 * 4 / 4 = b := by omega
    rw [encode, decodeFrom_zero_char (by omega), decodeFrom_one_char (by omega),
      decodeFrom_two_char (by omega), hfirst, hsecond]
    rfl
  | a :: b :: c :: rest, left, pads, h => by
    have hc := h c (by simp)
    have hhigh : c / 64 = c / 64 % 4 := by omega
    have hthird : c / 64 % 4 * 64 + c % 64 = c := by omega
    rw [encode, hhigh, decodeFrom_group (h a (by simp)) (h b (by simp)), hthird,
      decodeFrom_encode fun x hx => h x (by simp [hx])]
    rfl

/-! ## Padding -/

/-- `rstrip("=")`. -/
def unpad (cs : List Char) : List Char := cs.rdropWhile (· = '=')

/-- A text with the padding that completes its last group. -/
def pad (cs : List Char) : List Char :=
  cs ++ List.replicate (-(cs.length : ℤ) % 4).toNat '='

/-- An encoding is a text that no padding ends, and the padding that completes it. -/
theorem encode_eq_append : ∀ bytes : List ℕ, (∀ b ∈ bytes, b < 256) →
    ∃ cs n, encode bytes = cs ++ List.replicate n '=' ∧ n < 4 ∧ (cs.length + n) % 4 = 0 ∧
      (∀ c ∈ cs, c ≠ '=' ∧ c.toNat < 128)
  | [], _ => ⟨[], 0, rfl, by omega, rfl, by simp⟩
  | [a], h => by
    have ha := h a (.head _)
    obtain ⟨h1, -, h1'⟩ := char_spec (show a / 4 < 64 by omega)
    obtain ⟨h2, -, h2'⟩ := char_spec (show a % 4 * 16 < 64 by omega)
    exact ⟨[char (a / 4), char (a % 4 * 16)], 2, rfl, by omega, by simp, by simp [*]⟩
  | [a, b], h => by
    have ha := h a (.head _)
    have hb := h b (.tail _ (.head _))
    obtain ⟨h1, -, h1'⟩ := char_spec (show a / 4 < 64 by omega)
    obtain ⟨h2, -, h2'⟩ := char_spec (show a % 4 * 16 + b / 16 < 64 by omega)
    obtain ⟨h3, -, h3'⟩ := char_spec (show b % 16 * 4 < 64 by omega)
    exact ⟨[char (a / 4), char (a % 4 * 16 + b / 16), char (b % 16 * 4)], 1, rfl, by omega,
      by simp, by simp [*]⟩
  | a :: b :: c :: rest, h => by
    have ha := h a (by simp)
    have hb := h b (by simp)
    have hc := h c (by simp)
    obtain ⟨cs, n, heq, hn, hlen, hcs⟩ := encode_eq_append rest fun x hx => h x (by simp [hx])
    obtain ⟨h1, -, h1'⟩ := char_spec (show a / 4 < 64 by omega)
    obtain ⟨h2, -, h2'⟩ := char_spec (show a % 4 * 16 + b / 16 < 64 by omega)
    obtain ⟨h3, -, h3'⟩ := char_spec (show b % 16 * 4 + c / 64 < 64 by omega)
    obtain ⟨h4, -, h4'⟩ := char_spec (show c % 64 < 64 by omega)
    refine ⟨char (a / 4) :: char (a % 4 * 16 + b / 16) :: char (b % 16 * 4 + c / 64) ::
      char (c % 64) :: cs, n, by rw [encode, heq]; rfl, hn, ?_, ?_⟩
    · simp only [List.length_cons]
      omega
    · simpa only [List.forall_mem_cons] using ⟨⟨h1, h1'⟩, ⟨h2, h2'⟩, ⟨h3, h3'⟩, ⟨h4, h4'⟩, hcs⟩

/-- Only the padding is stripped. -/
theorem unpad_append_replicate {cs : List Char} (h : ∀ c ∈ cs, c ≠ '=') (n : ℕ) :
    unpad (cs ++ List.replicate n '=') = cs := by
  induction n with
  | zero =>
    rw [List.replicate_zero, List.append_nil, unpad, List.rdropWhile_eq_self_iff]
    intro hne
    simpa using h _ (List.getLast_mem hne)
  | succ n ih =>
    rw [List.replicate_succ', ← List.append_assoc, unpad,
      List.rdropWhile_concat_pos _ _ _ (by simp)]
    exact ih

/-- **The codec round trip**: an encoding without its padding is decoded once the padding is
restored. -/
theorem decode_pad_unpad_encode {bytes : List ℕ} (h : ∀ b ∈ bytes, b < 256) :
    decode (pad (unpad (encode bytes))) = some bytes := by
  obtain ⟨cs, n, heq, hn, hlen, hcs⟩ := encode_eq_append bytes h
  have hpad : pad (unpad (encode bytes)) = encode bytes := by
    rw [heq, unpad_append_replicate fun c hc => (hcs c hc).1, pad]
    have : (-(cs.length : ℤ) % 4).toNat = n := by omega
    rw [this]
  have hascii : (encode bytes).all fun c => c.toNat < 128 := by
    rw [heq, List.all_append]
    simp only [Bool.and_eq_true, List.all_eq_true, decide_eq_true_eq]
    refine ⟨fun c hc => (hcs c hc).2, fun c hc => ?_⟩
    rw [List.eq_of_mem_replicate hc]
    decide
  rw [hpad, decode, if_pos hascii, decodeFrom_encode h]

theorem length_encode : ∀ bytes : List ℕ, (encode bytes).length = 4 * ((bytes.length + 2) / 3)
  | [] => rfl
  | [_] => by simp [encode]
  | [_, _] => by simp [encode]
  | a :: b :: c :: rest => by
    simp only [encode, List.length_cons, length_encode rest]
    omega

/-- An encoding without its padding is a third longer than its bytes. -/
theorem length_unpad_encode_le (bytes : List ℕ) :
    (unpad (encode bytes)).length ≤ 4 * ((bytes.length + 2) / 3) := by
  have hpre : unpad (encode bytes) <+: encode bytes := List.rdropWhile_prefix _ _
  rw [← length_encode]
  exact hpre.length_le

end Base64
