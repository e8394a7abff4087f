import Mathlib.Algebra.BigOperators.Group.List.Basic
import Mathlib.Algebra.Order.BigOperators.Group.List
import RouteLLM.Lib.Json.Grammar

/-!
# Writing JSON

Texts of the grammar for given strings and members, with a bound on their length. A string is written
with its quotes, its backslashes and its control characters escaped (`charsText_quote`), and members
are written without whitespace (`derives_members`), so that a text of a wanted length is got by padding
it.
-/

namespace JsonWriter

open JsonGrammar

/-! ## Strings -/

/-- A hexadecimal digit. -/
def hexChar (n : ℕ) : Char := ['0', '1', '2', '3', '4', '5', '6', '7', '8', '9', 'a', 'b', 'c', 'd',
  'e', 'f'].getD n '0'

/-- A character between quotes. -/
def quoteChar (c : Char) : List Char :=
  if c = '"' ∨ c = '\\' then ['\\', c]
  else if c.toNat < 32 then ['\\', 'u', '0', '0', hexChar (c.toNat / 16), hexChar (c.toNat % 16)]
  else [c]

/-- The text between the quotes of a string. -/
def quote (cs : List Char) : List Char := cs.flatMap quoteChar

theorem hex4?_control {n : ℕ} (h : n < 32) :
    hex4? '0' '0' (hexChar (n / 16)) (hexChar (n % 16)) = some n := by
  have hall : ∀ n < 32, hex4? '0' '0' (hexChar (n / 16)) (hexChar (n % 16)) = some n := by decide
  exact hall n h

/-- A quoted character writes its code point. -/
theorem charsText_quoteChar (c : Char) {cs : List Char} {units : List ℕ} (h : CharsText cs units) :
    CharsText (quoteChar c ++ cs) (c.toNat :: units) := by
  unfold quoteChar
  split
  · rename_i hescape
    rcases hescape with rfl | rfl
    · exact .escape rfl h
    · exact .escape rfl h
  · rename_i hescape
    split
    · rename_i hcontrol
      exact .unicode (hex4?_control hcontrol) h
    · rename_i hcontrol
      refine .plain ?_ h
      rw [not_or] at hescape
      simp [isPlain, hescape.1, hescape.2]
      omega

/-- A quoted string writes its code points. -/
theorem charsText_quote (cs : List Char) : CharsText (quote cs) (cs.map Char.toNat) := by
  induction cs with
  | nil => exact .nil
  | cons c cs ih => exact charsText_quoteChar c ih

theorem length_quote_le (cs : List Char) : (quote cs).length ≤ 6 * cs.length := by
  induction cs with
  | nil => exact Nat.zero_le _
  | cons c cs ih =>
    have hchar : (quoteChar c).length ≤ 6 := by
      unfold quoteChar
      split
      · exact Nat.le_of_ble_eq_true rfl
      · split
        · exact Nat.le_of_ble_eq_true rfl
        · exact Nat.le_of_ble_eq_true rfl
    have hsplit : (quote (c :: cs)).length = (quoteChar c).length + (quote cs).length :=
      List.length_append
    rw [hsplit, List.length_cons]
    omega

/-- No character is a surrogate. -/
theorem joinSurrogates_chars (cs : List Char) :
    joinSurrogates (cs.map Char.toNat) = cs.map Char.toNat := by
  induction cs with
  | nil => rfl
  | cons c cs ih =>
    cases cs with
    | nil => rfl
    | cons d cs =>
      have hvalid : c.toNat < 0xD800 ∨ 0xDFFF < c.toNat := by
        rcases c.valid with h | h
        · exact .inl h
        · exact .inr h.1
      rw [List.map_cons, List.map_cons, joinSurrogates, if_neg (by omega)]
      exact congrArg _ ih

/-! ## Members -/

/-- A member: its key, and a text of its value. -/
structure Member where
  key : List Char
  text : List Char
  tree : JsonTree

/-- The member of the tree. -/
def Member.entry (m : Member) : PyStr × JsonTree := (m.key.map Char.toNat, m.tree)

/-- The text of a member without its comma. -/
def memberText (m : Member) : List Char := '"' :: (quote m.key ++ '"' :: ':' :: m.text)

/-- The text of members. -/
def membersText : List Member → List Char
  | [] => []
  | [m] => memberText m
  | m :: ms => memberText m ++ ',' :: membersText ms

/-- The members of an object, after any whitespace. -/
theorem derives_members {w : List Char} (hw : Ws w) {ms : List Member} (hne : ms ≠ [])
    (h : ∀ m ∈ ms, Derives m.text (.value m.tree)) :
    Derives (w ++ membersText ms) (.members (ms.map Member.entry)) := by
  induction ms generalizing w with
  | nil => exact absurd rfl hne
  | cons m ms ih =>
    have hkey := charsText_quote m.key
    have hvalue := h m (.head _)
    have hnil : Ws [] := List.forall_mem_nil _
    cases ms with
    | nil =>
      have hlast := Derives.lastMember hw hkey hnil hnil hvalue hnil
      rw [joinSurrogates_chars] at hlast
      simpa [membersText, memberText, Member.entry] using hlast
    | cons m' ms =>
      have hrest := ih (w := []) hnil (List.cons_ne_nil _ _) fun m hm => h m (.tail _ hm)
      have hnext := Derives.nextMember hw hkey hnil hnil hvalue hnil hrest
      rw [joinSurrogates_chars] at hnext
      simpa [membersText, memberText, Member.entry] using hnext

/-- The text of members is bounded by their number and the length of the longest. -/
theorem length_membersText_le {bound : ℕ} {ms : List Member}
    (h : ∀ m ∈ ms, 6 * m.key.length + m.text.length + 4 ≤ bound) :
    (membersText ms).length ≤ ms.length * bound := by
  induction ms with
  | nil => exact Nat.zero_le _
  | cons m ms ih =>
    have hm := h m (.head _)
    have ih := ih fun m hm => h m (.tail _ hm)
    have hquote := length_quote_le m.key
    have htext : (memberText m).length = (quote m.key).length + m.text.length + 3 := by
      simp only [memberText, List.length_cons, List.length_append]
      omega
    rw [List.length_cons, Nat.succ_mul]
    cases ms with
    | nil =>
      show (memberText m).length ≤ _
      omega
    | cons m' ms =>
      show (memberText m ++ ',' :: membersText (m' :: ms)).length ≤ _
      rw [List.length_append, List.length_cons]
      omega

end JsonWriter
