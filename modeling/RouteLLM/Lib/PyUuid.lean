import RouteLLM.Lib.PaddedDigits
import RouteLLM.Lib.PyStr

/-!
# Python UUIDs and their texts

A `UUID` is a number of 128 bits. `str` writes it in hexadecimal with hyphens, and `parse?` is
`UUID(text)`, which drops the marks that may stand around the digits; the other spellings that `int`
reads in hexadecimal are left out.
-/

/-- A `UUID`, compared by its number. -/
structure PyUuid where
  int : ℕ
  lt : int < 16 ^ 32
  deriving DecidableEq

namespace PyUuid

theorem ext {u v : PyUuid} (h : u.int = v.int) : u = v := by
  cases u
  cases v
  cases h
  rfl

/-- The 32 hexadecimal digits. -/
def hex (u : PyUuid) : List Char := PaddedDigits.padded 16 32 u.int

/-- Digits in groups of 8, 4, 4, 4 and 12. -/
def hyphenated (ds : List Char) : List Char :=
  ds.take 8 ++ '-' :: (ds.drop 8).take 4 ++ '-' :: (ds.drop 12).take 4 ++
    '-' :: (ds.drop 16).take 4 ++ '-' :: ds.drop 20

/-- `str(u)`. -/
def str (u : PyUuid) : List Char := hyphenated u.hex

/-- `text.replace(pattern, "")`, after the first `skip` characters, which belong to a match. -/
def removeFrom (pattern : List Char) : ℕ → List Char → List Char
  | _, [] => []
  | skip + 1, _ :: cs => removeFrom pattern skip cs
  | 0, c :: cs =>
    if pattern.isPrefixOf (c :: cs) then removeFrom pattern (pattern.length - 1) cs
    else c :: removeFrom pattern 0 cs

/-- `text.strip("\x7b\x7d")`. -/
def stripBraces (cs : List Char) : List Char :=
  PyStr.stripBy (fun c => c = '\x7b' || c = '\x7d') cs

/-- `UUID(text)`. -/
def parse? (cs : List Char) : Option PyUuid :=
  let digits := (stripBraces (removeFrom "uuid:".toList 0 (removeFrom "urn:".toList 0 cs))).filter
    (· ≠ '-')
  if digits.length = 32 then
    match PaddedDigits.value? 16 digits with
    | some n => if h : n < 16 ^ 32 then some ⟨n, h⟩ else none
    | none => none
  else none

/-- A pattern is not found where its first character does not occur. -/
theorem removeFrom_eq_self {c : Char} {pattern cs : List Char} (h : c ∉ cs) :
    removeFrom (c :: pattern) 0 cs = cs := by
  induction cs with
  | nil => rfl
  | cons x cs ih =>
    rw [List.mem_cons, not_or] at h
    rw [removeFrom, if_neg (by simp [h.1]), ih h.2]

theorem mem_hyphenated {ds : List Char} {c : Char} (h : c ∈ hyphenated ds) : c = '-' ∨ c ∈ ds := by
  simp only [hyphenated, List.mem_append, List.mem_cons] at h
  rcases h with ((((h | h | h) | h | h) | h | h) | h | h)
  · exact .inr (List.mem_of_mem_take h)
  · exact .inl h
  · exact .inr (List.mem_of_mem_drop (List.mem_of_mem_take h))
  · exact .inl h
  · exact .inr (List.mem_of_mem_drop (List.mem_of_mem_take h))
  · exact .inl h
  · exact .inr (List.mem_of_mem_drop (List.mem_of_mem_take h))
  · exact .inl h
  · exact .inr (List.mem_of_mem_drop h)

/-- Without the hyphens the digits are left. -/
theorem filter_hyphenated {ds : List Char} (h : '-' ∉ ds) :
    (hyphenated ds).filter (· ≠ '-') = ds := by
  have hself {part : List Char} (hpart : part ⊆ ds) : part.filter (· ≠ '-') = part := by
    refine List.filter_eq_self.mpr fun c hc => ?_
    have hne : c ≠ '-' := fun heq => h (heq ▸ hpart hc)
    exact decide_eq_true hne
  have htake (k n : ℕ) : ((ds.drop k).take n).filter (· ≠ '-') = (ds.drop k).take n :=
    hself fun _ hc => List.mem_of_mem_drop (List.mem_of_mem_take hc)
  have hhyphen (cs : List Char) : ('-' :: cs).filter (· ≠ '-') = cs.filter (· ≠ '-') :=
    List.filter_cons_of_neg (by simp)
  rw [hyphenated, List.filter_append, List.filter_append, List.filter_append, List.filter_append,
    hhyphen, hhyphen, hhyphen, hhyphen, htake, htake, htake, hself (List.take_subset _ _),
    hself (List.drop_subset _ _)]
  have hjoin (k n : ℕ) : (ds.drop k).take n ++ ds.drop (k + n) = ds.drop k := by
    rw [← List.drop_drop, List.take_append_drop]
  rw [List.append_assoc, List.append_assoc, List.append_assoc, hjoin 16 4, hjoin 12 4, hjoin 8 4,
    List.take_append_drop]

theorem length_str (u : PyUuid) : u.str.length = 36 := by
  have hlen : u.hex.length = 32 := PaddedDigits.length_padded 32 u.int
  simp [str, hyphenated, hlen]

/-- The characters of a UUID. -/
theorem mem_str {u : PyUuid} {c : Char} (h : c ∈ u.str) :
    c = '-' ∨ ∃ d < 16, c = Nat.digitChar d :=
  (mem_hyphenated h).imp_right (PaddedDigits.mem_padded (by decide))

theorem digitChar_ne {c : Char} {ds : List Char} (hds : ∀ x ∈ ds, ∃ d < 16, x = Nat.digitChar d)
    (hc : ∀ d < 16, Nat.digitChar d ≠ c) : c ∉ ds := by
  intro hmem
  obtain ⟨d, hd, heq⟩ := hds c hmem
  exact hc d hd heq.symm

/-- Digits are read back from between their hyphens. -/
theorem parse?_hyphenated {ds : List Char} {n : ℕ} (hlen : ds.length = 32)
    (hds : ∀ x ∈ ds, ∃ d < 16, x = Nat.digitChar d) (hvalue : PaddedDigits.value? 16 ds = some n)
    (hn : n < 16 ^ 32) : parse? (hyphenated ds) = some ⟨n, hn⟩ := by
  have hnot {c : Char} (hne : c ≠ '-') (hc : ∀ d < 16, Nat.digitChar d ≠ c) :
      c ∉ hyphenated ds := by
    intro hmem
    exact (mem_hyphenated hmem).elim hne (digitChar_ne hds hc)
  have hurn : removeFrom "urn:".toList 0 (hyphenated ds) = hyphenated ds :=
    removeFrom_eq_self (hnot (by decide) (by decide))
  have huuid : removeFrom "uuid:".toList 0 (hyphenated ds) = hyphenated ds :=
    removeFrom_eq_self (hnot (by decide) (by decide))
  have hbrace : ∀ c ∈ hyphenated ds, (c = '\x7b' || c = '\x7d') = false := by
    intro c hmem
    have hopen : c ≠ '\x7b' := fun heq => hnot (by decide) (by decide) (heq ▸ hmem)
    have hclose : c ≠ '\x7d' := fun heq => hnot (by decide) (by decide) (heq ▸ hmem)
    simp [hopen, hclose]
  have hstrip : stripBraces (hyphenated ds) = hyphenated ds :=
    PyStr.stripBy_eq_self _ (fun c hc => hbrace c (List.mem_of_mem_head? hc))
      fun c hc => hbrace c (List.mem_of_getLast? hc)
  have hhyphen : '-' ∉ ds := digitChar_ne hds (by decide)
  have hfilter := filter_hyphenated hhyphen
  rw [parse?, hurn, huuid, hstrip, hfilter]
  simp only [hlen, hvalue, if_true, hn, dite_true]

/-- **The round trip**: a UUID is read back from its text. -/
theorem parse?_str (u : PyUuid) : parse? u.str = some u :=
  parse?_hyphenated (PaddedDigits.length_padded 32 u.int)
    (fun _ => PaddedDigits.mem_padded (by decide)) (PaddedDigits.value?_padded (by decide)
      (by decide) u.lt) u.lt

end PyUuid
