import Mathlib.Data.Int.Basic
import Mathlib.Tactic.Common

/-!
# A key-value store with expiring counters

The commands of a Redis server on integer values: `GET`, `INCRBY`, `PTTL` and `PEXPIRE`, over any
type of keys. Times are milliseconds. A key with an expiry exists up to that time and vanishes after
it; a command sees the keys that are live when it runs. What a command does to the live keys is
stated once (`live_incrBy`, `live_pexpire`), and reasoning about a sequence of commands goes through
these equations.
-/

namespace ExpiringStore

/-- A stored counter with its optional expiry. -/
structure Entry where
  value : ℤ
  expiresAt : Option ℕ
  deriving DecidableEq

/-- The contents of a store. An expired entry may still be there until it is overwritten. -/
abbrev Store (K : Type*) := K → Option Entry

variable {K : Type*} (now : ℕ) (store : Store K) (key : K)

/-- An entry exists up to its expiry. -/
def Entry.liveAt (e : Entry) (now : ℕ) : Bool := e.expiresAt.all (now ≤ ·)

/-- The entry of a key that exists. -/
def live : Option Entry := (store key).filter (·.liveAt now)

/-- `GET`. -/
def value? : Option ℤ := (live now store key).map (·.value)

/-- `INCRBY`: it creates a key without expiry, and keeps the expiry of one that exists. -/
def incrBy [DecidableEq K] (increment : ℤ) : ℤ × Store K :=
  let e := (live now store key).getD ⟨0, none⟩
  (e.value + increment, Function.update store key (some ⟨e.value + increment, e.expiresAt⟩))

/-- `PTTL`: `-2` without the key, `-1` without an expiry. -/
def pttl : ℤ :=
  match live now store key with
  | none => -2
  | some e =>
    match e.expiresAt with
    | none => -1
    | some t => t - now

/-- `PEXPIRE`. -/
def pexpire [DecidableEq K] (ms : ℕ) : Store K :=
  match live now store key with
  | none => store
  | some e => Function.update store key (some ⟨e.value, some (now + ms)⟩)

variable {now store key}

/-- A live entry is stored and has not expired. -/
theorem live_eq_some {e : Entry} :
    live now store key = some e ↔ store key = some e ∧ ∀ t, e.expiresAt = some t → now ≤ t := by
  simp [live, Option.filter_eq_some_iff, Entry.liveAt, Option.all_eq_true]

/-- What is live later was live before. -/
theorem live_of_le {later : ℕ} (h : now ≤ later) {e : Entry} (he : live later store key = some e) :
    live now store key = some e := by
  rw [live_eq_some] at he ⊢
  exact ⟨he.1, fun t ht => Nat.le_trans h (he.2 t ht)⟩

/-- What is live stays live up to its expiry. -/
theorem live_later {e : Entry} (he : live now store key = some e) (later : ℕ) :
    live later store key = if e.liveAt later then some e else none := by
  obtain ⟨hstored, _⟩ := live_eq_some.mp he
  rw [live, hstored, Option.filter_some]

/-- What is not live comes alive by no wait. -/
theorem live_later_none {later : ℕ} (h : now ≤ later) (hnone : live now store key = none) :
    live later store key = none := by
  cases hlater : live later store key with
  | none => rfl
  | some e =>
    rw [live_of_le h hlater] at hnone
    cases hnone

/-- The time to live of a key is not negative exactly when it has an expiry. -/
theorem pttl_neg_iff :
    pttl now store key < 0 ↔ ∀ e, live now store key = some e → e.expiresAt = none := by
  unfold pttl
  split
  · simp_all
  · rename_i e he
    split
    · simp_all
    · rename_i t ht
      have := (live_eq_some.mp he).2 t ht
      simp [he, ht]
      omega

/-- The live keys after an increment. -/
theorem live_incrBy [DecidableEq K] (increment : ℤ) (k : K) :
    live now (incrBy now store key increment).2 k =
      if k = key then
        some ⟨(value? now store key).getD 0 + increment, (live now store key).bind (·.expiresAt)⟩
      else live now store k := by
  by_cases hk : k = key
  · subst hk
    rw [if_pos rfl, live_eq_some]
    cases he : live now store k with
    | none => simp [incrBy, value?, he]
    | some e => exact ⟨by simp [incrBy, value?, he], (live_eq_some.mp he).2⟩
  · simp [incrBy, live, hk]

/-- The live keys after an expiry was set. -/
theorem live_pexpire [DecidableEq K] (ms : ℕ) (k : K) :
    live now (pexpire now store key ms) k =
      if k = key then (live now store key).map fun e => ⟨e.value, some (now + ms)⟩
      else live now store k := by
  unfold pexpire
  by_cases hk : k = key
  · subst hk
    rw [if_pos rfl]
    split
    · rename_i he
      rw [he, Option.map_none]
    · rename_i e he
      rw [he, Option.map_some, live_eq_some]
      simp
  · rw [if_neg hk]
    split
    · rfl
    · simp [live, hk]

end ExpiringStore
