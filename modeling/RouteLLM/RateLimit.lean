import Mathlib.Data.List.Basic
import Mathlib.Data.Rat.Defs
import Mathlib.Tactic.NormNum
import RouteLLM.Lib.ExpiringStore

/-!
# Rate-limit admission

`rate_limit.py`: the admission script over the commands of the store, and the system of its atomic
executions by any clients at any nondecreasing times. The digest of a client identity is a
parameter. The system keeps a ghost history of its executions, from which `windowTotals` reads the
admitted weight of every window of a key; `reachable_safe` bounds all of them and ties each live
counter to its current window. The numbers of the script stay below `2 ^ 53`, where the arithmetic
of Lua is exact.
-/

namespace RouteLLM

open ExpiringStore

inductive InferenceKind
  | explicit | adaptive
  deriving DecidableEq

/-- `RateLimitSettings`, with its field bounds and the checks of `validate_required_settings`. The
URL of the store is left out: nothing modelled reads it. -/
structure RateLimitSettings where
  required : Bool := false
  hmacSecret : Option String := none
  redisTimeoutSeconds : ℚ := 1 / 4
  clientCapacity : ℕ := 10
  clientWindowSeconds : ℕ := 60
  globalCapacity : ℕ := 100
  globalWindowSeconds : ℕ := 60
  explicitWeight : ℕ := 1
  adaptiveWeight : ℕ := 2
  timeout_range : 0 < redisTimeoutSeconds ∧ redisTimeoutSeconds ≤ 5
  clientCapacity_range : 0 < clientCapacity ∧ clientCapacity ≤ 1000000
  clientWindow_range : 0 < clientWindowSeconds ∧ clientWindowSeconds ≤ 86400
  globalCapacity_range : 0 < globalCapacity ∧ globalCapacity ≤ 10000000
  globalWindow_range : 0 < globalWindowSeconds ∧ globalWindowSeconds ≤ 86400
  explicitWeight_range : 0 < explicitWeight ∧ explicitWeight ≤ 1000000
  adaptiveWeight_range : 0 < adaptiveWeight ∧ adaptiveWeight ≤ 1000000
  required_secret : required = true → hmacSecret.isSome = true
  secret_length : ∀ secret, hmacSecret = some secret → 32 ≤ secret.length
  explicit_fits : explicitWeight ≤ min clientCapacity globalCapacity
  adaptive_fits : adaptiveWeight ≤ min clientCapacity globalCapacity

namespace RateLimitSettings

/-- The weight of a request. -/
def weight (settings : RateLimitSettings) : InferenceKind → ℕ
  | .explicit => settings.explicitWeight
  | .adaptive => settings.adaptiveWeight

def clientWindowMs (settings : RateLimitSettings) : ℕ := settings.clientWindowSeconds * 1000

def globalWindowMs (settings : RateLimitSettings) : ℕ := settings.globalWindowSeconds * 1000

theorem weight_pos (settings : RateLimitSettings) (kind : InferenceKind) :
    0 < settings.weight kind := by
  cases kind with
  | explicit => exact settings.explicitWeight_range.1
  | adaptive => exact settings.adaptiveWeight_range.1

end RateLimitSettings

namespace RedisRateLimiter

def keyPrefix : String := "routellm:rate:{admission}"

/-- The key of a client with this digest. -/
def clientKey (digest : String) : String := keyPrefix ++ ":client:" ++ digest

def globalKey : String := keyPrefix ++ ":global"

/-- No client has the global key. -/
theorem clientKey_ne_globalKey (digest : String) : clientKey digest ≠ globalKey := by
  intro h
  have hlist := congrArg String.toList h
  simp only [clientKey, globalKey, String.toList_append, List.append_assoc] at hlist
  have htail := congrArg (·[1]?) (List.append_cancel_left hlist)
  simp at htail

/-! ## The script -/

section script
variable (now : ℕ) (store : Store String)

/-- `INCRBY` of a counter, and `PEXPIRE` if it has no expiry. -/
def consume (key : String) (weight windowMs : ℕ) : ℤ × Store String :=
  let (used, store) := incrBy now store key weight
  (used, if pttl now store key < 0 then pexpire now store key windowMs else store)

/-- The retry time of a blocked counter: its time to live, or a whole window. -/
def retryMs (key : String) (windowMs : ℕ) : ℤ :=
  if pttl now store key < 1 then windowMs else pttl now store key

/-- `_ADMIT_SCRIPT`, run at one time: the reply and the store it leaves. -/
def admitScript (clientKey globalKey : String)
    (weight clientCapacity clientWindowMs globalCapacity globalWindowMs : ℕ) :
    List ℤ × Store String :=
  let clientUsed := (value? now store clientKey).getD 0
  let globalUsed := (value? now store globalKey).getD 0
  let clientBlocked : Bool := clientUsed + weight > clientCapacity
  let globalBlocked : Bool := globalUsed + weight > globalCapacity
  if clientBlocked || globalBlocked then
    let clientRetry := if clientBlocked then retryMs now store clientKey clientWindowMs else 0
    let globalRetry := if globalBlocked then retryMs now store globalKey globalWindowMs else 0
    let retry := if globalRetry > clientRetry then globalRetry else clientRetry
    let scope := if clientBlocked then (if globalBlocked then 3 else 1) else 2
    ([0, retry, scope], store)
  else
    let (newClient, store) := consume now store clientKey weight clientWindowMs
    let (newGlobal, store) := consume now store globalKey weight globalWindowMs
    ([1, 0, clientCapacity - newClient, globalCapacity - newGlobal], store)

variable {now store}

/-- The live counters after one was consumed: it has grown by the weight, and it expires when it
did, or at the end of a new window. -/
theorem live_consume (key : String) (weight windowMs : ℕ) (k : String) :
    live now (consume now store key weight windowMs).2 k =
      if k = key then
        some ⟨(value? now store key).getD 0 + weight,
          some (((live now store key).bind (·.expiresAt)).getD (now + windowMs))⟩
      else live now store k := by
  have hinc (k : String) : live now (incrBy now store key weight).2 k = _ := live_incrBy weight k
  have hkey := hinc key
  rw [if_pos rfl] at hkey
  have hpttl : pttl now (incrBy now store key weight).2 key < 0 ↔
      (live now store key).bind (·.expiresAt) = none := by
    rw [pttl_neg_iff, hkey]
    simp
  simp only [consume, hpttl]
  cases hexp : (live now store key).bind (·.expiresAt) with
  | none =>
    rw [if_pos rfl, live_pexpire, hinc k, hkey]
    split <;> simp
  | some t => rw [if_neg (by simp), hinc k, hexp, Option.getD_some]

/-- What the script can do: it rejects and leaves the store alone, or it consumes both counters,
which have room for the weight. -/
theorem admitScript_cases (now : ℕ) (store : Store String) (clientKey globalKey : String)
    (weight clientCapacity clientWindowMs globalCapacity globalWindowMs : ℕ) :
    (∃ retry scope, admitScript now store clientKey globalKey weight clientCapacity clientWindowMs
        globalCapacity globalWindowMs = ([0, retry, scope], store)) ∨
      (value? now store clientKey).getD 0 + weight ≤ clientCapacity ∧
      (value? now store globalKey).getD 0 + weight ≤ globalCapacity ∧
      ∃ clientLeft globalLeft, admitScript now store clientKey globalKey weight clientCapacity
        clientWindowMs globalCapacity globalWindowMs =
          ([1, 0, clientLeft, globalLeft],
            (consume now (consume now store clientKey weight clientWindowMs).2 globalKey weight
              globalWindowMs).2) := by
  unfold admitScript
  dsimp only
  split
  · exact .inl ⟨_, _, rfl⟩
  · rename_i hfree
    simp only [Bool.or_eq_true, decide_eq_true_eq, not_or, gt_iff_lt] at hfree
    exact .inr ⟨Int.not_lt.mp hfree.1, Int.not_lt.mp hfree.2, _, _, rfl⟩

end script

/-! ## The system -/

/-- One execution of the script, as the ghost history records it: the keys that did not exist when
it ran are the ones it creates if it admits. -/
structure Execution where
  clientKey : String
  weight : ℕ
  admitted : Bool
  clientAbsent : Bool
  globalAbsent : Bool

namespace Execution

/-- The execution counted a request on this key. -/
def admits (e : Execution) (key : String) : Bool :=
  e.admitted && (key = e.clientKey || key = globalKey)

/-- The key did not exist when the execution ran. -/
def absent (e : Execution) (key : String) : Bool :=
  if key = globalKey then e.globalAbsent else e.clientAbsent

end Execution

/-- The admitted weights of the windows of a key, the newest first. A history lists the newest
execution first; an admission opens a window if it created the key, and else counts in the newest. -/
def windowTotals (key : String) : List Execution → List ℕ
  | [] => []
  | e :: older =>
    if e.admits key then
      if e.absent key then e.weight :: windowTotals key older
      else match windowTotals key older with
        | [] => [e.weight]
        | total :: totals => (total + e.weight) :: totals
    else windowTotals key older

structure AdmissionState where
  now : ℕ
  store : Store String
  history : List Execution

variable (settings : RateLimitSettings) (digest : String → String)

/-- An atomic execution of the script for a client at a time. -/
def AdmissionState.admitRequest (s : AdmissionState) (time : ℕ) (client : String)
    (kind : InferenceKind) : AdmissionState :=
  let key := clientKey (digest client)
  let result := admitScript time s.store key globalKey (settings.weight kind)
    settings.clientCapacity settings.clientWindowMs settings.globalCapacity settings.globalWindowMs
  { now := time
    store := result.2
    history := {
      clientKey := key
      weight := settings.weight kind
      admitted := result.1.head? = some 1
      clientAbsent := (live time s.store key).isNone
      globalAbsent := (live time s.store globalKey).isNone } :: s.history }

/-- The states that executions of any clients at nondecreasing times reach from an empty store.
Between executions time passes and keys vanish. -/
inductive Reachable : AdmissionState → Prop
  | empty (now : ℕ) : Reachable ⟨now, fun _ => none, []⟩
  | wait {s : AdmissionState} {time : ℕ} (h : Reachable s) (hle : s.now ≤ time) :
      Reachable { s with now := time }
  | admitRequest {s : AdmissionState} {time : ℕ} (h : Reachable s) (hle : s.now ≤ time)
      (client : String) (kind : InferenceKind) :
      Reachable (s.admitRequest settings digest time client kind)

/-- What holds of a counter: while it exists it expires within its window, it is positive and within
its capacity, and it is the admitted weight since its creation; and no window of it has admitted
more than the capacity. -/
structure CounterSafe (s : AdmissionState) (key : String) (capacity windowMs : ℕ) : Prop where
  live_safe : ∀ e, live s.now s.store key = some e →
    (∃ t, e.expiresAt = some t ∧ t ≤ s.now + windowMs) ∧ 0 < e.value ∧ e.value ≤ capacity ∧
      ∃ total : ℕ, (windowTotals key s.history).head? = some total ∧ e.value = total
  totals_le : ∀ total ∈ windowTotals key s.history, total ≤ capacity

section
variable {s : AdmissionState} {key : String} {capacity windowMs time : ℕ} {e : Execution}
  {store : Store String}

/-- Time only makes counters vanish. -/
theorem CounterSafe.wait (h : CounterSafe s key capacity windowMs) (hle : s.now ≤ time) :
    CounterSafe { s with now := time } key capacity windowMs := by
  refine ⟨fun entry hentry => ?_, h.totals_le⟩
  obtain ⟨⟨t, ht, hle'⟩, hrest⟩ := h.live_safe entry (live_of_le hle hentry)
  exact ⟨⟨t, ht, hle'.trans (Nat.add_le_add_right hle windowMs)⟩, hrest⟩

/-- An execution that counts nothing on a key leaves its counter as it was. -/
theorem CounterSafe.untouched (h : CounterSafe s key capacity windowMs)
    (hlive : live s.now store key = live s.now s.store key) (hadmits : e.admits key = false) :
    CounterSafe ⟨s.now, store, e :: s.history⟩ key capacity windowMs := by
  have htotals : windowTotals key (e :: s.history) = windowTotals key s.history := by
    simp [windowTotals, hadmits]
  constructor
  · intro entry hentry
    simp only [htotals]
    exact h.live_safe entry (hlive ▸ hentry)
  · simpa [htotals] using h.totals_le

/-- An admission within the capacity keeps a counter safe: it extends the current window, or opens
one if the key was absent. -/
theorem CounterSafe.consumed (h : CounterSafe s key capacity windowMs)
    (hlive : live s.now store key = some ⟨(value? s.now s.store key).getD 0 + e.weight,
      some (((live s.now s.store key).bind (·.expiresAt)).getD (s.now + windowMs))⟩)
    (hadmits : e.admits key = true) (habsent : e.absent key = (live s.now s.store key).isNone)
    (hpos : 0 < e.weight) (hfit : (value? s.now s.store key).getD 0 + e.weight ≤ capacity) :
    CounterSafe ⟨s.now, store, e :: s.history⟩ key capacity windowMs := by
  cases hold : live s.now s.store key with
  | none =>
    have htotals : windowTotals key (e :: s.history) = e.weight :: windowTotals key s.history := by
      simp [windowTotals, hadmits, habsent, hold]
    have hfit' : e.weight ≤ capacity := by simpa [value?, hold] using hfit
    constructor
    · intro entry hentry
      obtain rfl : _ = entry := Option.some.inj (hlive.symm.trans hentry)
      refine ⟨⟨_, rfl, by simp [hold]⟩, ?_, ?_, e.weight, by simp [htotals], ?_⟩
      all_goals simp [value?, hold]; try omega
    · simpa [htotals] using ⟨hfit', h.totals_le⟩
  | some old =>
    obtain ⟨⟨t, ht, hle⟩, hvpos, hvle, total, hhead, hvalue⟩ := h.live_safe old hold
    obtain ⟨totals, hcons⟩ : ∃ totals, windowTotals key s.history = total :: totals := by
      cases hw : windowTotals key s.history with
      | nil => simp [hw] at hhead
      | cons a as =>
        rw [hw, List.head?_cons] at hhead
        exact ⟨as, by rw [Option.some.inj hhead]⟩
    have htotals : windowTotals key (e :: s.history) = (total + e.weight) :: totals := by
      simp [windowTotals, hadmits, habsent, hold, hcons]
    have hfit' : old.value + e.weight ≤ capacity := by simpa [value?, hold] using hfit
    constructor
    · intro entry hentry
      obtain rfl : _ = entry := Option.some.inj (hlive.symm.trans hentry)
      refine ⟨⟨_, rfl, by simpa [hold, ht] using hle⟩, ?_, ?_, total + e.weight, by simp [htotals], ?_⟩
      all_goals simp [value?, hold]; try omega
    · intro n hn
      rw [htotals] at hn
      rcases List.mem_cons.mp hn with rfl | hn
      · omega
      · exact h.totals_le n (hcons ▸ List.mem_cons_of_mem _ hn)

end

/-! ## Safety -/

/-- Every client counter and the global counter are safe. -/
structure Safe (s : AdmissionState) : Prop where
  client : ∀ client, CounterSafe s (clientKey (digest client)) settings.clientCapacity
    settings.clientWindowMs
  global : CounterSafe s globalKey settings.globalCapacity settings.globalWindowMs

variable {settings digest} {s : AdmissionState}

theorem Safe.wait {time : ℕ} (h : Safe settings digest s) (hle : s.now ≤ time) :
    Safe settings digest { s with now := time } :=
  ⟨fun client => (h.client client).wait hle, h.global.wait hle⟩

/-- An execution keeps every counter safe: a rejected one touches none, and an admitted one touches
the two it consumes. -/
theorem Safe.admitRequest (h : Safe settings digest s) (client : String) (kind : InferenceKind) :
    Safe settings digest (s.admitRequest settings digest s.now client kind) := by
  unfold AdmissionState.admitRequest
  dsimp only
  rcases admitScript_cases s.now s.store (clientKey (digest client)) globalKey
    (settings.weight kind) settings.clientCapacity settings.clientWindowMs settings.globalCapacity
    settings.globalWindowMs with ⟨retry, scope, hscript⟩ | ⟨hclient, hglobal, _, _, hscript⟩
  · rw [hscript]
    exact ⟨fun other => (h.client other).untouched rfl rfl, h.global.untouched rfl rfl⟩
  · have hne := clientKey_ne_globalKey (digest client)
    rw [hscript]
    constructor
    · intro other
      have hother := clientKey_ne_globalKey (digest other)
      by_cases hsame : clientKey (digest other) = clientKey (digest client)
      · refine (h.client other).consumed ?_ ?_ ?_ (settings.weight_pos kind) (hsame ▸ hclient)
        · rw [live_consume, if_neg hother, live_consume, if_pos hsame, hsame]
        · simp [Execution.admits, hsame]
        · simp [Execution.absent, hsame, hne]
      · refine (h.client other).untouched ?_ ?_
        · rw [live_consume, if_neg hother, live_consume, if_neg hsame]
        · simp [Execution.admits, hsame, hother]
    · have hvalue : value? s.now (consume s.now s.store (clientKey (digest client))
          (settings.weight kind) settings.clientWindowMs).2 globalKey =
            value? s.now s.store globalKey := by
        rw [value?, live_consume, if_neg hne.symm, value?]
      refine h.global.consumed ?_ ?_ ?_ (settings.weight_pos kind) hglobal
      · rw [live_consume, if_pos rfl, hvalue, live_consume, if_neg hne.symm]
      · simp [Execution.admits]
      · simp [Execution.absent]

/-- **Admission safety over all interleavings.** In every reachable state each client counter and
the global counter that exists expires within its window, is positive and within its capacity, and
is the admitted weight since its key was created; and no window of any key has admitted more than
its capacity. -/
theorem reachable_safe (h : Reachable settings digest s) : Safe settings digest s := by
  induction h with
  | empty now =>
    have hempty (key : String) (capacity windowMs : ℕ) :
        CounterSafe ⟨now, fun _ => none, []⟩ key capacity windowMs :=
      ⟨fun e he => (by simp [live] at he), by simp [windowTotals]⟩
    exact ⟨fun _ => hempty _ _ _, hempty _ _ _⟩
  | wait _ hle ih => exact ih.wait hle
  | admitRequest _ hle client kind ih => exact (ih.wait hle).admitRequest client kind

/-- The settings of the defaults. -/
def defaultSettings : RateLimitSettings where
  timeout_range := by norm_num
  clientCapacity_range := by decide
  clientWindow_range := by decide
  globalCapacity_range := by decide
  globalWindow_range := by decide
  explicitWeight_range := by decide
  adaptiveWeight_range := by decide
  required_secret := by decide
  secret_length := by simp
  explicit_fits := by decide
  adaptive_fits := by decide

/-- The state after one request each of two clients. -/
def sampleState : AdmissionState :=
  let empty : AdmissionState := ⟨0, fun _ => none, []⟩
  (empty.admitRequest defaultSettings id 5 "a" .explicit).admitRequest defaultSettings id 6 "b"
    .adaptive

theorem reachable_safe_sample : Safe defaultSettings id sampleState :=
  reachable_safe (.admitRequest (.admitRequest (.empty 0) (Nat.zero_le 5) "a" .explicit)
    (Nat.le_succ 5) "b" .adaptive)

example : windowTotals globalKey sampleState.history = [3] := by decide +kernel

end RedisRateLimiter

end RouteLLM
