import RouteLLM.Lib.FixedWindow
import RouteLLM.RateLimitRetry

/-!
# Admitted weight over time

Each counter of the limiter is a fixed-window counter: what a sequence of requests has admitted on its key
are admissions of one (`admissions_counter`). So the weight that a client, or all clients together, are
admitted within any interval is bounded (`admitted_within`).
-/

namespace RouteLLM

open ExpiringStore

namespace RedisRateLimiter

/-- A request that arrives at a time. -/
structure Arrival where
  time : ℕ
  client : String
  kind : InferenceKind

variable (settings : RateLimitSettings) (digest : String → String)

/-- What the arrivals are admitted on a key. -/
def admissionsOn (key : String) : AdmissionState → List Arrival → List FixedWindow.Admission
  | _, [] => []
  | s, r :: rest =>
    let later := admissionsOn key (s.admitRequest settings digest r.time r.client r.kind) rest
    if Admitted settings digest r.client r.kind r.time s.store ∧
        (key = clientKey (digest r.client) ∨ key = globalKey) then
      ⟨r.time, settings.weight r.kind⟩ :: later
    else later

/-- The open window of a key. -/
def openWindow (now : ℕ) (store : Store String) (key : String) : Option FixedWindow.Window :=
  (live now store key).bind fun e => e.expiresAt.map fun t => ⟨e.value.toNat, t⟩

variable {settings digest} {s : AdmissionState}

/-- The open window of a key that lives with an expiry. -/
theorem openWindow_of_live {now : ℕ} {store : Store String} {key : String} {value : ℤ} {t : ℕ}
    (h : live now store key = some ⟨value, some t⟩) :
    openWindow now store key = some ⟨value.toNat, t⟩ := by
  rw [openWindow, h]
  rfl

/-- At a later time a window is open that has not closed. -/
theorem openWindow_later {now later : ℕ} (hle : now ≤ later) (store : Store String) (key : String) :
    openWindow later store key = (openWindow now store key).filter (later ≤ ·.last) := by
  rw [openWindow, openWindow]
  cases hlive : live now store key with
  | none => rw [live_later_none hle hlive]; rfl
  | some e =>
    rw [live_later hlive, Entry.liveAt]
    cases hexpiry : e.expiresAt with
    | none => simp [hexpiry]
    | some t =>
      rw [Option.all_some, Option.bind_some, hexpiry, Option.map_some, Option.filter_some]
      by_cases h : later ≤ t <;> simp [h, hexpiry]

/-- A consumed counter counts the weight in its open window, or opens one. -/
theorem openWindow_consumed {key : String} {capacity windowMs weight : ℕ} {store : Store String}
    (h : CounterSafe s key capacity windowMs)
    (hlive : live s.now store key = some ⟨(value? s.now s.store key).getD 0 + weight,
      some (((live s.now s.store key).bind (·.expiresAt)).getD (s.now + windowMs))⟩)
    (hfit : (value? s.now s.store key).getD 0 + weight ≤ capacity) :
    (openWindow s.now s.store key = none ∧ weight ≤ capacity ∧
        openWindow s.now store key = some ⟨weight, s.now + windowMs⟩) ∨
      ∃ w, openWindow s.now s.store key = some w ∧ w.used + weight ≤ capacity ∧ s.now ≤ w.last ∧
        openWindow s.now store key = some ⟨w.used + weight, w.last⟩ := by
  rw [openWindow_of_live hlive, value?]
  rw [value?] at hfit
  cases hold : live s.now s.store key with
  | none =>
    rw [hold, Option.map_none, Option.getD_none] at hfit
    refine .inl ⟨by rw [openWindow, hold]; rfl, by omega, ?_⟩
    simp
  | some e =>
    obtain ⟨⟨t, ht, -⟩, hpos, -⟩ := h.live_safe e hold
    have he : e = ⟨e.value, some t⟩ := by rw [← ht]
    rw [hold, Option.map_some, Option.getD_some] at hfit
    refine .inr ⟨⟨e.value.toNat, t⟩, openWindow_of_live (he ▸ hold), ?_, ?_, ?_⟩
    · dsimp only
      omega
    · exact (live_eq_some.mp hold).2 t ht
    · have hvalue : (e.value + (weight : ℤ)).toNat = e.value.toNat + weight := by omega
      simp [ht, hvalue]

/-- What an arrival does to a counter: an admission on its key is counted in the open window or opens one,
and otherwise the window stays as it is. -/
theorem arrive_cases (client : String) (kind : InferenceKind) (h : Safe settings digest s)
    {other : String} {c : Counter} (hc : c ∈ counters settings digest other) :
    let store := (s.admitRequest settings digest s.now client kind).store
    (Admitted settings digest client kind s.now s.store ∧
        (c.key = clientKey (digest client) ∨ c.key = globalKey) ∧
        ((openWindow s.now s.store c.key = none ∧ settings.weight kind ≤ c.capacity ∧
            openWindow s.now store c.key = some ⟨settings.weight kind, s.now + c.windowMs⟩) ∨
          ∃ w, openWindow s.now s.store c.key = some w ∧ w.used + settings.weight kind ≤ c.capacity ∧
            s.now ≤ w.last ∧
            openWindow s.now store c.key = some ⟨w.used + settings.weight kind, w.last⟩)) ∨
      ¬ (Admitted settings digest client kind s.now s.store ∧
          (c.key = clientKey (digest client) ∨ c.key = globalKey)) ∧
        openWindow s.now store c.key = openWindow s.now s.store c.key := by
  intro store
  have hsafe := h.counter hc
  have hne := clientKey_ne_globalKey (digest client)
  rcases admitScript_cases s.now s.store (clientKey (digest client)) globalKey
    (settings.weight kind) settings.clientCapacity settings.clientWindowMs settings.globalCapacity
    settings.globalWindowMs with ⟨retry, scope, hscript⟩ | ⟨hclient, hglobal, _, _, hscript⟩
  · right
    have hstore : store = s.store := congrArg Prod.snd hscript
    refine ⟨fun hadmitted => ?_, by rw [hstore]⟩
    have hhead := hadmitted.1
    rw [Admitted, request, hscript] at hhead
    cases hhead
  · have hadmitted : Admitted settings digest client kind s.now s.store := by
      rw [Admitted, request, hscript]
      rfl
    have hstore : store = (consume s.now (consume s.now s.store (clientKey (digest client))
        (settings.weight kind) settings.clientWindowMs).2 globalKey (settings.weight kind)
        settings.globalWindowMs).2 := congrArg Prod.snd hscript
    rcases List.mem_cons.mp hc with rfl | hglob
    · have hother := clientKey_ne_globalKey (digest other)
      by_cases hsame : clientKey (digest other) = clientKey (digest client)
      · refine .inl ⟨hadmitted, .inl hsame, openWindow_consumed hsafe ?_ ?_⟩
        · rw [hstore, clientCounter, live_consume, if_neg hother, live_consume, if_pos hsame, hsame]
        · rw [clientCounter, hsame]
          exact hclient
      · refine .inr ⟨?_, ?_⟩
        · rintro ⟨-, hkey | hkey⟩
          · exact hsame hkey
          · exact hother hkey
        · rw [openWindow, openWindow, hstore, clientCounter, live_consume, if_neg hother,
            live_consume, if_neg hsame]
    · obtain rfl := List.mem_singleton.mp hglob
      have hvalue : value? s.now (consume s.now s.store (clientKey (digest client))
          (settings.weight kind) settings.clientWindowMs).2 globalKey =
            value? s.now s.store globalKey := by
        rw [value?, live_consume, if_neg hne.symm, value?]
      refine .inl ⟨hadmitted, .inr rfl, openWindow_consumed hsafe ?_ hglobal⟩
      rw [hstore, globalCounter, live_consume, if_pos rfl, hvalue, live_consume, if_neg hne.symm]

/-- **A counter of the limiter is a fixed-window counter**, by induction on the arrivals. -/
theorem admissions_counter (h : Safe settings digest s) {client : String} {c : Counter}
    (hc : c ∈ counters settings digest client) {arrivals : List Arrival}
    (htimes : (s.now :: arrivals.map (·.time)).Pairwise (· ≤ ·)) :
    FixedWindow.Admissions c.capacity c.windowMs (openWindow s.now s.store c.key) s.now
      (admissionsOn settings digest c.key s arrivals) := by
  induction arrivals generalizing s with
  | nil => exact .nil
  | cons r rest ih =>
    rw [List.map_cons, List.pairwise_cons] at htimes
    have hle : s.now ≤ r.time := htimes.1 _ (.head _)
    refine .of_wait hle ?_
    rw [← openWindow_later hle]
    have hlater : Safe settings digest { s with now := r.time } := h.wait hle
    have hrest := ih (hlater.admitRequest r.client r.kind) htimes.2
    rw [admissionsOn]
    rcases arrive_cases r.client r.kind hlater hc with
      ⟨hadmitted, hkey, ⟨hnone, hfit, hwindow⟩ | ⟨w, hsome, hfit, hopen, hwindow⟩⟩ | ⟨hother, hwindow⟩
    · rw [if_pos ⟨hadmitted, hkey⟩]
      dsimp only at hnone
      rw [hnone]
      refine .opened le_rfl (fun _ hw => nomatch hw) hfit ?_
      exact hwindow ▸ hrest
    · rw [if_pos ⟨hadmitted, hkey⟩]
      dsimp only at hsome
      rw [hsome]
      exact .counted le_rfl hopen hfit (hwindow ▸ hrest)
    · rw [if_neg hother]
      dsimp only at hwindow
      rw [← hwindow]
      exact hrest

/-- **Admitted weight over time.** From every reachable state, for every sequence of arrivals of any
clients at nondecreasing times, no interval admits more on the key of a client, or on the global key, than
the capacity for each window that can meet the interval; so a window's length admits twice the capacity at
most. -/
theorem admitted_within (h : Reachable settings digest s) {arrivals : List Arrival}
    (htimes : (s.now :: arrivals.map (·.time)).Pairwise (· ≤ ·)) (client : String) {c : Counter}
    (hc : c ∈ counters settings digest client) (first span : ℕ) :
    FixedWindow.total first (first + span) (admissionsOn settings digest c.key s arrivals) ≤
        c.capacity * ((span + c.windowMs) / (c.windowMs + 1) + 1) ∧
      (span ≤ c.windowMs → FixedWindow.total first (first + span)
        (admissionsOn settings digest c.key s arrivals) ≤ 2 * c.capacity) := by
  have hlaw := (admissions_counter h.safe hc htimes).total_le first span
  refine ⟨hlaw, fun hspan => hlaw.trans ?_⟩
  have hone : (span + c.windowMs) / (c.windowMs + 1) ≤ 1 := by
    rw [← Nat.lt_succ_iff, Nat.div_lt_iff_lt_mul (Nat.succ_pos _)]
    omega
  rw [Nat.mul_comm 2]
  exact Nat.mul_le_mul_left _ (Nat.succ_le_succ hone)

/-- Two requests in the last millisecond of a window and in the first one of the next. -/
def sampleArrivals : List Arrival :=
  [⟨5, "a", .adaptive⟩, ⟨60005, "a", .explicit⟩, ⟨60006, "a", .adaptive⟩]

theorem admitted_within_sample :
    FixedWindow.total 60005 (60005 + 1) (admissionsOn defaultSettings id
      (clientKey "a") ⟨0, fun _ => none, []⟩ sampleArrivals) ≤ 20 :=
  (admitted_within (.empty 0) (by decide) "a" (.head _) 60005 1).2 (by decide)

end RedisRateLimiter

end RouteLLM
