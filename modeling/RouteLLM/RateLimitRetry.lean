import RouteLLM.Deadline
import RouteLLM.Lib.Binary64
import RouteLLM.RateLimit

/-!
# Rejected admissions

What `RedisRateLimiter.admit` makes of the script's reply, and what a rejection promises. A rejection
leaves the store alone and names the counters that are full. A counter lives through the last
millisecond of its time to live, so that the promised wait is long enough unless it ends on exactly
that millisecond (`rejection_sound_iff`).
-/

namespace RouteLLM

open ExpiringStore

inductive RateLimitScope
  | client | global | both
  deriving DecidableEq

/-- What `admit` raises. `RateLimitExceededError` carries its wait and its scope. -/
inductive AdmissionError
  | inferenceDeadlineExceeded
  | rateLimitUnavailable
  | rateLimitExceeded (retryAfterSeconds : ℤ) (scope : RateLimitScope)
  deriving DecidableEq

/-- The arguments of `observability.rate_limit_rejection`. -/
structure RateLimitRejection where
  scope : RateLimitScope
  route : String
  deriving DecidableEq

/-- How the evaluation of the script ends; a timeout leaves the clock at a later reading. -/
inductive EvalOutcome
  | reply (result : List ℤ)
  | timedOut (later : ℚ)
  | redisError

namespace RedisRateLimiter

/-- `{1: "client", 2: "global", 3: "both"}.get`. -/
def scopeOf? : ℤ → Option RateLimitScope
  | 1 => some .client
  | 2 => some .global
  | 3 => some .both
  | _ => none

/-- The route of a kind of request. -/
def route : InferenceKind → String
  | .explicit => "/v1/inference"
  | .adaptive => "/v1/inference/adaptive"

/-- `max(1, math.ceil(retry_ms / 1000))`: the quotient is a float. -/
def retryAfter (retryMs : ℤ) : ℤ := max 1 ⌈Binary64.round (retryMs / 1000)⌉

/-- What `admit` makes of a reply. -/
def admitReply (kind : InferenceKind) :
    List ℤ → Except AdmissionError Unit × List RateLimitRejection
  | admitted :: retryMs :: rest =>
    if admitted = 1 then (.ok (), [])
    else if admitted ≠ 0 then (.error .rateLimitUnavailable, [])
    else match rest.head?.bind scopeOf? with
      | none => (.error .rateLimitUnavailable, [])
      | some scope => (.error (.rateLimitExceeded (retryAfter retryMs) scope), [⟨scope, route kind⟩])
  | _ => (.error .rateLimitUnavailable, [])

/-- `RedisRateLimiter.admit`, over the evaluation of the script under a timeout. -/
def admitRequest (settings : RateLimitSettings) (kind : InferenceKind)
    (deadline : RequestDeadline) (now : ℚ)
    (eval : ℚ → EvalOutcome) : Except AdmissionError Unit × List RateLimitRejection :=
  match deadline.constrainTimeout now settings.redisTimeoutSeconds with
  | none => (.error .inferenceDeadlineExceeded, [])
  | some timeout =>
    match eval timeout with
    | .reply result => admitReply kind result
    | .timedOut later =>
      (.error (if deadline.expired later then .inferenceDeadlineExceeded
        else .rateLimitUnavailable), [])
    | .redisError => (.error .rateLimitUnavailable, [])

/-! ## The counters of a request -/

/-- A counter of a request, with its configured limits. -/
structure Counter where
  key : String
  capacity : ℕ
  windowMs : ℕ

/-- The counter has no room for the weight. -/
def Counter.Full (c : Counter) (now : ℕ) (store : Store String) (weight : ℕ) : Prop :=
  (value? now store c.key).getD 0 + weight > c.capacity

instance Counter.decidableFull (c : Counter) (now : ℕ) (store : Store String) (weight : ℕ) :
    Decidable (c.Full now store weight) :=
  inferInstanceAs (Decidable (_ > _))

variable (settings : RateLimitSettings) (digest : String → String)

def clientCounter (client : String) : Counter :=
  ⟨clientKey (digest client), settings.clientCapacity, settings.clientWindowMs⟩

def globalCounter : Counter :=
  ⟨globalKey, settings.globalCapacity, settings.globalWindowMs⟩

/-- The two counters of a request. -/
def counters (client : String) : List Counter :=
  [clientCounter settings digest client, globalCounter settings]

/-- The script for a request at a time. -/
def request (client : String) (kind : InferenceKind) (now : ℕ) (store : Store String) :
    List ℤ × Store String :=
  admitScript now store (clientKey (digest client)) globalKey (settings.weight kind)
    settings.clientCapacity settings.clientWindowMs settings.globalCapacity settings.globalWindowMs

/-- The script admits the request. -/
def Admitted (client : String) (kind : InferenceKind) (now : ℕ) (store : Store String) : Prop :=
  (request settings digest client kind now store).1.head? = some 1

instance decidableAdmitted (client : String) (kind : InferenceKind) (now : ℕ)
    (store : Store String) : Decidable (Admitted settings digest client kind now store) :=
  inferInstanceAs (Decidable (_ = _))

/-- The retry time of a full counter; any other has none. -/
def Counter.retry (c : Counter) (now : ℕ) (store : Store String) (weight : ℕ) : ℤ :=
  if c.Full now store weight then retryMs now store c.key c.windowMs else 0

variable {settings digest}

/-- The script admits a request whose counters both have room, and rejects any other: it then leaves
the store, and names the full counters and the longest of their retry times. -/
theorem request_cases (client : String) (kind : InferenceKind) (now : ℕ) (store : Store String) :
    let c := clientCounter settings digest client
    let g := globalCounter settings
    let weight := settings.weight kind
    (Admitted settings digest client kind now store ∧ ¬ c.Full now store weight ∧
        ¬ g.Full now store weight) ∨
      (¬ Admitted settings digest client kind now store ∧
        (c.Full now store weight ∨ g.Full now store weight) ∧
        request settings digest client kind now store =
          ([0, max (c.retry now store weight) (g.retry now store weight),
            if c.Full now store weight then (if g.Full now store weight then 3 else 1) else 2],
            store)) := by
  intro c g weight
  have hclient : ((value? now store (clientKey (digest client))).getD 0 + (settings.weight kind : ℤ) >
      settings.clientCapacity) = c.Full now store weight := rfl
  have hglobal : ((value? now store globalKey).getD 0 + (settings.weight kind : ℤ) >
      settings.globalCapacity) = g.Full now store weight := rfl
  have hretry (k : Counter) (h : k.Full now store weight) :
      k.retry now store weight = retryMs now store k.key k.windowMs := if_pos h
  have hnone (k : Counter) (h : ¬ k.Full now store weight) : k.retry now store weight = 0 := if_neg h
  unfold Admitted request admitScript
  simp only [hclient, hglobal, max_def_lt, gt_iff_lt]
  by_cases hc : c.Full now store weight
  · by_cases hg : g.Full now store weight
    · simp [hc, hg, hretry]
      rfl
    · simp [hc, hg, hretry, hnone]
      rfl
  · by_cases hg : g.Full now store weight
    · simp [hc, hg, hretry, hnone]
      rfl
    · simp [hc, hg]

/-! ## Waiting -/

section
variable {s : AdmissionState} {c : Counter} {weight : ℕ}

/-- A full counter of a safe state has a time to live within its window. -/
theorem pttl_of_full (h : CounterSafe s c.key c.capacity c.windowMs) (hfit : weight ≤ c.capacity)
    (hfull : c.Full s.now s.store weight) :
    0 ≤ pttl s.now s.store c.key ∧ pttl s.now s.store c.key ≤ c.windowMs := by
  cases hlive : live s.now s.store c.key with
  | none =>
    rw [Counter.Full, value?, hlive] at hfull
    simp only [Option.map_none, Option.getD_none] at hfull
    omega
  | some e =>
    obtain ⟨⟨t, ht, hle⟩, _⟩ := h.live_safe e hlive
    have hnow := (live_eq_some.mp hlive).2 t ht
    rw [pttl, hlive]
    simp only [ht]
    omega

/-- A counter is full later exactly if it is full now and has not expired by then. -/
theorem full_later_iff (h : CounterSafe s c.key c.capacity c.windowMs) (hfit : weight ≤ c.capacity)
    {later : ℕ} (hle : s.now ≤ later) :
    c.Full later s.store weight ↔
      c.Full s.now s.store weight ∧ (later : ℤ) ≤ s.now + pttl s.now s.store c.key := by
  rw [Counter.Full, Counter.Full, value?, value?]
  cases hlive : live s.now s.store c.key with
  | none =>
    rw [live_later_none hle hlive]
    simp only [Option.map_none, Option.getD_none]
    omega
  | some e =>
    obtain ⟨⟨t, ht, _⟩, _⟩ := h.live_safe e hlive
    have hpttl : pttl s.now s.store c.key = t - s.now := by
      rw [pttl, hlive]
      simp only [ht]
    rw [live_later hlive, hpttl, Entry.liveAt, ht]
    simp only [Option.all_some, decide_eq_true_eq]
    split
    · simp only [Option.map_some, Option.getD_some]
      omega
    · simp only [Option.map_none, Option.getD_none]
      omega

end

/-- The wait in seconds covers the retry time and is less than a second longer. Its quotient is
rounded to a float, which crosses no integer: the next one above is itself a float, and so is a value
between the one below and the quotient. -/
theorem retryAfter_bounds {retryMs : ℤ} (hpos : 1 ≤ retryMs) (hle : retryMs ≤ 86400 * 1000) :
    retryMs ≤ 1000 * retryAfter retryMs ∧ 1000 * retryAfter retryMs < retryMs + 1000 := by
  obtain ⟨n, hn⟩ : ∃ n : ℕ, (n : ℤ) = (retryMs - 1) / 1000 :=
    ⟨((retryMs - 1) / 1000).toNat, by omega⟩
  have hlow : (1000 * n + 1 : ℤ) ≤ retryMs := by omega
  have hhigh : retryMs ≤ 1000 * (n + 1 : ℤ) := by omega
  have hceil : ⌈Binary64.round (retryMs / 1000)⌉ = (n : ℤ) + 1 := by
    rw [Int.ceil_eq_iff]
    have hnext : Binary64.round (((n + 1 : ℕ) : ℚ)) = ((n + 1 : ℕ) : ℚ) :=
      Binary64.round_natCast ((show n + 1 ≤ 86400 by omega).trans_lt (by norm_num))
    have hbetween : Binary64.round (((n * 1024 + 1 : ℤ) : ℚ) * 2 ^ (-10 : ℤ)) =
        ((n * 1024 + 1 : ℤ) : ℚ) * 2 ^ (-10 : ℤ) := by
      refine Binary64.round_dyadic ?_ (by norm_num)
      rw [abs_of_nonneg (show (0 : ℤ) ≤ n * 1024 + 1 by omega)]
      exact (show (n : ℤ) * 1024 + 1 ≤ 86400 * 1024 by omega).trans_lt (by norm_num)
    have hlowq : (1000 * n + 1 : ℚ) ≤ retryMs := by exact_mod_cast hlow
    have hhighq : (retryMs : ℚ) ≤ 1000 * (n + 1) := by exact_mod_cast hhigh
    constructor
    · have hnonneg : (0 : ℚ) ≤ ((n * 1024 + 1 : ℤ) : ℚ) * 2 ^ (-10 : ℤ) := by
        push_cast
        positivity
      have hbelow : ((n * 1024 + 1 : ℤ) : ℚ) * 2 ^ (-10 : ℤ) ≤ retryMs / 1000 := by
        push_cast
        linarith
      have hround := Binary64.le_round hnonneg hbetween hbelow
      push_cast at hround ⊢
      linarith
    · refine (Binary64.round_le (by linarith) hnext ?_).trans_eq (by push_cast; rfl)
      push_cast
      linarith
  rw [retryAfter, hceil]
  omega

/-! ## What a rejection promises -/

variable (settings digest)

/-- The states that waiting and rejected executions reach. -/
inductive Unadmitted (s : AdmissionState) : AdmissionState → Prop
  | refl : Unadmitted s s
  | wait {t : AdmissionState} {time : ℕ} (h : Unadmitted s t) (hle : t.now ≤ time) :
      Unadmitted s { t with now := time }
  | rejected {t : AdmissionState} {time : ℕ} (h : Unadmitted s t) (hle : t.now ≤ time)
      {client : String} {kind : InferenceKind}
      (hrejected : ¬ Admitted settings digest client kind time t.store) :
      Unadmitted s (t.admitRequest settings digest time client kind)

/-- A sound rejection: the script leaves every counter and every time to live as it was; the scope
names the full counters; and the same request is admitted once the wait is over, if nothing was
admitted meanwhile. -/
structure SoundRejection (s : AdmissionState) (client : String) (kind : InferenceKind)
    (retryAfterSeconds : ℤ) (scope : RateLimitScope) : Prop where
  unchanged : ∀ key, live s.now (request settings digest client kind s.now s.store).2 key =
    live s.now s.store key
  client_iff : scope = .client ↔
    (clientCounter settings digest client).Full s.now s.store (settings.weight kind) ∧
      ¬ (globalCounter settings).Full s.now s.store (settings.weight kind)
  global_iff : scope = .global ↔
    ¬ (clientCounter settings digest client).Full s.now s.store (settings.weight kind) ∧
      (globalCounter settings).Full s.now s.store (settings.weight kind)
  both_iff : scope = .both ↔
    (clientCounter settings digest client).Full s.now s.store (settings.weight kind) ∧
      (globalCounter settings).Full s.now s.store (settings.weight kind)
  sufficient : ∀ t, Unadmitted settings digest
      (s.admitRequest settings digest s.now client kind) t →
    s.now + 1000 * retryAfterSeconds ≤ t.now → Admitted settings digest client kind t.now t.store

/-- A full counter lives for a positive whole number of seconds and at least as long as the other one,
if that is full, makes the client wait. -/
def LastsWholeSeconds (s : AdmissionState) (client : String) (kind : InferenceKind) : Prop :=
  ∃ c ∈ counters settings digest client, c.Full s.now s.store (settings.weight kind) ∧
    0 < pttl s.now s.store c.key ∧ 1000 ∣ pttl s.now s.store c.key ∧
    ∀ other ∈ counters settings digest client,
      other.retry s.now s.store (settings.weight kind) ≤ pttl s.now s.store c.key

variable {settings digest} {s : AdmissionState} {client : String} {kind : InferenceKind}

/-- Without an admission the store stays as it was. -/
theorem Unadmitted.store_eq {t : AdmissionState} (h : Unadmitted settings digest s t) :
    t.store = s.store ∧ s.now ≤ t.now := by
  induction h with
  | refl => exact ⟨rfl, le_rfl⟩
  | wait _ hle ih => exact ⟨ih.1, ih.2.trans hle⟩
  | @rejected t time _ hle client kind hrejected ih =>
    refine ⟨?_, ih.2.trans hle⟩
    rcases request_cases client kind time t.store with ⟨hadmitted, _⟩ | ⟨_, _, heq⟩
    · exact absurd hadmitted hrejected
    · exact (congrArg Prod.snd heq).trans ih.1

/-- Every weight fits an empty window. -/
theorem weight_le_capacity (settings : RateLimitSettings) (kind : InferenceKind) :
    settings.weight kind ≤ settings.clientCapacity ∧
      settings.weight kind ≤ settings.globalCapacity := by
  have hfits : settings.weight kind ≤ min settings.clientCapacity settings.globalCapacity := by
    cases kind with
    | explicit => exact settings.explicit_fits
    | adaptive => exact settings.adaptive_fits
  exact ⟨hfits.trans (min_le_left _ _), hfits.trans (min_le_right _ _)⟩

/-- An empty store is safe. -/
theorem safe_empty (now : ℕ) : Safe settings digest ⟨now, fun _ => none, []⟩ := by
  have hempty (key : String) (capacity windowMs : ℕ) :
      CounterSafe ⟨now, fun _ => none, []⟩ key capacity windowMs :=
    ⟨fun e he => (by simp [live] at he), by simp [windowTotals]⟩
  exact ⟨fun _ => hempty _ _ _, hempty _ _ _⟩

/-- The invariant of the system. -/
theorem Reachable.safe (h : Reachable settings digest s) : Safe settings digest s := by
  induction h with
  | empty now => exact safe_empty now
  | wait _ hle ih => exact ih.wait hle
  | admitRequest _ hle client kind ih => exact (ih.wait hle).admitRequest client kind

/-- A counter of a request is safe where its state is. -/
theorem Safe.counter (h : Safe settings digest s) {c : Counter}
    (hc : c ∈ counters settings digest client) : CounterSafe s c.key c.capacity c.windowMs := by
  rcases List.mem_cons.mp hc with rfl | hc
  · exact h.client client
  · rw [List.mem_singleton.mp hc]
    exact h.global

/-- In a reachable state every counter of a request is safe, has room for the weight when empty, and
a window of at most a day. -/
theorem counter_safe (h : Reachable settings digest s) {c : Counter}
    (hc : c ∈ counters settings digest client) (kind : InferenceKind) :
    CounterSafe s c.key c.capacity c.windowMs ∧ settings.weight kind ≤ c.capacity ∧
      0 < c.windowMs ∧ c.windowMs ≤ 86400 * 1000 := by
  have hfits := weight_le_capacity settings kind
  have hclient := settings.clientWindow_range
  have hglobal := settings.globalWindow_range
  refine ⟨h.safe.counter hc, ?_⟩
  rcases List.mem_cons.mp hc with rfl | hc
  · exact ⟨hfits.1, Nat.mul_pos hclient.1 (by decide), Nat.mul_le_mul_right 1000 hclient.2⟩
  · rw [List.mem_singleton.mp hc]
    exact ⟨hfits.2, Nat.mul_pos hglobal.1 (by decide), Nat.mul_le_mul_right 1000 hglobal.2⟩

/-- The retry time of a full counter: at least its time to live, and exactly that if it is positive. -/
theorem retry_of_full (h : Reachable settings digest s) {c : Counter}
    (hc : c ∈ counters settings digest client)
    (hfull : c.Full s.now s.store (settings.weight kind)) :
    1 ≤ c.retry s.now s.store (settings.weight kind) ∧
      c.retry s.now s.store (settings.weight kind) ≤ 86400 * 1000 ∧
      (0 < pttl s.now s.store c.key →
        c.retry s.now s.store (settings.weight kind) = pttl s.now s.store c.key) := by
  obtain ⟨hsafe, hfit, hpos, hday⟩ := counter_safe h hc kind
  have hpttl := pttl_of_full hsafe hfit hfull
  rw [Counter.retry, if_pos hfull, retryMs]
  split <;> omega

/-- A request that is not admitted finds a full counter. -/
theorem exists_full {now : ℕ} {store : Store String}
    (h : ¬ Admitted settings digest client kind now store) :
    ∃ c ∈ counters settings digest client, c.Full now store (settings.weight kind) := by
  rcases request_cases client kind now store with ⟨hadmitted, _⟩ | ⟨_, hfull | hfull, _⟩
  · exact absurd hadmitted h
  · exact ⟨_, .head _, hfull⟩
  · exact ⟨_, .tail _ (.head _), hfull⟩

/-- A request with a full counter is not admitted. -/
theorem not_admitted_of_full {now : ℕ} {store : Store String} {c : Counter}
    (hc : c ∈ counters settings digest client) (hfull : c.Full now store (settings.weight kind)) :
    ¬ Admitted settings digest client kind now store := by
  intro hadmitted
  rcases request_cases client kind now store with ⟨_, hclient, hglobal⟩ | ⟨hrejected, _⟩
  · rcases List.mem_cons.mp hc with rfl | hc
    · exact hclient hfull
    · rw [List.mem_singleton.mp hc] at hfull
      exact hglobal hfull
  · exact hrejected hadmitted

/-- The wait for the longest retry time is over when the last full counter has expired, except in its
last millisecond: that is the end of the wait where its time to live is a whole number of seconds. -/
theorem wait_sufficient_iff (h : Reachable settings digest s) {longest : ℤ}
    (hmem : ∃ c ∈ counters settings digest client, c.Full s.now s.store (settings.weight kind) ∧
      c.retry s.now s.store (settings.weight kind) = longest)
    (hmax : ∀ c ∈ counters settings digest client,
      c.retry s.now s.store (settings.weight kind) ≤ longest)
    {after : AdmissionState} (hstore : after.store = s.store) (hnow : after.now = s.now) :
    (∀ t, Unadmitted settings digest after t → s.now + 1000 * retryAfter longest ≤ t.now →
      Admitted settings digest client kind t.now t.store) ↔
      ¬ LastsWholeSeconds settings digest s client kind := by
  obtain ⟨c₀, hc₀, hfull₀, hlongest⟩ := hmem
  obtain ⟨hpos, hday, _⟩ := retry_of_full h hc₀ hfull₀
  rw [hlongest] at hpos hday
  obtain ⟨hcovers, hclose⟩ := retryAfter_bounds hpos hday
  constructor
  · rintro hsufficient ⟨c, hc, hfull, hlives, hwhole, hother⟩
    obtain ⟨hsafe, hfit, _⟩ := counter_safe h hc kind
    have hle := hother c₀ hc₀
    have hge := hmax c hc
    rw [(retry_of_full h hc hfull).2.2 hlives] at hge
    have hend : (s.now : ℤ) + 1000 * retryAfter longest = s.now + pttl s.now s.store c.key := by
      omega
    obtain ⟨later, hlater⟩ : ∃ later : ℕ, (later : ℤ) = s.now + pttl s.now s.store c.key :=
      ⟨(s.now + pttl s.now s.store c.key).toNat, by omega⟩
    have hwait : Unadmitted settings digest after { after with now := later } :=
      .wait .refl (by omega)
    have hover : (s.now : ℤ) + 1000 * retryAfter longest ≤ later := by omega
    have hadmitted := hsufficient { after with now := later } hwait hover
    dsimp only at hadmitted
    rw [hstore] at hadmitted
    have hlate := (full_later_iff hsafe hfit (by omega)).mpr ⟨hfull, hlater.le⟩
    exact not_admitted_of_full hc hlate hadmitted
  · intro hlasts t ht hover
    obtain ⟨hsame, _⟩ := ht.store_eq
    by_contra hrejected
    rw [hsame, hstore] at hrejected
    obtain ⟨c, hc, hfull⟩ := exists_full hrejected
    obtain ⟨hsafe, hfit, _⟩ := counter_safe h hc kind
    obtain ⟨hfull, hlives⟩ := (full_later_iff hsafe hfit (by omega)).mp hfull
    have hretry := (retry_of_full h hc hfull).2.2 (by omega)
    have hle := hmax c hc
    refine hlasts ⟨c, hc, hfull, by omega, by omega, fun other hmem => ?_⟩
    have hother := hmax other hmem
    omega

/-- The scope code of the script names exactly the full counters. -/
theorem scope_exact {client global : Prop} [Decidable client] [Decidable global]
    (h : client ∨ global) :
    ∃ scope, scopeOf? (if client then (if global then 3 else 1) else 2) = some scope ∧
      (scope = .client ↔ client ∧ ¬ global) ∧ (scope = .global ↔ ¬ client ∧ global) ∧
      (scope = .both ↔ client ∧ global) := by
  by_cases hc : client
  · by_cases hg : global
    · exact ⟨.both, by simp [hc, hg, scopeOf?]⟩
    · exact ⟨.client, by simp [hc, hg, scopeOf?]⟩
  · have hg := h.resolve_left hc
    exact ⟨.global, by simp [hc, hg, scopeOf?]⟩

/-- **Which rejections are sound.** `admit` turns the reply of every rejecting execution into a
`RateLimitExceededError`. In a reachable state the rejection is sound exactly unless a full counter
that decides the wait lives for a whole number of seconds. -/
theorem rejection_sound_iff (h : Reachable settings digest s)
    (hrejected : ¬ Admitted settings digest client kind s.now s.store) {deadline : RequestDeadline}
    {now : ℚ} (hopen : deadline.expired now = false) :
    ∃ retryAfterSeconds scope, admitRequest settings kind deadline now (fun _ =>
        .reply (request settings digest client kind s.now s.store).1) =
          (.error (.rateLimitExceeded retryAfterSeconds scope), [⟨scope, route kind⟩]) ∧
      (SoundRejection settings digest s client kind retryAfterSeconds scope ↔
        ¬ LastsWholeSeconds settings digest s client kind) := by
  obtain ⟨hadmitted, _⟩ | ⟨_, hfull, heq⟩ := request_cases client kind s.now s.store
  · exact absurd hadmitted hrejected
  obtain ⟨timeout, htimeout⟩ : ∃ timeout,
      deadline.constrainTimeout now settings.redisTimeoutSeconds = some timeout := by
    rw [RequestDeadline.constrainTimeout, if_neg (by simpa [RequestDeadline.expired] using hopen)]
    exact ⟨_, rfl⟩
  generalize hlongest : max
    ((clientCounter settings digest client).retry s.now s.store (settings.weight kind))
    ((globalCounter settings).retry s.now s.store (settings.weight kind)) = longest at heq
  have hmax : ∀ c ∈ counters settings digest client,
      c.retry s.now s.store (settings.weight kind) ≤ longest := by
    intro c hc
    rw [← hlongest]
    rcases List.mem_cons.mp hc with rfl | hc
    · exact le_max_left _ _
    · rw [List.mem_singleton.mp hc]
      exact le_max_right _ _
  have hmem : ∃ c ∈ counters settings digest client,
      c.Full s.now s.store (settings.weight kind) ∧
        c.retry s.now s.store (settings.weight kind) = longest := by
    obtain ⟨c₀, hc₀, hfull₀⟩ := exists_full hrejected
    have hpos := (retry_of_full h hc₀ hfull₀).1.trans (hmax c₀ hc₀)
    have hfull (c : Counter) (hc : c.retry s.now s.store (settings.weight kind) = longest) :
        c.Full s.now s.store (settings.weight kind) := by
      by_contra hroom
      rw [Counter.retry, if_neg hroom] at hc
      omega
    rcases max_choice ((clientCounter settings digest client).retry s.now s.store
      (settings.weight kind)) ((globalCounter settings).retry s.now s.store (settings.weight kind))
      with hchoice | hchoice
    · have heqLongest := hchoice.symm.trans hlongest
      exact ⟨_, .head _, hfull _ heqLongest, heqLongest⟩
    · have heqLongest := hchoice.symm.trans hlongest
      exact ⟨_, .tail _ (.head _), hfull _ heqLongest, heqLongest⟩
  have hstore : (s.admitRequest settings digest s.now client kind).store = s.store :=
    congrArg Prod.snd heq
  have hwait := wait_sufficient_iff h hmem hmax hstore rfl
  obtain ⟨scope, hcode, hclient, hglobal, hboth⟩ := scope_exact hfull
  refine ⟨retryAfter longest, scope, ?_, ?_, ?_⟩
  · rw [admitRequest, htimeout, heq]
    simp [admitReply, hcode]
  · exact fun hsound => hwait.mp hsound.sufficient
  · exact fun hlasts => ⟨fun key => by rw [heq], hclient, hglobal, hboth, hwait.mpr hlasts⟩

/-- Settings under which a client has one request in a window. -/
def singleSettings : RateLimitSettings :=
  { defaultSettings with
    clientCapacity := 1
    adaptiveWeight := 1
    clientCapacity_range := defaultSettings.explicitWeight_range
    adaptiveWeight_range := defaultSettings.explicitWeight_range
    explicit_fits := by decide
    adaptive_fits := by decide }

/-- The state after the one request of a client, `waited` milliseconds later. -/
def filledState (waited : ℕ) : AdmissionState :=
  { (AdmissionState.mk 0 (fun _ => none) []).admitRequest singleSettings id 0 "a" .explicit with
    now := waited }

theorem filledState_reachable (waited : ℕ) : Reachable singleSettings id (filledState waited) :=
  .wait (.admitRequest (.empty 0) le_rfl "a" .explicit) (Nat.zero_le waited)

/-- A rejection one millisecond after the window has begun is sound. -/
theorem rejection_sound_iff_sample : ∃ retryAfterSeconds scope,
    SoundRejection singleSettings id (filledState 1) "a" .explicit retryAfterSeconds scope := by
  have hopen : (RequestDeadline.start 60 0).expired 0 = false := by decide +kernel
  have hrejected : ¬ Admitted singleSettings id "a" .explicit (filledState 1).now
      (filledState 1).store := by decide +kernel
  obtain ⟨retryAfterSeconds, scope, _, hsound⟩ :=
    rejection_sound_iff (filledState_reachable 1) hrejected hopen
  refine ⟨retryAfterSeconds, scope, hsound.mpr ?_⟩
  unfold LastsWholeSeconds
  decide +kernel

/-- A rejection as the window begins promises 60 seconds, after which the counter is in its last
millisecond and rejects the request again. -/
theorem whole_seconds_rejected_again :
    ¬ Admitted singleSettings id "a" .explicit 0 (filledState 0).store ∧
      (request singleSettings id "a" .explicit 0 (filledState 0).store).1 = [0, 60000, 1] ∧
      retryAfter 60000 = 60 ∧
      ¬ SoundRejection singleSettings id (filledState 0) "a" .explicit 60 .client := by
  refine ⟨by decide +kernel, by decide +kernel, by decide +kernel, fun hsound => ?_⟩
  have hadmitted := hsound.sufficient _ (.wait .refl (Nat.zero_le 60000)) le_rfl
  exact absurd hadmitted (by decide +kernel)

end RedisRateLimiter

end RouteLLM
