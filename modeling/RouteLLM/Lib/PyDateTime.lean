import Mathlib.Algebra.Order.Ring.Int
import RouteLLM.Lib.PaddedDigits

/-!
# Python datetimes and their ISO texts

A `datetime` is its fields and, where it is aware, its offset from UTC; the zone that gave the offset
is not kept, and neither does its text keep it. `isoformat` writes a datetime and `fromIsoformat` reads
the calendar format with separators, to any precision of the clock. The basic and week formats, which
`datetime.fromisoformat` reads too, are left out.
-/

/-- The microseconds of a day. -/
def dayMicroseconds : ℕ := 86400000000

/-- An offset from UTC in microseconds. -/
structure UtcOffset where
  microseconds : ℤ
  lt_day : microseconds.natAbs < dayMicroseconds
  deriving DecidableEq

namespace PyDateTime

def isLeap (year : ℕ) : Bool := year % 4 = 0 && (year % 100 ≠ 0 || year % 400 = 0)

def daysInMonth (year month : ℕ) : ℕ :=
  if month = 2 then if isLeap year then 29 else 28
  else if month = 4 ∨ month = 6 ∨ month = 9 ∨ month = 11 then 30
  else 31

/-- A time of day. -/
structure Clock where
  hour : ℕ
  minute : ℕ
  second : ℕ
  microsecond : ℕ
  deriving DecidableEq

namespace Clock

/-- The ranges that `datetime` allows. -/
def Valid (clock : Clock) : Prop :=
  clock.hour < 24 ∧ clock.minute < 60 ∧ clock.second < 60 ∧ clock.microsecond < 1000000

instance Valid.decidable (clock : Clock) : Decidable clock.Valid := by
  unfold Valid
  infer_instance

/-- The microseconds since midnight. -/
def toMicroseconds (clock : Clock) : ℕ :=
  ((clock.hour * 60 + clock.minute) * 60 + clock.second) * 1000000 + clock.microsecond

/-- The time that many microseconds after midnight. -/
def ofMicroseconds (n : ℕ) : Clock :=
  ⟨n / 3600000000, n / 60000000 % 60, n / 1000000 % 60, n % 1000000⟩

theorem toMicroseconds_ofMicroseconds (n : ℕ) : (ofMicroseconds n).toMicroseconds = n := by
  simp only [ofMicroseconds, toMicroseconds]
  omega

theorem valid_ofMicroseconds {n : ℕ} (h : n < dayMicroseconds) : (ofMicroseconds n).Valid := by
  simp only [ofMicroseconds, Valid, dayMicroseconds] at h ⊢
  omega

end Clock

end PyDateTime

/-- A `datetime`. -/
structure PyDateTime where
  year : ℕ
  month : ℕ
  day : ℕ
  clock : PyDateTime.Clock
  offset : Option UtcOffset
  year_range : 1 ≤ year ∧ year ≤ 9999
  month_range : 1 ≤ month ∧ month ≤ 12
  day_range : 1 ≤ day ∧ day ≤ PyDateTime.daysInMonth year month
  clock_valid : clock.Valid
  deriving DecidableEq

namespace PyDateTime

/-- `toordinal()`: the days since the last one before year 1. -/
def toOrdinal (d : PyDateTime) : ℕ :=
  let before := d.year - 1
  before * 365 + before / 4 - before / 100 + before / 400 +
    ((List.range (d.month - 1)).map fun m => daysInMonth d.year (m + 1)).sum + d.day

/-- The instant in microseconds, by which aware datetimes are compared. -/
def instant (d : PyDateTime) : ℤ :=
  (d.toOrdinal * dayMicroseconds + d.clock.toMicroseconds : ℕ) -
    (d.offset.map (·.microseconds)).getD 0

/-- No instant is a day before year 1. -/
theorem neg_dayMicroseconds_lt_instant (d : PyDateTime) : -(dayMicroseconds : ℤ) < d.instant := by
  have hoffset : (d.offset.map (·.microseconds)).getD 0 < (dayMicroseconds : ℤ) := by
    cases d.offset with
    | none => decide
    | some offset =>
      have hlt := offset.lt_day
      rw [Option.map_some, Option.getD_some]
      omega
  rw [instant]
  omega

/-! ## Writing -/

/-- Seconds and their fraction, where they are not left out. -/
def secondsText (clock : Clock) : List Char :=
  ':' :: PaddedDigits.padded 10 2 clock.second ++
    if clock.microsecond = 0 then [] else '.' :: PaddedDigits.padded 10 6 clock.microsecond

/-- Hours and minutes. -/
def minutesText (clock : Clock) : List Char :=
  PaddedDigits.padded 10 2 clock.hour ++ ':' :: PaddedDigits.padded 10 2 clock.minute

/-- The text of an offset, which leaves out seconds that are zero. -/
def offsetText (offset : UtcOffset) : List Char :=
  let clock := Clock.ofMicroseconds offset.microseconds.natAbs
  (if offset.microseconds < 0 then '-' else '+') :: minutesText clock ++
    if clock.second = 0 ∧ clock.microsecond = 0 then [] else secondsText clock

/-- `isoformat()`. -/
def isoformat (d : PyDateTime) : List Char :=
  PaddedDigits.padded 10 4 d.year ++ '-' :: PaddedDigits.padded 10 2 d.month ++
    '-' :: PaddedDigits.padded 10 2 d.day ++ 'T' :: minutesText d.clock ++ secondsText d.clock ++
    (d.offset.map offsetText).getD []

/-! ## Reading -/

/-- A text after an expected character. -/
def expect? (c : Char) : List Char → Option (List Char)
  | [] => none
  | x :: cs => if x = c then some cs else none

/-- The microseconds of a fraction: its first six digits, and digits that are cut off. -/
def fraction? (cs : List Char) : Option ℕ :=
  if cs ≠ [] ∧ (PaddedDigits.value? 10 (cs.drop 6)).isSome then
    (PaddedDigits.value? 10 (cs.take 6)).map (· * 10 ^ (6 - cs.length))
  else none

/-- The seconds of a time, with their fraction. -/
def seconds? (cs : List Char) : Option (ℕ × ℕ) := do
  let (second, cs) ← PaddedDigits.read? 10 2 cs
  match cs with
  | [] => return (second, 0)
  | c :: cs => if c = '.' ∨ c = ',' then (fraction? cs).map (second, ·) else none

/-- A time of any precision. -/
def clock? (cs : List Char) : Option Clock := do
  let (hour, cs) ← PaddedDigits.read? 10 2 cs
  match cs with
  | [] => return ⟨hour, 0, 0, 0⟩
  | _ => do
    let (minute, cs) ← PaddedDigits.read? 10 2 (← expect? ':' cs)
    match cs with
    | [] => return ⟨hour, minute, 0, 0⟩
    | _ => do
      let (second, microsecond) ← seconds? (← expect? ':' cs)
      return ⟨hour, minute, second, microsecond⟩

/-- An offset of so many microseconds, where it is less than a day. -/
def offset? (microseconds : ℤ) : Option UtcOffset :=
  if h : microseconds.natAbs < dayMicroseconds then some ⟨microseconds, h⟩ else none

/-- The zone of a text: none, `Z`, or a signed time. -/
def zone? : List Char → Option (Option UtcOffset)
  | [] => some none
  | c :: cs =>
    if c = 'Z' then if cs = [] then (offset? 0).map some else none
    else do
      let clock ← clock? cs
      let offset ← offset? (if c = '-' then -clock.toMicroseconds else clock.toMicroseconds)
      return some offset

/-- A character that starts a zone. -/
def startsZone (c : Char) : Bool := c = '+' || c = '-' || c = 'Z'

/-- The `datetime` of these fields, where they are in their ranges. -/
def create? (year month day : ℕ) (clock : Clock) (offset : Option UtcOffset) : Option PyDateTime :=
  if h : (1 ≤ year ∧ year ≤ 9999) ∧ (1 ≤ month ∧ month ≤ 12) ∧
      (1 ≤ day ∧ day ≤ daysInMonth year month) ∧ clock.Valid then
    some ⟨year, month, day, clock, offset, h.1, h.2.1, h.2.2.1, h.2.2.2⟩
  else none

/-- `datetime.fromisoformat`: any character may stand between the date and the time. -/
def fromIsoformat (cs : List Char) : Option PyDateTime := do
  let (year, cs) ← PaddedDigits.read? 10 4 cs
  let (month, cs) ← PaddedDigits.read? 10 2 (← expect? '-' cs)
  let (day, cs) ← PaddedDigits.read? 10 2 (← expect? '-' cs)
  match cs with
  | [] => create? year month day ⟨0, 0, 0, 0⟩ none
  | _ :: cs => do
    let clock ← clock? (cs.takeWhile fun c => !startsZone c)
    let offset ← zone? (cs.dropWhile fun c => !startsZone c)
    create? year month day clock offset

/-! ## The round trip -/

theorem read?_two {n : ℕ} (h : n < 100) (cs : List Char) :
    PaddedDigits.read? 10 2 (PaddedDigits.padded 10 2 n ++ cs) = some (n, cs) :=
  PaddedDigits.read?_padded (by decide) (by decide) h cs

@[simp] theorem expect?_cons (c : Char) (cs : List Char) : expect? c (c :: cs) = some cs :=
  if_pos rfl

/-- Six digits are a fraction. -/
theorem fraction?_padded {n : ℕ} (h : n < 1000000) :
    fraction? (PaddedDigits.padded 10 6 n) = some n := by
  have hlen : (PaddedDigits.padded 10 6 n).length = 6 := PaddedDigits.length_padded 6 n
  have hne : PaddedDigits.padded 10 6 n ≠ [] := by
    rw [← List.length_pos_iff, hlen]
    decide
  have hdrop : (PaddedDigits.padded 10 6 n).drop 6 = [] := List.drop_eq_nil_of_le hlen.le
  have htake : (PaddedDigits.padded 10 6 n).take 6 = PaddedDigits.padded 10 6 n :=
    List.take_of_length_le hlen.le
  rw [fraction?, hdrop, htake, PaddedDigits.value?_padded (by decide) (by decide) h, hlen]
  simp [hne, PaddedDigits.value?]

/-- Seconds are read back with their fraction. -/
theorem seconds?_secondsText {clock : Clock} (h : clock.Valid) :
    (expect? ':' (secondsText clock)).bind seconds? = some (clock.second, clock.microsecond) := by
  obtain ⟨-, -, hsecond, hmicrosecond⟩ := h
  rw [secondsText]
  simp only [List.cons_append, expect?_cons, Option.bind_some]
  by_cases hzero : clock.microsecond = 0
  · rw [if_pos hzero, seconds?, read?_two (by omega), hzero]
    rfl
  · rw [if_neg hzero, seconds?, read?_two (by omega)]
    simp [fraction?_padded hmicrosecond]

/-- Hours and minutes are read back, with the seconds that may follow. -/
theorem clock?_minutesText {clock : Clock} (hhour : clock.hour < 24) (hminute : clock.minute < 60) :
    clock? (minutesText clock) = some ⟨clock.hour, clock.minute, 0, 0⟩ := by
  have hread := read?_two (show clock.minute < 100 by omega) []
  rw [List.append_nil] at hread
  rw [minutesText, clock?, read?_two (by omega)]
  simp [hread]

/-- A time is read back. -/
theorem clock?_append {clock : Clock} (h : clock.Valid) :
    clock? (minutesText clock ++ secondsText clock) = some clock := by
  have hseconds := seconds?_secondsText h
  obtain ⟨hhour, hminute, -, -⟩ := h
  obtain ⟨rest, hrest⟩ : ∃ rest, secondsText clock = ':' :: rest := ⟨_, rfl⟩
  rw [hrest, expect?_cons, Option.bind_some] at hseconds
  rw [hrest, minutesText, List.append_assoc, clock?, read?_two (by omega)]
  simp only [List.cons_append, Option.bind_eq_bind, Option.bind_some, expect?_cons]
  rw [read?_two (by omega)]
  simp [hseconds]

/-- The characters of a number. -/
def IsDigit (c : Char) : Prop := ∃ d < 10, c = Nat.digitChar d

theorem isDigit_of_mem_padded {width n : ℕ} {c : Char} (h : c ∈ PaddedDigits.padded 10 width n) :
    IsDigit c :=
  PaddedDigits.mem_padded (by decide) h

theorem mem_minutesText {clock : Clock} {c : Char} (h : c ∈ minutesText clock) :
    c = ':' ∨ IsDigit c := by
  rcases List.mem_append.mp h with h | h
  · exact .inr (isDigit_of_mem_padded h)
  · rcases List.mem_cons.mp h with h | h
    · exact .inl h
    · exact .inr (isDigit_of_mem_padded h)

theorem mem_secondsText {clock : Clock} {c : Char} (h : c ∈ secondsText clock) :
    c = ':' ∨ c = '.' ∨ IsDigit c := by
  rcases List.mem_append.mp h with h | h
  · rcases List.mem_cons.mp h with h | h
    · exact .inl h
    · exact .inr (.inr (isDigit_of_mem_padded h))
  · split at h
    · cases h
    · rcases List.mem_cons.mp h with h | h
      · exact .inr (.inl h)
      · exact .inr (.inr (isDigit_of_mem_padded h))

/-- The characters of a text of `isoformat`. -/
def IsIsoChar (c : Char) : Prop := c ∈ ['-', '+', ':', '.', 'T'] ∨ IsDigit c

theorem isIsoChar_time {clock : Clock} {c : Char}
    (h : c ∈ minutesText clock ∨ c ∈ secondsText clock) : IsIsoChar c := by
  rcases h with h | h
  · rcases mem_minutesText h with rfl | h
    · exact .inl (by decide)
    · exact .inr h
  · rcases mem_secondsText h with rfl | rfl | h
    · exact .inl (by decide)
    · exact .inl (by decide)
    · exact .inr h

theorem isIsoChar_offsetText {offset : UtcOffset} {c : Char} (h : c ∈ offsetText offset) :
    IsIsoChar c := by
  rcases List.mem_append.mp h with h | h
  · rcases List.mem_cons.mp h with h | h
    · split at h <;> exact .inl (by subst h; decide)
    · exact isIsoChar_time (.inl h)
  · split at h
    · cases h
    · exact isIsoChar_time (.inr h)

theorem isIsoChar_isoformat {d : PyDateTime} {c : Char} (h : c ∈ d.isoformat) : IsIsoChar c := by
  have hdash : IsIsoChar '-' := .inl (by decide)
  have hsep : IsIsoChar 'T' := .inl (by decide)
  simp only [isoformat, List.mem_append, List.mem_cons] at h
  rcases h with (((((h | h | h) | h | h) | h | h) | h) | h)
  · exact .inr (isDigit_of_mem_padded h)
  · exact h ▸ hdash
  · exact .inr (isDigit_of_mem_padded h)
  · exact h ▸ hdash
  · exact .inr (isDigit_of_mem_padded h)
  · exact h ▸ hsep
  · exact isIsoChar_time (.inl h)
  · exact isIsoChar_time (.inr h)
  · cases hoffset : d.offset with
    | none =>
      rw [hoffset] at h
      cases h
    | some offset =>
      rw [hoffset] at h
      exact isIsoChar_offsetText h

/-- The text of a datetime has at most 42 characters. -/
theorem length_isoformat_le (d : PyDateTime) : d.isoformat.length ≤ 42 := by
  have hseconds (clock : Clock) : (secondsText clock).length ≤ 10 := by
    rw [secondsText]
    split <;> simp
  have hminutes (clock : Clock) : (minutesText clock).length = 5 := by
    simp [minutesText]
  have hoffset : ((d.offset.map offsetText).getD []).length ≤ 16 := by
    cases d.offset with
    | none => simp
    | some offset =>
      have hle := hseconds (Clock.ofMicroseconds offset.microseconds.natAbs)
      simp only [Option.map_some, Option.getD_some, offsetText, List.cons_append, List.length_cons,
        List.length_append, hminutes]
      split
      · simp
      · omega
  have hclock := hseconds d.clock
  simp only [isoformat, List.length_append, List.length_cons, PaddedDigits.length_padded, hminutes]
  omega

/-- No character of a time starts a zone. -/
theorem startsZone_eq_false {clock : Clock} {c : Char}
    (h : c ∈ minutesText clock ++ secondsText clock) : startsZone c = false := by
  have hdigit : IsDigit c → startsZone c = false := by
    rintro ⟨d, hd, rfl⟩
    have hall : ∀ d < 10, startsZone (Nat.digitChar d) = false := by decide
    exact hall d hd
  rcases List.mem_append.mp h with h | h
  · rcases mem_minutesText h with rfl | h
    · rfl
    · exact hdigit h
  · rcases mem_secondsText h with rfl | rfl | h
    · rfl
    · rfl
    · exact hdigit h

/-- A time is read back that leaves out seconds that are zero. -/
theorem clock?_append_ite {clock : Clock} (h : clock.Valid) :
    clock? (minutesText clock ++ if clock.second = 0 ∧ clock.microsecond = 0 then []
      else secondsText clock) = some clock := by
  split
  · rename_i hzero
    rw [List.append_nil, clock?_minutesText h.1 h.2.1]
    obtain ⟨hour, minute, second, microsecond⟩ := clock
    obtain ⟨rfl, rfl⟩ := hzero
    rfl
  · exact clock?_append h

theorem offset?_microseconds (offset : UtcOffset) : offset? offset.microseconds = some offset :=
  dif_pos offset.lt_day

/-- An offset is read back. -/
theorem zone?_offsetText (offset : UtcOffset) :
    zone? (offsetText offset) = some (some offset) := by
  have hclock := clock?_append_ite (Clock.valid_ofMicroseconds offset.lt_day)
  have hback := Clock.toMicroseconds_ofMicroseconds offset.microseconds.natAbs
  rw [offsetText]
  split
  · rename_i hneg
    have hoffset : -((Clock.ofMicroseconds offset.microseconds.natAbs).toMicroseconds : ℤ) =
        offset.microseconds := by omega
    rw [List.cons_append, zone?, if_neg (by decide), hclock]
    simp [hoffset, offset?_microseconds]
  · rename_i hpos
    have hoffset : ((Clock.ofMicroseconds offset.microseconds.natAbs).toMicroseconds : ℤ) =
        offset.microseconds := by omega
    rw [List.cons_append, zone?, if_neg (by decide), hclock]
    simp [hoffset, offset?_microseconds]

/-- What is written of an optional offset is read back. -/
theorem zone?_offsetText_getD (offset : Option UtcOffset) :
    zone? ((offset.map offsetText).getD []) = some offset := by
  cases offset with
  | none => rfl
  | some offset => exact zone?_offsetText offset

/-- A zone starts where the time ends. -/
theorem startsZone_head? (offset : Option UtcOffset) :
    ∀ c ∈ ((offset.map offsetText).getD []).head?, startsZone c = true := by
  cases offset with
  | none => simp
  | some offset =>
    intro c hc
    simp only [Option.map_some, Option.getD_some, offsetText, List.cons_append, List.head?_cons,
      Option.mem_some_iff] at hc
    split at hc <;> (subst hc; rfl)

theorem takeWhile_startsZone {time zone : List Char} (htime : ∀ c ∈ time, startsZone c = false)
    (hzone : ∀ c ∈ zone.head?, startsZone c = true) :
    (time ++ zone).takeWhile (fun c => !startsZone c) = time ∧
      (time ++ zone).dropWhile (fun c => !startsZone c) = zone := by
  have hall : ∀ c ∈ time, (!startsZone c) = true := fun c hc => by rw [htime c hc]; rfl
  rw [List.takeWhile_append_of_pos hall, List.dropWhile_append_of_pos hall]
  cases zone with
  | nil => simp
  | cons c zone =>
    have hc := hzone c rfl
    simp [hc]

theorem create?_eq_some (d : PyDateTime) :
    create? d.year d.month d.day d.clock d.offset = some d :=
  dif_pos ⟨d.year_range, d.month_range, d.day_range, d.clock_valid⟩

theorem daysInMonth_le (year month : ℕ) : daysInMonth year month ≤ 31 := by
  unfold daysInMonth
  split_ifs <;> decide

/-- **The round trip**: a datetime is read back from its text. -/
theorem fromIsoformat_isoformat (d : PyDateTime) : fromIsoformat d.isoformat = some d := by
  have hyear := d.year_range
  have hmonth := d.month_range
  have hday := d.day_range
  have hdays := daysInMonth_le d.year d.month
  obtain ⟨htake, hdrop⟩ := takeWhile_startsZone
    (fun c (hc : c ∈ minutesText d.clock ++ secondsText d.clock) => startsZone_eq_false hc)
    (startsZone_head? d.offset)
  rw [isoformat, fromIsoformat]
  simp only [List.append_assoc, List.cons_append]
  rw [PaddedDigits.read?_padded (by decide) (by decide) (show d.year < 10 ^ 4 by omega)]
  simp only [Option.bind_eq_bind, Option.bind_some, expect?_cons]
  rw [read?_two (by omega)]
  simp only [Option.bind_some, expect?_cons]
  rw [read?_two (by omega)]
  simp only [Option.bind_some]
  rw [← List.append_assoc, htake, hdrop, clock?_append d.clock_valid, zone?_offsetText_getD]
  exact create?_eq_some d

end PyDateTime
