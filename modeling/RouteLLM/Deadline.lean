import Mathlib.Data.Rat.Defs
import Mathlib.Algebra.Order.Ring.Unbundled.Rat

/-!
# The request deadline

`RequestDeadline` of `request_deadline.py`: one end point against readings of a monotonic clock. A
method takes the reading it makes as an argument. Readings and timeouts are exact rationals: the code
subtracts and compares them.
-/

namespace RouteLLM

/-- One immutable end point. -/
structure RequestDeadline where
  expiresAt : ℚ

namespace RequestDeadline

/-- The constructor, at the clock reading `now`. -/
def start (totalSeconds : ℚ) (now : ℚ) : RequestDeadline := ⟨now + totalSeconds⟩

/-- `remaining_seconds`: the remaining time, or zero if expired. -/
def remainingSeconds (d : RequestDeadline) (now : ℚ) : ℚ := max 0 (d.expiresAt - now)

/-- `expired`. -/
def expired (d : RequestDeadline) (now : ℚ) : Bool := d.remainingSeconds now ≤ 0

/-- `constrain_timeout`: the smaller of the remaining time and the given timeout. -/
def constrainTimeout (d : RequestDeadline) (now maxTimeout : ℚ) : Option ℚ :=
  let remaining := d.remainingSeconds now
  if remaining ≤ 0 then none else some (min remaining maxTimeout)

/-- A deadline has expired from its end point on. -/
theorem expired_iff (d : RequestDeadline) (now : ℚ) : d.expired now ↔ d.expiresAt ≤ now := by
  simp [expired, remainingSeconds]

/-- An expired deadline stays expired. -/
theorem expired_mono {d : RequestDeadline} {now later : ℚ} (h : now ≤ later)
    (hx : d.expired now) : d.expired later :=
  (expired_iff d later).mpr (((expired_iff d now).mp hx).trans h)

end RequestDeadline

end RouteLLM
