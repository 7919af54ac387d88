import RecordSearch.Calendar.Instant
import RecordSearch.Numeric.BinaryFloat

/-!
# Delays

A delay is a whole number of nanoseconds, fewer than `2 ^ 64` seconds. It is scaled by way of seconds in
double format, which are then rounded to the nearest nanosecond.

## Main definitions

* `Delay` — a length of time to wait.
* `Delay.scale` — a delay times a factor, or why there is none.
-/

namespace RecordSearch

/-- A length of time to wait. -/
structure Delay where
  nanos : Nat
  /-- Seconds fit into 64 bits. -/
  bounded : nanos < UInt64.size * nanosPerSecond := by decide
  deriving DecidableEq, Repr

/-- Why seconds in double format are no delay. -/
inductive DelayError where
  | negative
  /-- Infinite, not a number, or beyond 64 bits. -/
  | outOfRange
  deriving DecidableEq, Repr

/-- The failure in words. -/
def DelayError.message : DelayError → String
  | negative => "cannot convert float seconds to Duration: value is negative"
  | outOfRange => "cannot convert float seconds to Duration: value is either too big or NaN"

namespace Delay

/-- No delay. -/
def zero : Delay := ⟨0, by decide⟩

instance : Inhabited Delay := ⟨zero⟩

/-- A number of nanoseconds, if it is not too great. -/
def ofNanos? (nanos : Nat) : Option Delay :=
  if h : nanos < UInt64.size * nanosPerSecond then some ⟨nanos, h⟩ else none

/-- Whole seconds. -/
def seconds (d : Delay) : Nat :=
  d.nanos / nanosPerSecond

/-- Nanoseconds beyond the whole seconds. -/
def subsecond (d : Delay) : Nat :=
  d.nanos % nanosPerSecond

/-- The smaller of two delays. -/
def cap (d limit : Delay) : Delay :=
  if d.nanos ≤ limit.nanos then d else limit

/-- The delay in seconds: whole seconds and the fraction are rounded, then their sum. -/
def toSeconds (d : Delay) : BinaryFloat :=
  BinaryFormat.double.add (BinaryFormat.double.ofInt d.seconds)
    (BinaryFormat.double.round false d.subsecond nanosPerSecond)

/-- The delay of a number of seconds, to the nearest nanosecond, a tie to the even one. -/
def ofSeconds : BinaryFloat → Except DelayError Delay
  | .nan => .error .outOfRange
  | .infinite negative => .error (if negative then .negative else .outOfRange)
  | .finite negative mantissa exponent =>
    if negative && mantissa != 0 then .error .negative
    else
      match ofNanos? (roundQuotient ((mantissa <<< exponent.toNat) * nanosPerSecond)
          (1 <<< (-exponent).toNat)) with
      | some d => .ok d
      | none => .error .outOfRange

/-- A delay times a factor. -/
def scale (d : Delay) (factor : BinaryFloat) : Except DelayError Delay :=
  ofSeconds (BinaryFormat.double.mul factor d.toSeconds)

theorem cap_le (d limit : Delay) : (d.cap limit).nanos ≤ limit.nanos := by
  unfold cap; split <;> omega

end Delay

end RecordSearch
