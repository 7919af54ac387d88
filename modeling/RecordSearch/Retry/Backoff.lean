import RecordSearch.Retry.Delay

/-!
# Retrying with backoff

A failed operation is tried again after a delay, each delay a multiple of the one before up to a cap. A
delay is computed when the one before it is slept, so a delay that cannot be computed fails the run one
attempt early.

## Main definitions

* `Backoff` — the schedule.
* `Backoff.delays` — the first delays of the schedule.
* `Backoff.retryIf`, `Backoff.retry` — attempts of an operation under the schedule.
* `LinkFailure.isTransient` — whether a failure of the link to a server is worth another attempt.
-/

namespace RecordSearch

/-- A schedule of attempts. -/
structure Backoff where
  initial : Delay
  limit : Delay
  factor : BinaryFloat
  /-- Attempts in all; none counts as one. -/
  maxAttempts : Nat
  deriving DecidableEq, Repr

namespace Backoff

/-- Doubling. -/
def doubling : BinaryFloat := BinaryFormat.double.ofInt 2

/-- For first connections: five attempts in three seconds. -/
def startup : Backoff := ⟨⟨200000000, by decide⟩, ⟨2000000000, by decide⟩, doubling, 5⟩

/-- For single commands: three quick attempts. -/
def command : Backoff := ⟨⟨100000000, by decide⟩, ⟨1000000000, by decide⟩, doubling, 3⟩

/-- A single attempt. -/
def once : Backoff := ⟨.zero, .zero, BinaryFormat.double.ofInt 1, 1⟩

instance : Inhabited Backoff := ⟨command⟩

/-- How many delays the schedule has. -/
def gaps (b : Backoff) : Nat :=
  max b.maxAttempts 1 - 1

/-- The first delay. -/
def first (b : Backoff) : Delay :=
  b.initial.cap b.limit

/-- The delay after another one. -/
def next (b : Backoff) (d : Delay) : Except DelayError Delay :=
  (d.scale b.factor).map (·.cap b.limit)

/-- A number of delays from a given one on; each is given out with the next already computed. -/
def delaysFrom (b : Backoff) : Nat → Delay → Except DelayError (List Delay)
  | 0, _ => .ok []
  | n + 1, d => do
    let following ← b.next d
    return d :: (← b.delaysFrom n following)

/-- The delays of the schedule, up to a number of them. -/
def delays (b : Backoff) (count : Nat) : Except DelayError (List Delay) :=
  b.delaysFrom (min count b.gaps) b.first

/-- What came of trying an operation. -/
structure Trial (ε α : Type) where
  attempts : Nat
  /-- The delays between the attempts. -/
  slept : List Delay
  result : Except ε α

variable {ε α : Type}

/-- Try an operation from an attempt on, with a number of delays left and the next of them known. -/
def retryFrom (b : Backoff) (retryable : ε → Bool) (operation : Nat → Except ε α) :
    Nat → Nat → Delay → Except DelayError (Trial ε α)
  | left, attempt, d =>
    match operation attempt with
    | .ok v => .ok ⟨attempt, [], .ok v⟩
    | .error e =>
      if retryable e then
        match left with
        | 0 => .ok ⟨attempt, [], .error e⟩
        | left + 1 => do
          let following ← b.next d
          let t ← b.retryFrom retryable operation left (attempt + 1) following
          return ⟨t.attempts, d :: t.slept, t.result⟩
      else .ok ⟨attempt, [], .error e⟩

/-- Try an operation while its failures are retryable and delays are left. Attempts count from one. -/
def retryIf (b : Backoff) (retryable : ε → Bool) (operation : Nat → Except ε α) :
    Except DelayError (Trial ε α) :=
  b.retryFrom retryable operation b.gaps 1 b.first

/-- Try an operation, whatever its failures, while delays are left. -/
def retry (b : Backoff) (operation : Nat → Except ε α) : Except DelayError (Trial ε α) :=
  b.retryIf (fun _ => true) operation

/-- Nanoseconds slept in all. -/
def Trial.sleptNanos (t : Trial ε α) : Nat :=
  t.slept.foldl (fun total d => total + d.nanos) 0

end Backoff

/-- A failure of the link to a server. -/
inductive LinkFailure where
  /-- Input or output failed in a way the system names. -/
  | transport (kind : String)
  /-- A failure that the client names. -/
  | client (kind : String)
  deriving DecidableEq, Repr

/-- Whether another attempt may help: where input or output failed. -/
def LinkFailure.isTransient : LinkFailure → Bool
  | transport _ => true
  | client kind => kind = "IoError"

end RecordSearch
