import RecordSearch.Proofs.Except
import RecordSearch.Proofs.Retry.Scaling
import RecordSearch.Retry.Backoff

/-!
# The delays of a schedule

A schedule's first delay is the initial one or the limit, whichever is less, and every other one is a multiple
of the one before or the limit. But a multiple is computed before it is compared with the limit, and for
each delay that is given out the one after it is computed too. So all delays of a schedule can be computed
just if no multiple of any of them leaves the range of delays.

## Main definitions

* `Backoff.capped` — the delays of a schedule, as far as they can be computed.
* `Backoff.Fits` — the multiple of a delay of the schedule stays in range.

## Main results

* `Backoff.delaysFrom_succ_eq_ok_iff` — how delays follow one another.
* `Backoff.delays_computed_iff` — a schedule can be computed, and keeps its limit, just if its delays fit.
-/

namespace RecordSearch

theorem Delay.nanos_cap (d limit : Delay) : (d.cap limit).nanos = min d.nanos limit.nanos := by
  unfold cap
  split <;> omega

namespace Backoff

variable {b : Backoff} {n k : ℕ} {d : Delay} {ds : List Delay}

/-- The delays from one on can be computed if the next can be, and those from there on. -/
theorem delaysFrom_succ_eq_ok_iff :
    b.delaysFrom (n + 1) d = .ok ds ↔
      ∃ following rest, b.next d = .ok following ∧ b.delaysFrom n following = .ok rest ∧
        d :: rest = ds := by
  simp only [delaysFrom, bind_eq_ok_iff, pure_eq_ok_iff, exists_and_left]

/-- The delays of a schedule, with the limit where one cannot be computed. -/
def capped (b : Backoff) : ℕ → Delay
  | 0 => b.first
  | n + 1 =>
    match b.next (b.capped n) with
    | .ok d => d
    | .error _ => b.limit

/-- The multiple of a delay of the schedule, before any rounding, stays more than half a unit beneath the end
of the range of delays. -/
def Fits (b : Backoff) (n : ℕ) : Prop :=
  b.factor.value * (b.capped n).toSeconds.value < 2 ^ 64 - 2 ^ 10

theorem capped_succ_of_ok (h : b.next (b.capped n) = .ok d) : b.capped (n + 1) = d := by
  rw [capped, h]

/-- What follows a delay is never more than the limit. -/
theorem le_of_next_eq_ok {d' : Delay} (h : b.next d = .ok d') : d'.nanos ≤ b.limit.nanos := by
  obtain ⟨multiple, -, rfl⟩ := map_eq_ok_iff.1 h
  exact Delay.cap_le _ _

theorem capped_le (b : Backoff) (n : ℕ) : (b.capped n).nanos ≤ b.limit.nanos := by
  cases n with
  | zero => exact Delay.cap_le _ _
  | succ n =>
    cases hnext : b.next (b.capped n) with
    | ok d =>
      rw [capped_succ_of_ok hnext]
      exact le_of_next_eq_ok hnext
    | error e => rw [capped, hnext]

section Fits

variable (hfinite : b.factor.isFinite = true) (hnonneg : 0 ≤ b.factor.value)

include hfinite hnonneg

theorem Fits.next_eq (h : b.Fits n) : b.next (b.capped n) = .ok (b.capped (n + 1)) := by
  obtain ⟨multiple, hscale⟩ := Delay.exists_scale_eq_ok hfinite hnonneg h
  have hnext : b.next (b.capped n) = .ok (multiple.cap b.limit) := by
    rw [next, hscale]
    rfl
  rw [hnext, capped_succ_of_ok hnext]

theorem next_eq_error (h : ¬ b.Fits n) : b.next (b.capped n) = .error .outOfRange := by
  rw [next, Delay.scale_eq_error hfinite hnonneg (not_lt.1 h)]
  rfl

/-- Delays that fit are given out. -/
theorem delaysFrom_of_fits (h : ∀ i, k ≤ i → i < k + n → b.Fits i) :
    b.delaysFrom n (b.capped k) = .ok ((List.range' k n).map b.capped) := by
  induction n generalizing k with
  | zero => rfl
  | succ n ih =>
    have hfirst : b.Fits k := h k le_rfl (by omega)
    have hrest : b.delaysFrom n (b.capped (k + 1)) = _ :=
      ih fun i hlow hhigh => h i (by omega) (by omega)
    exact delaysFrom_succ_eq_ok_iff.2 ⟨_, _, hfirst.next_eq hfinite hnonneg, hrest, rfl⟩

/-- One that does not ends them. -/
theorem delaysFrom_of_not_fits {i : ℕ} (hlow : k ≤ i) (hhigh : i < k + n) (h : ¬ b.Fits i) :
    b.delaysFrom n (b.capped k) = .error .outOfRange := by
  induction n generalizing k with
  | zero => omega
  | succ n ih =>
    rw [delaysFrom]
    by_cases hfirst : b.Fits k
    · -- The first is computed, but it is not given out unless those after it are.
      have hne : k ≠ i := fun heq => h (heq ▸ hfirst)
      rw [hfirst.next_eq hfinite hnonneg]
      change b.delaysFrom n (b.capped (k + 1)) >>= _ = _
      rw [ih (by omega) (by omega)]
      rfl
    · rw [next_eq_error hfinite hnonneg hfirst]
      rfl

end Fits

/-- All delays of a schedule can be computed, as many as there are attempts but one, the first of them the
initial one or the limit and none more than the limit, just if the multiple of each of them stays in range.
Otherwise there is an error. -/
theorem delays_computed_iff (b : Backoff) (hfinite : b.factor.isFinite = true)
    (hnonneg : 0 ≤ b.factor.value) :
    let gaps := max 1 b.maxAttempts - 1
    ((∃ ds, b.delays gaps = .ok ds ∧ ds.length = gaps ∧
        (∀ d ∈ ds.head?, d.nanos = min b.initial.nanos b.limit.nanos) ∧
        ∀ d ∈ ds, d.nanos ≤ b.limit.nanos) ↔ ∀ n < gaps, b.Fits n) ∧
      ((∃ n < gaps, ¬ b.Fits n) → b.delays gaps = .error .outOfRange) := by
  intro gaps
  have hgaps : b.delays gaps = b.delaysFrom gaps (b.capped 0) := by
    rw [delays, Backoff.gaps, Nat.max_comm, Nat.min_self]
    rfl
  have hfails : (∃ n < gaps, ¬ b.Fits n) → b.delays gaps = .error .outOfRange := by
    rintro ⟨n, hn, hunfit⟩
    rw [hgaps]
    exact delaysFrom_of_not_fits hfinite hnonneg n.zero_le (by omega) hunfit
  refine ⟨⟨fun ⟨ds, hds, _⟩ n hn => ?_, fun hfits => ?_⟩, hfails⟩
  · by_contra hunfit
    rw [hfails ⟨n, hn, hunfit⟩] at hds
    contradiction
  · have hds : b.delaysFrom gaps (b.capped 0) = _ :=
      delaysFrom_of_fits hfinite hnonneg fun i _ hi => hfits i (by omega)
    refine ⟨_, hgaps.trans hds, by simp, ?_, ?_⟩
    · cases gaps with
      | zero => nofun
      | succ n =>
        rintro d ⟨⟩
        exact Delay.nanos_cap _ _
    · simp only [List.mem_map, forall_exists_index, and_imp, forall_apply_eq_imp_iff₂]
      exact fun i _ => b.capped_le i

theorem delays_computed_iff_of_command :
    command.factor.isFinite = true ∧ 0 ≤ command.factor.value ∧
      command.delays 2 = .ok [⟨100000000, by decide⟩, ⟨200000000, by decide⟩] ∧
      ∀ n < 2, command.Fits n := by
  have hfactor : command.factor = .finite false (2 ^ 52) (-51) := by decide +kernel
  have hnonneg : 0 ≤ command.factor.value := by
    rw [hfactor, BinaryFloat.value_finite_false]
    positivity
  have hds : command.delays 2 = .ok [⟨100000000, by decide⟩, ⟨200000000, by decide⟩] := by
    decide +kernel
  have hiff := (delays_computed_iff command (by decide +kernel) hnonneg).1
  exact ⟨by decide +kernel, hnonneg, hds, hiff.1 ⟨_, hds, by decide, by decide, by decide⟩⟩

/-- The schedule for first connections, with a steep factor. -/
def steep : Backoff :=
  { startup with factor := BinaryFormat.double.ofInt 100000000000000000000 }

/-- A steep schedule fails at its first delay, before the limit takes effect. -/
theorem delays_steep :
    steep.factor.isFinite = true ∧ 0 ≤ steep.factor.value ∧
      steep.delays (max 1 steep.maxAttempts - 1) = .error .outOfRange := by
  have hfactor : steep.factor = .finite false 6103515625000000 14 := by decide +kernel
  refine ⟨by decide +kernel, ?_, by decide +kernel⟩
  rw [hfactor, BinaryFloat.value_finite_false]
  positivity

end Backoff

end RecordSearch
