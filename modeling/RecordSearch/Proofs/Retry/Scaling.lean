import RecordSearch.Proofs.Numeric.Threshold
import RecordSearch.Retry.Delay

/-!
# Delays that have a multiple

A multiple of a delay is rounded twice: the exact product to double format, and that to whole nanoseconds.
Only the first can lead out of the range of delays, `2 ^ 64` seconds. The greatest double beneath it is
`2 ^ 11` seconds short, so a product leaves the range just if it is no more than `2 ^ 10` seconds short.

## Main results

* `Delay.exists_toSeconds_eq` — a delay in seconds is a finite number.
* `Delay.exists_scale_eq` — a delay times a factor is the exact product, rounded and read as seconds.
* `Delay.exists_scale_eq_ok`, `Delay.scale_eq_error` — when there is a multiple, and when there is none.
-/

namespace RecordSearch

open BinaryFormat

/-! ## Products -/

theorem mul_two_zpow_eq_zero {m : ℕ} {e : ℤ} : (m * 2 ^ e : ℚ) = 0 ↔ m = 0 := by
  rw [mul_eq_zero, Nat.cast_eq_zero]
  exact or_iff_left (zpow_ne_zero e two_ne_zero)

namespace BinaryFloat

theorem value_finite_false (m : ℕ) (e : ℤ) : (finite false m e).value = m * 2 ^ e := by
  rw [value, signOf_false, Int.cast_one, one_mul]

/-- A number with a sign that is not negative is zero. -/
theorem eq_zero_of_value_nonneg {m : ℕ} {e : ℤ} (h : 0 ≤ (finite true m e).value) : m = 0 := by
  rw [value, signOf_true, Int.cast_neg, Int.cast_one, neg_one_mul, neg_nonneg] at h
  exact mul_two_zpow_eq_zero.1 (h.antisymm (by positivity))

end BinaryFloat

namespace BinaryFormat

/-- A scaled number is a quotient, rounded. -/
theorem exists_ofScaled_eq_round (f : BinaryFormat) (negative : Bool) (n : ℕ) (e : ℤ) :
    ∃ num den : ℕ, 0 < den ∧ (num / den : ℚ) = n * 2 ^ e ∧
      f.ofScaled negative n e = f.round negative num den :=
  ⟨n <<< e.toNat, 1 <<< (-e).toNat, by rw [Nat.shiftLeft_eq]; positivity,
    shiftLeft_div_one_shiftLeft n e, rfl⟩

/-- So is a sum of numbers that are not negative. -/
theorem exists_add_eq_round_of_nonneg (f : BinaryFormat) (m₁ m₂ : ℕ) (e₁ e₂ : ℤ) :
    ∃ num den : ℕ, 0 < den ∧ (num / den : ℚ) = m₁ * 2 ^ e₁ + m₂ * 2 ^ e₂ ∧
      f.add (.finite false m₁ e₁) (.finite false m₂ e₂) = f.round false num den := by
  have hvalue : (BinaryFloat.finite false m₁ e₁).value + (BinaryFloat.finite false m₂ e₂).value =
      m₁ * 2 ^ e₁ + m₂ * 2 ^ e₂ := by
    rw [BinaryFloat.value_finite_false, BinaryFloat.value_finite_false]
  have hterm₁ : (0 : ℚ) ≤ m₁ * 2 ^ e₁ := by positivity
  have hterm₂ : (0 : ℚ) ≤ m₂ * 2 ^ e₂ := by positivity
  rcases (add_nonneg hterm₁ hterm₂).eq_or_lt with hzero | hpos
  · obtain ⟨h₁, h₂⟩ := (add_eq_zero_iff_of_nonneg hterm₁ hterm₂).1 hzero.symm
    rw [mul_two_zpow_eq_zero] at h₁ h₂
    refine ⟨0, 1, Nat.one_pos, by rw [← hzero, Nat.cast_zero, zero_div], ?_⟩
    simp [h₁, h₂, add, BinaryFloat.aligned, round]
  · obtain ⟨num, den, hden, hquot, hadd⟩ := exists_add_eq_round f hvalue hpos.ne'
    rw [abs_of_pos hpos] at hquot
    rw [decide_eq_false hpos.not_gt] at hadd
    exact ⟨num, den, hden, hquot, hadd⟩

/-- A quotient that is not too great has a double. -/
theorem exists_round_double_eq (negative : Bool) {num den k : ℕ} (hden : 0 < den) (hk : k < 1000)
    (h : (num / den : ℚ) < 2 ^ k) :
    ∃ m e, double.round negative num den = .finite negative m e ∧ (m * 2 ^ e : ℚ) < 2 ^ (k + 1) := by
  have hpower : (2 : ℚ) ^ (k + 1) = 2 ^ double.precision * 2 ^ (k - 52 : ℤ) := by
    rw [← zpow_natCast, ← zpow_natCast, ← zpow_add₀ (by norm_num)]
    congr 1
    simp only [double]
    omega
  have hunit : (0 : ℚ) < 2 ^ (k - 52 : ℤ) := by positivity
  have hone : (1 : ℚ) ≤ 2 ^ double.precision := one_le_pow₀ (by norm_num)
  have hhalf : (num / den : ℚ) < (2 ^ double.precision - 1 / 2) * 2 ^ (k - 52 : ℤ) := by
    have hle : (2 : ℚ) ^ (k - 52 : ℤ) ≤ 2 ^ double.precision * 2 ^ (k - 52 : ℤ) :=
      le_mul_of_one_le_left hunit.le hone
    rw [sub_mul, ← hpower, pow_succ]
    rw [← hpower, pow_succ] at hle
    linarith
  obtain ⟨m, e, hround, hle⟩ := exists_round_le negative (by decide) hden
    (by simp only [double]; omega) (by simp only [double]; omega) hhalf
  refine ⟨m, e, hround, hle.trans_lt ?_⟩
  rw [hpower]
  exact mul_lt_mul_of_pos_right (by linarith) hunit

end BinaryFormat

/-! ## Seconds -/

namespace Delay

theorem seconds_lt (d : Delay) : d.seconds < 2 ^ 64 :=
  Nat.div_lt_of_lt_mul (Nat.mul_comm _ _ ▸ d.bounded)

theorem subsecond_lt (d : Delay) : d.subsecond < nanosPerSecond :=
  Nat.mod_lt _ (by decide)

/-- A delay in seconds is a finite number. -/
theorem exists_toSeconds_eq (d : Delay) : ∃ m e, d.toSeconds = .finite false m e := by
  have hseconds : (d.seconds / (1 : ℕ) : ℚ) < 2 ^ 64 := by
    rw [Nat.cast_one, div_one]
    exact_mod_cast d.seconds_lt
  have hfraction : (d.subsecond / nanosPerSecond : ℚ) < 2 ^ 0 := by
    rw [pow_zero, div_lt_one (by exact_mod_cast (by decide : 0 < nanosPerSecond))]
    exact_mod_cast d.subsecond_lt
  obtain ⟨m₁, e₁, hround₁, hlt₁⟩ := exists_round_double_eq false Nat.one_pos (by decide) hseconds
  obtain ⟨m₂, e₂, hround₂, hlt₂⟩ :=
    exists_round_double_eq false (by decide : 0 < nanosPerSecond) (by decide) hfraction
  have hsum : d.toSeconds = double.add (.finite false m₁ e₁) (.finite false m₂ e₂) := by
    rw [toSeconds, hround₂, ← hround₁]
    rfl
  obtain ⟨num, den, hden, hquot, hadd⟩ := exists_add_eq_round_of_nonneg double m₁ m₂ e₁ e₂
  -- Neither part has grown to more than twice its bound, so the sum is far from the greatest double.
  have hlt : (num / den : ℚ) < 2 ^ 66 := by
    rw [hquot]
    norm_num at hlt₁ hlt₂ ⊢
    linarith
  obtain ⟨m, e, hround, -⟩ := exists_round_double_eq false hden (by decide) hlt
  exact ⟨m, e, hsum.trans (hadd.trans hround)⟩

section OfSeconds

variable {negative : Bool} {m : ℕ} {e : ℤ}

theorem cast_limit : ((UInt64.size * nanosPerSecond : ℕ) : ℚ) = 2 ^ 64 * nanosPerSecond := by
  rw [Nat.cast_mul]
  norm_num [UInt64.size]

/-- Seconds in nanoseconds, rounded. -/
def nanosOf (m : ℕ) (e : ℤ) : ℕ :=
  roundQuotient ((m <<< e.toNat) * nanosPerSecond) (1 <<< (-e).toNat)

theorem abs_nanosOf_sub_le (m : ℕ) (e : ℤ) :
    |(nanosOf m e : ℚ) - m * 2 ^ e * nanosPerSecond| ≤ 1 / 2 := by
  have hround := abs_roundQuotient_sub_le ((m <<< e.toNat) * nanosPerSecond)
    (by rw [Nat.shiftLeft_eq]; positivity : 0 < 1 <<< (-e).toNat)
  rwa [Nat.cast_mul, mul_div_right_comm, shiftLeft_div_one_shiftLeft] at hround

theorem ofSeconds_finite (hsign : negative = true → m = 0) :
    ofSeconds (.finite negative m e) =
      (ofNanos? (nanosOf m e)).elim (.error .outOfRange) .ok := by
  have hunsigned : (negative && m != 0) = false := by
    cases negative with
    | false => rfl
    | true => simp [hsign rfl]
  rw [ofSeconds, hunsigned, if_neg Bool.false_ne_true, nanosOf]
  cases ofNanos? _ <;> rfl

/-- Seconds that fit are a delay, even with the sign of a negative zero. -/
theorem exists_ofSeconds_eq (hsign : negative = true → m = 0) (h : (m * 2 ^ e : ℚ) ≤ 2 ^ 64 - 1) :
    ∃ d, ofSeconds (.finite negative m e) = .ok d := by
  have hfits : nanosOf m e < UInt64.size * nanosPerSecond := by
    have hnear := (abs_le.1 (abs_nanosOf_sub_le m e)).2
    have hone : (1 : ℚ) ≤ nanosPerSecond := by exact_mod_cast (by decide : 1 ≤ nanosPerSecond)
    have hscaled := mul_le_mul_of_nonneg_right h (zero_le_one.trans hone)
    have : (nanosOf m e : ℚ) < (UInt64.size * nanosPerSecond : ℕ) := by
      rw [cast_limit]
      linarith
    exact_mod_cast this
  refine ⟨⟨_, hfits⟩, ?_⟩
  rw [ofSeconds_finite hsign, ofNanos?, dif_pos hfits, Option.elim_some]

theorem ofSeconds_of_le (h : (2 : ℚ) ^ 64 ≤ m * 2 ^ e) :
    ofSeconds (.finite false m e) = .error .outOfRange := by
  have hbeyond : ¬ nanosOf m e < UInt64.size * nanosPerSecond := by
    intro hlt
    have hnear := (abs_le.1 (abs_nanosOf_sub_le m e)).1
    have hscaled := mul_le_mul_of_nonneg_right h (Nat.cast_nonneg (α := ℚ) nanosPerSecond)
    have : ((nanosOf m e + 1 : ℕ) : ℚ) ≤ (UInt64.size * nanosPerSecond : ℕ) := by
      exact_mod_cast hlt
    rw [cast_limit, Nat.cast_add, Nat.cast_one] at this
    linarith
  rw [ofSeconds_finite (by simp : false = true → m = 0), ofNanos?, dif_neg hbeyond,
    Option.elim_none]

end OfSeconds

/-! ## Multiples -/

section Scale

variable {factor : BinaryFloat} (hfinite : factor.isFinite = true) (hnonneg : 0 ≤ factor.value)

include hfinite hnonneg

/-- A multiple of a delay is the exact product, rounded and read as seconds. -/
theorem exists_scale_eq (d : Delay) :
    ∃ (negative : Bool) (num den : ℕ), 0 < den ∧
      (num / den : ℚ) = factor.value * d.toSeconds.value ∧ (negative = true → num = 0) ∧
      d.scale factor = ofSeconds (double.round negative num den) := by
  cases factor with
  | infinite | nan => contradiction
  | finite negative m e =>
    obtain ⟨m', e', hseconds⟩ := d.exists_toSeconds_eq
    obtain ⟨num, den, hden, hquot, hround⟩ :=
      exists_ofScaled_eq_round double negative (m * m') (e + e')
    have hzero : negative = true → m = 0 := by
      rintro rfl
      exact BinaryFloat.eq_zero_of_value_nonneg hnonneg
    have hvalue : (BinaryFloat.finite negative m e).value = m * 2 ^ e := by
      cases negative with
      | false => exact BinaryFloat.value_finite_false m e
      | true => rw [BinaryFloat.value, hzero rfl, Nat.cast_zero, zero_mul, mul_zero]
    have hvalue' : d.toSeconds.value = m' * 2 ^ e' := by
      rw [hseconds, BinaryFloat.value_finite_false]
    refine ⟨negative, num, den, hden, ?_, fun hnegative => ?_, ?_⟩
    · rw [hquot, hvalue, hvalue', zpow_add₀ (by norm_num), Nat.cast_mul]
      ring
    · rw [hzero hnegative, zero_mul, Nat.cast_zero, zero_mul, div_eq_zero_iff] at hquot
      exact_mod_cast hquot.resolve_right (by exact_mod_cast hden.ne')
    · rw [scale, hseconds, mul, Bool.bne_false, hround]

/-- There is a multiple of a delay if the product is more than half a unit beneath the range's end. -/
theorem exists_scale_eq_ok {d : Delay} (h : factor.value * d.toSeconds.value < 2 ^ 64 - 2 ^ 10) :
    ∃ d', d.scale factor = .ok d' := by
  obtain ⟨negative, num, den, hden, hquot, hsign, hscale⟩ := exists_scale_eq hfinite hnonneg d
  have hbeneath : (num / den : ℚ) < (2 ^ double.precision - 1 / 2) * 2 ^ (11 : ℤ) := by
    rw [hquot]
    refine h.trans_eq ?_
    norm_num [double]
  obtain ⟨m, e, hround, hle⟩ :=
    exists_round_le negative (by decide) hden (by decide) (by decide) hbeneath
  rw [hscale, hround]
  refine exists_ofSeconds_eq (fun hnegative => ?_) (hle.trans ?_)
  · rw [hsign hnegative] at hround
    exact ((BinaryFloat.finite.inj hround).2.1).symm
  · norm_num [double]

/-- Otherwise the product is out of range. -/
theorem scale_eq_error {d : Delay} (h : 2 ^ 64 - 2 ^ 10 ≤ factor.value * d.toSeconds.value) :
    d.scale factor = .error .outOfRange := by
  obtain ⟨negative, num, den, hden, hquot, hsign, hscale⟩ := exists_scale_eq hfinite hnonneg d
  have hreach : (2 ^ double.precision - 1 / 2) * (2 : ℚ) ^ (11 : ℤ) ≤ num / den := by
    rw [hquot]
    refine le_trans (le_of_eq ?_) h
    norm_num [double]
  have hpositive : negative = false := by
    cases negative with
    | false => rfl
    | true =>
      rw [hsign rfl] at hreach
      norm_num [double] at hreach
  rw [hscale, hpositive]
  rcases le_round false (by decide) hden (by decide) hreach with hround | ⟨m, e, hround, hle⟩
  · rw [hround]
    rfl
  · rw [hround]
    apply ofSeconds_of_le
    refine le_trans (le_of_eq ?_) hle
    norm_num [double]

end Scale

end Delay

end RecordSearch
