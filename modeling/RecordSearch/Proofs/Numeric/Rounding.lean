import Mathlib.Algebra.Order.Field.Power
import Mathlib.Tactic.FieldSimp
import Mathlib.Tactic.Linarith
import Mathlib.Tactic.Positivity
import Mathlib.Tactic.Ring
import RecordSearch.Numeric.BinaryFloat

/-!
# What rounding loses

A binary number stands for a rational one. Where a quotient is rounded to a mantissa of full precision,
the result is off by at most half a unit in its last place, and a number of the format that is nearer
to the quotient than all others is what comes out.

## Main definitions

* `BinaryFloat.value` — the rational number that a binary number stands for.
* `BinaryFormat.IsNormal` — mantissas of full precision.
* `BinaryFormat.Rounds` — a normal number that a rational number is rounded to.
* `BinaryFormat.lastPlace`, `BinaryFormat.rounded` — the last place of a quotient that is kept, and the
  quotient in units of it, rounded.

## Main results

* `BinaryFormat.exists_rounds` — what a quotient is rounded to.
* `BinaryFormat.round_eq_of_near` — a number of the format that is near enough is the result.
* `BinaryFormat.exists_add_eq_round` — a sum is the exact one, rounded.
* `BinaryFormat.add_eq_left` — a term that is too small for the other is lost.
-/

namespace RecordSearch

theorem cast_shiftLeft (n k : ℕ) : ((n <<< k : ℕ) : ℚ) = n * 2 ^ k := by
  rw [Nat.shiftLeft_eq]
  push_cast
  rfl

/-- Shifting either part of a quotient divides it by a power of two. -/
theorem shiftLeft_div_shiftLeft (num den : ℕ) (e : ℤ) :
    ((num <<< (-e).toNat : ℕ) : ℚ) / ((den <<< e.toNat : ℕ) : ℚ) = num / den / 2 ^ e := by
  rw [cast_shiftLeft, cast_shiftLeft]
  cases e with
  | ofNat k => simp [div_div]
  | negSucc k => simp [zpow_negSucc, Int.neg_negSucc, div_mul_eq_mul_div]

theorem shiftLeft_div_one_shiftLeft (n : ℕ) (e : ℤ) :
    ((n <<< e.toNat : ℕ) : ℚ) / ((1 <<< (-e).toNat : ℕ) : ℚ) = n * 2 ^ e := by
  have hshift := shiftLeft_div_shiftLeft n 1 (-e)
  rwa [neg_neg, zpow_neg, Nat.cast_one, div_one, div_inv_eq_mul] at hshift

theorem abs_roundQuotient_sub_le (num : ℕ) {den : ℕ} (hden : 0 < den) :
    |(roundQuotient num den : ℚ) - num / den| ≤ 1 / 2 := by
  obtain ⟨hupper, hlower⟩ := roundQuotient_near num den hden
  have hpos : (0 : ℚ) < den := by exact_mod_cast hden
  have hupper' : 2 * ((roundQuotient num den : ℚ) * den) ≤ 2 * num + den := by exact_mod_cast hupper
  have hlower' : 2 * (num : ℚ) ≤ 2 * (roundQuotient num den * den) + den := by
    exact_mod_cast hlower
  have hscale : (roundQuotient num den : ℚ) - num / den = (roundQuotient num den * den - num) / den := by
    rw [sub_div, mul_div_cancel_right₀ _ hpos.ne']
  rw [hscale, abs_div, abs_of_pos hpos, div_le_iff₀ hpos, abs_le]
  constructor <;> linarith

/-- A number nearer than one half to a quotient is what the quotient is rounded to. -/
theorem roundQuotient_eq_of_near {num den k : ℕ} (hden : 0 < den)
    (h : |(num / den : ℚ) - k| < 1 / 2) : roundQuotient num den = k := by
  have hround := abs_roundQuotient_sub_le num hden
  have hclose : |(((roundQuotient num den : ℤ) - k : ℤ) : ℚ)| < 1 := by
    push_cast
    rw [abs_le] at hround
    rw [abs_lt] at h ⊢
    constructor <;> linarith
  have hzero : ((roundQuotient num den : ℤ) - k) = 0 := by
    rw [← Int.abs_lt_one_iff]
    exact_mod_cast hclose
  omega

theorem num_pos_of_div_pos {num den : ℕ} (hden : 0 < den) (h : (0 : ℚ) < num / den) : 0 < num := by
  have hden' : (0 : ℚ) < den := by exact_mod_cast hden
  rw [lt_div_iff₀ hden', zero_mul] at h
  exact_mod_cast h

/-! ## Powers of two around a quotient -/

theorem two_zpow_lt_iff {i j : ℤ} : (2 : ℚ) ^ i < 2 ^ j ↔ i < j :=
  zpow_lt_zpow_iff_right₀ (by norm_num)

theorem two_zpow_le_iff {i j : ℤ} : (2 : ℚ) ^ i ≤ 2 ^ j ↔ i ≤ j :=
  zpow_le_zpow_iff_right₀ (by norm_num)

theorem two_zpow_add_one (i : ℤ) : (2 : ℚ) ^ (i + 1) = 2 * 2 ^ i := by
  rw [zpow_add_one₀ (by norm_num), mul_comm]

theorem two_zpow_eq_two_mul (i : ℤ) : (2 : ℚ) ^ i = 2 * 2 ^ (i - 1) := by
  rw [← two_zpow_add_one, sub_add_cancel]

theorem two_zpow_add_sub_one {p : ℕ} (hp : 0 < p) (e : ℤ) :
    (2 : ℚ) ^ (e + p - 1) = 2 ^ (p - 1) * 2 ^ e := by
  rw [← zpow_natCast, ← zpow_add₀ (by norm_num)]
  congr 1
  omega

theorem two_zpow_log2_le {n : ℕ} (h : 0 < n) : (2 : ℚ) ^ (n.log2 : ℤ) ≤ n := by
  exact_mod_cast Nat.log2_self_le h.ne'

theorem lt_two_zpow_log2 (n : ℕ) : (n : ℚ) < 2 ^ ((n.log2 : ℤ) + 1) := by
  exact_mod_cast Nat.lt_log2_self

/-- The quotient lies between the power of two that is found and the next. -/
theorem floorLog2_spec {num den : ℕ} (hnum : 0 < num) (hden : 0 < den) :
    (2 : ℚ) ^ floorLog2 num den ≤ num / den ∧ (num / den : ℚ) < 2 ^ (floorLog2 num den + 1) := by
  have hpos : (0 : ℚ) < den := by exact_mod_cast hden
  have hguess : ∀ g : ℤ, num <<< (-g).toNat < den <<< g.toNat ↔ (num / den : ℚ) < 2 ^ g := by
    intro g
    have hshift : (0 : ℚ) < ((den <<< g.toNat : ℕ) : ℚ) := by
      rw [cast_shiftLeft]
      positivity
    rw [← Nat.cast_lt (α := ℚ), ← div_lt_one hshift, shiftLeft_div_shiftLeft,
      div_lt_one (by positivity)]
  set g : ℤ := (num.log2 : ℤ) - den.log2 with hg
  -- The logarithms of numerator and denominator leave two powers to choose from.
  have hlow : (2 : ℚ) ^ (g - 1) < num / den := by
    rw [lt_div_iff₀ hpos]
    calc (2 : ℚ) ^ (g - 1) * den < 2 ^ (g - 1) * 2 ^ ((den.log2 : ℤ) + 1) :=
          mul_lt_mul_of_pos_left (lt_two_zpow_log2 den) (by positivity)
      _ = 2 ^ (num.log2 : ℤ) := by rw [← zpow_add₀ (by norm_num)]; congr 1; omega
      _ ≤ num := two_zpow_log2_le hnum
  have hhigh : (num / den : ℚ) < 2 ^ (g + 1) := by
    rw [div_lt_iff₀ hpos]
    calc (num : ℚ) < 2 ^ ((num.log2 : ℤ) + 1) := lt_two_zpow_log2 num
      _ = 2 ^ (g + 1) * 2 ^ (den.log2 : ℤ) := by rw [← zpow_add₀ (by norm_num)]; congr 1; omega
      _ ≤ 2 ^ (g + 1) * den :=
          mul_le_mul_of_nonneg_left (two_zpow_log2_le hden) (by positivity)
  have hfloor : floorLog2 num den = if (num / den : ℚ) < 2 ^ g then g - 1 else g := by
    unfold floorLog2
    simp only [← hg, hguess]
  rw [hfloor]
  split
  · next h => exact ⟨hlow.le, by rwa [sub_add_cancel]⟩
  · next h => exact ⟨not_lt.1 h, hhigh⟩

theorem floorLog2_eq_of_mem {num den : ℕ} {l : ℤ} (hnum : 0 < num) (hden : 0 < den)
    (hlow : (2 : ℚ) ^ l ≤ num / den) (hhigh : (num / den : ℚ) < 2 ^ (l + 1)) :
    floorLog2 num den = l := by
  obtain ⟨hle, hlt⟩ := floorLog2_spec hnum hden
  have hupper := two_zpow_lt_iff.1 (hle.trans_lt hhigh)
  have hlower := two_zpow_lt_iff.1 (hlow.trans_lt hlt)
  omega

/-- The factor that a sign stands for. -/
def signOf (negative : Bool) : ℤ :=
  if negative then -1 else 1

@[simp] theorem signOf_false : signOf false = 1 := rfl

@[simp] theorem signOf_true : signOf true = -1 := rfl

theorem signOf_mul_self (negative : Bool) : signOf negative * signOf negative = 1 := by
  cases negative <;> rfl

theorem abs_signOf_mul (negative : Bool) (q : ℚ) : |signOf negative * q| = |q| := by
  rw [abs_mul]
  cases negative <;> simp

theorem signOf_mul_abs {α : Type*} [Ring α] [LinearOrder α] [IsOrderedRing α] (q : α) :
    signOf (q < 0) * |q| = q := by
  by_cases h : q < 0
  · simp [signOf, h, abs_of_neg h]
  · simp [signOf, h, abs_of_nonneg (not_lt.1 h)]

namespace BinaryFloat

/-- The rational number that a binary number stands for; what is not finite stands for zero. -/
def value : BinaryFloat → ℚ
  | finite negative mantissa exponent => signOf negative * (mantissa * 2 ^ exponent)
  | _ => 0

theorem value_neg (x : BinaryFloat) : (-x).value = -x.value := by
  cases x with
  | finite negative mantissa exponent =>
    change (signOf !negative : ℚ) * _ = -(signOf negative * _)
    cases negative <;> simp [signOf]
  | infinite negative => exact neg_zero.symm
  | nan => exact neg_zero.symm

/-- With the sign taken over, a number is as far off as its magnitude. -/
theorem abs_value_sub (q : ℚ) (mantissa : ℕ) (exponent : ℤ) :
    |(finite (q < 0) mantissa exponent).value - q| = |(mantissa * 2 ^ exponent : ℚ) - (|q|)| := by
  have hsplit : (finite (q < 0) mantissa exponent).value - q =
      signOf (q < 0) * ((mantissa * 2 ^ exponent : ℚ) - |q|) := by
    rw [mul_sub, signOf_mul_abs]
    rfl
  rw [hsplit, abs_signOf_mul]

/-- Aligning a number to a smaller exponent does not change what it stands for. -/
theorem cast_aligned (negative : Bool) (mantissa : ℕ) {exponent target : ℤ}
    (h : target ≤ exponent) :
    (aligned negative mantissa exponent target : ℚ) * 2 ^ target =
      (finite negative mantissa exponent).value := by
  obtain ⟨k, hk⟩ : ∃ k : ℕ, exponent - target = k := ⟨(exponent - target).toNat, by omega⟩
  have hexponent : exponent = target + k := by omega
  have hpow : (2 : ℚ) ^ exponent = 2 ^ target * 2 ^ k := by
    rw [hexponent, zpow_add₀ (by norm_num), zpow_natCast]
  simp only [aligned, value, signOf]
  rw [hk, Int.toNat_natCast, hpow]
  push_cast [Nat.shiftLeft_eq]
  split <;> ring

end BinaryFloat

namespace BinaryFormat

variable {f : BinaryFormat} {negative : Bool} {num den m : ℕ} {e : ℤ} {q : ℚ}

/-- A mantissa of full precision and an exponent of the format. -/
structure IsNormal (f : BinaryFormat) (m : ℕ) (e : ℤ) : Prop where
  le_mantissa : 2 ^ (f.precision - 1) ≤ m
  mantissa_lt : m < 2 ^ f.precision
  le_exponent : f.minExponent ≤ e
  exponent_le : e ≤ f.maxExponent

theorem IsNormal.mantissa_pos (h : f.IsNormal m e) : 0 < m :=
  (Nat.two_pow_pos _).trans_le h.le_mantissa

theorem IsNormal.two_zpow_le (hp : 0 < f.precision) (h : f.IsNormal m e) :
    (2 : ℚ) ^ (e + f.precision - 1) ≤ m * 2 ^ e := by
  have hm : (2 : ℚ) ^ (f.precision - 1) ≤ m := by exact_mod_cast h.le_mantissa
  rw [two_zpow_add_sub_one hp]
  exact mul_le_mul_of_nonneg_right hm (by positivity)

/-- A positive number is rounded to a normal one: below a power of two it moves by at most half a unit
of the numbers there, and the exponent keeps to the size of the number. -/
structure Rounds (f : BinaryFormat) (q : ℚ) (m : ℕ) (e : ℤ) : Prop where
  isNormal : f.IsNormal m e
  near : ∀ k : ℤ, q < 2 ^ k → |(m * 2 ^ e : ℚ) - q| ≤ 2 ^ (k - f.precision - 1)
  exponent_le : ∀ k : ℤ, q < 2 ^ k → e ≤ k - f.precision + 1
  le_exponent : ∀ k : ℤ, (2 : ℚ) ^ k ≤ q → k - f.precision + 1 ≤ e

/-- The exponent of the last place that is kept of a quotient. -/
def lastPlace (f : BinaryFormat) (num den : ℕ) : ℤ :=
  max f.minExponent (floorLog2 num den - (f.precision - 1))

/-- A quotient in units of its last place, rounded. -/
def rounded (f : BinaryFormat) (num den : ℕ) : ℕ :=
  roundQuotient (num <<< (-f.lastPlace num den).toNat) (den <<< (f.lastPlace num den).toNat)

theorem round_eq_pack (hnum : 0 < num) :
    f.round negative num den = f.pack negative (f.rounded num den) (f.lastPlace num den) :=
  if_neg hnum.ne'

/-- Above the numbers that are too small to have a full mantissa, the exponent is that of the leading
bit. -/
theorem lastPlace_eq (hmin : f.minExponent ≤ floorLog2 num den - (f.precision - 1)) :
    f.lastPlace num den = floorLog2 num den - (f.precision - 1) :=
  max_eq_right hmin

theorem pack_of_lt (hm : m < 2 ^ f.precision) (he : e ≤ f.maxExponent) :
    f.pack negative m e = .finite negative m e := by
  unfold pack
  rw [Nat.one_shiftLeft, if_pos hm, if_pos he]

/-- A mantissa that has grown by one bit loses it to the exponent. -/
theorem pack_of_eq (hp : 0 < f.precision) (he : e + 1 ≤ f.maxExponent) :
    f.pack negative (2 ^ f.precision) e = .finite negative (2 ^ (f.precision - 1)) (e + 1) := by
  unfold pack
  rw [Nat.one_shiftLeft, if_neg (lt_irrefl _), if_pos he]
  congr 1
  exact Nat.pow_div hp (by norm_num)

/-- Packing a mantissa between the two powers keeps the number. -/
theorem exists_pack_eq (negative : Bool) (hp : 0 < f.precision) (hlow : 2 ^ (f.precision - 1) ≤ m)
    (hhigh : m ≤ 2 ^ f.precision) (hmin : f.minExponent ≤ e) (hmax : e + 1 ≤ f.maxExponent) :
    ∃ m' e', f.pack negative m e = .finite negative m' e' ∧ f.IsNormal m' e' ∧
      (m' * 2 ^ e' : ℚ) = m * 2 ^ e ∧ e ≤ e' ∧ e' ≤ e + 1 := by
  rcases hhigh.lt_or_eq with hlt | rfl
  · exact ⟨m, e, pack_of_lt hlt (by omega), ⟨hlow, hlt, hmin, by omega⟩, rfl, le_rfl, by omega⟩
  · have hpow : 2 ^ f.precision = 2 * 2 ^ (f.precision - 1) := by
      rw [← pow_succ', Nat.sub_add_cancel hp]
    refine ⟨2 ^ (f.precision - 1), e + 1, pack_of_eq hp hmax, ⟨le_rfl, ?_, by omega, hmax⟩, ?_,
      by omega, le_rfl⟩
    · rw [hpow]
      linarith [Nat.two_pow_pos (f.precision - 1)]
    · rw [two_zpow_add_one, hpow]
      push_cast
      ring

section Rounded

variable (f : BinaryFormat) (hnum : 0 < num) (hden : 0 < den)

theorem abs_rounded_sub_le (num : ℕ) {den : ℕ} (hden : 0 < den) :
    |(f.rounded num den : ℚ) - num / den / 2 ^ f.lastPlace num den| ≤ 1 / 2 := by
  rw [← shiftLeft_div_shiftLeft]
  exact abs_roundQuotient_sub_le _ (by rw [Nat.shiftLeft_eq]; positivity)

include hnum hden

/-- The quotient in units of the last place lies beneath the power that bounds mantissas. -/
theorem scaled_lt_two_pow : (num / den / 2 ^ f.lastPlace num den : ℚ) < 2 ^ f.precision := by
  have hlt := (floorLog2_spec hnum hden).2
  rw [div_lt_iff₀ (by positivity), ← zpow_natCast, ← zpow_add₀ (by norm_num)]
  refine hlt.trans_le (two_zpow_le_iff.2 ?_)
  unfold lastPlace
  omega

/-- A mantissa grows by one bit at most. -/
theorem rounded_le : f.rounded num den ≤ 2 ^ f.precision := by
  have hnear := (abs_le.1 (f.abs_rounded_sub_le num hden)).2
  have hlt := f.scaled_lt_two_pow hnum hden
  have hrounded : (f.rounded num den : ℚ) < 2 ^ f.precision + 1 := by linarith
  exact Nat.lt_succ_iff.1 (by exact_mod_cast hrounded)

/-- A mantissa is of full precision unless the quotient is too small for it. -/
theorem two_pow_le_rounded (hp : 0 < f.precision)
    (hmin : f.minExponent ≤ floorLog2 num den - (f.precision - 1)) :
    2 ^ (f.precision - 1) ≤ f.rounded num den := by
  have hscaled : (2 : ℚ) ^ (f.precision - 1) ≤ num / den / 2 ^ f.lastPlace num den := by
    rw [le_div_iff₀ (by positivity), ← two_zpow_add_sub_one hp, lastPlace_eq hmin,
      show floorLog2 num den - (f.precision - 1) + f.precision - 1 = floorLog2 num den by omega]
    exact (floorLog2_spec hnum hden).1
  have hnear := (abs_le.1 (f.abs_rounded_sub_le num hden)).1
  have hrounded : (2 : ℚ) ^ (f.precision - 1) < f.rounded num den + 1 := by linarith
  exact Nat.lt_succ_iff.1 (by exact_mod_cast hrounded)

end Rounded

/-- What a quotient in the range of normal numbers is rounded to. -/
theorem exists_rounds (negative : Bool) (hp : 0 < f.precision) (hden : 0 < den)
    (hlow : (2 : ℚ) ^ (f.minExponent + f.precision - 1) ≤ num / den)
    (hhigh : (num / den : ℚ) < 2 ^ (f.maxExponent + f.precision - 1)) :
    ∃ m e, f.round negative num den = .finite negative m e ∧ f.Rounds (num / den) m e := by
  have hnum : 0 < num := num_pos_of_div_pos hden (hlow.trans_lt' (by positivity))
  obtain ⟨hle, hlt⟩ := floorLog2_spec hnum hden
  have hmin := two_zpow_lt_iff.1 (hlow.trans_lt hlt)
  have hmax := two_zpow_lt_iff.1 (hle.trans_lt hhigh)
  have hplace : f.lastPlace num den = _ := lastPlace_eq (by omega)
  -- Half a unit does not carry a mantissa over either power of two.
  obtain ⟨m, e, hpack, hnormal, hvalue, he, he'⟩ :=
    exists_pack_eq (f := f) (e := f.lastPlace num den) negative hp
      (f.two_pow_le_rounded hnum hden hp (by omega)) (f.rounded_le hnum hden) (by omega) (by omega)
  have herror : |(m * 2 ^ e : ℚ) - num / den| ≤ 2 ^ (f.lastPlace num den - 1) := by
    have hunit : (0 : ℚ) < 2 ^ f.lastPlace num den := by positivity
    have hhalf := two_zpow_eq_two_mul (f.lastPlace num den)
    have hscale : (m * 2 ^ e : ℚ) - num / den =
        (f.rounded num den - num / den / 2 ^ f.lastPlace num den) * 2 ^ f.lastPlace num den := by
      rw [hvalue, sub_mul, div_mul_cancel₀ _ hunit.ne']
    rw [hscale, abs_mul, abs_of_pos hunit]
    have := mul_le_mul_of_nonneg_right (f.abs_rounded_sub_le num hden) hunit.le
    linarith
  rw [round_eq_pack hnum]
  refine ⟨m, e, hpack, hnormal, ?_, ?_, ?_⟩
  · intro k hk
    have := two_zpow_lt_iff.1 (hle.trans_lt hk)
    exact herror.trans (two_zpow_le_iff.2 (by omega))
  · intro k hk
    have := two_zpow_lt_iff.1 (hle.trans_lt hk)
    omega
  · intro k hk
    have := two_zpow_lt_iff.1 (hk.trans_lt hlt)
    omega

/-- With its leading bit known, a quotient less than half a unit away from a mantissa is rounded to
it. -/
theorem round_eq_pack_of_near (hnum : 0 < num) (hden : 0 < den)
    (hlog : floorLog2 num den = e + f.precision - 1) (hmin : f.minExponent ≤ e)
    (hnear : |(num / den : ℚ) - m * 2 ^ e| < 2 ^ (e - 1)) :
    f.round negative num den = f.pack negative m e := by
  have hplace : f.lastPlace num den = e := (lastPlace_eq (by omega)).trans (by omega)
  have hm : f.rounded num den = m := by
    apply roundQuotient_eq_of_near (by rw [Nat.shiftLeft_eq]; positivity)
    have hhalf := two_zpow_eq_two_mul e
    have hpos : (0 : ℚ) < 2 ^ e := by positivity
    have hscale : (num / den / 2 ^ e - m : ℚ) = (num / den - m * 2 ^ e) / 2 ^ e := by
      rw [sub_div, mul_div_cancel_right₀ _ hpos.ne']
    rw [shiftLeft_div_shiftLeft, hplace, hscale, abs_div, abs_of_pos hpos, div_lt_iff₀ hpos]
    linarith
  rw [round_eq_pack hnum, hm, hplace]

theorem round_eq_of_above (hnum : 0 < num) (hden : 0 < den)
    (h : f.IsNormal m e) (hnear : |(num / den : ℚ) - m * 2 ^ e| < 2 ^ (e - 1))
    (habove : (2 : ℚ) ^ (e + f.precision - 1) ≤ num / den) :
    f.round negative num den = .finite negative m e := by
  have hhalf := two_zpow_eq_two_mul e
  have hpos : (0 : ℚ) < 2 ^ (e - 1) := by positivity
  have hlog : floorLog2 num den = e + f.precision - 1 := by
    have hm : (m : ℚ) + 1 ≤ 2 ^ f.precision := by exact_mod_cast h.mantissa_lt
    have hfull : (2 : ℚ) ^ (e + f.precision - 1 + 1) = 2 ^ f.precision * 2 ^ e := by
      rw [sub_add_cancel, zpow_add₀ (by norm_num), zpow_natCast, mul_comm]
    have hunit : ((m : ℚ) + 1) * 2 ^ e ≤ 2 ^ f.precision * 2 ^ e :=
      mul_le_mul_of_nonneg_right hm (by positivity)
    refine floorLog2_eq_of_mem hnum hden habove ?_
    rw [hfull]
    linarith [abs_lt.1 hnear]
  rw [round_eq_pack_of_near hnum hden hlog h.le_exponent hnear]
  exact pack_of_lt h.mantissa_lt h.exponent_le

/-- Only the least mantissa has a quotient beneath it, which is rounded up to a mantissa of one bit more
there. -/
theorem round_eq_of_beneath (hp : 0 < f.precision) (hnum : 0 < num) (hden : 0 < den)
    (h : f.IsNormal m e) (hmin : f.minExponent < e)
    (hnear : |(num / den : ℚ) - m * 2 ^ e| < 2 ^ (e - 1))
    (hlow : (2 : ℚ) ^ (e + f.precision - 1) - 2 ^ (e - 2) < num / den)
    (hhigh : (num / den : ℚ) < 2 ^ (e + f.precision - 1)) :
    f.round negative num den = .finite negative m e := by
  have hhalf := two_zpow_eq_two_mul e
  have hleast := two_zpow_add_sub_one hp e
  have hpos : (0 : ℚ) < 2 ^ (e - 1) := by positivity
  have hm : m = 2 ^ (f.precision - 1) := by
    have hunits : (m : ℚ) * 2 ^ e < (2 ^ (f.precision - 1) + 1) * 2 ^ e := by
      linarith [abs_lt.1 hnear]
    have hlt : (m : ℚ) < ((2 ^ (f.precision - 1) : ℕ) : ℚ) + 1 := by
      push_cast
      exact lt_of_mul_lt_mul_right hunits (by positivity)
    exact h.le_mantissa.antisymm' (Nat.lt_succ_iff.1 (by exact_mod_cast hlt))
  have hdouble : (2 : ℚ) ^ (e + f.precision - 1) = 2 * 2 ^ (e - 1 + f.precision - 1) := by
    rw [← two_zpow_add_one]
    congr 1
    omega
  have hlog : floorLog2 num den = e - 1 + f.precision - 1 := by
    have hwide : (2 : ℚ) ^ (e - 2) ≤ 2 ^ (e - 1 + f.precision - 1) := two_zpow_le_iff.2 (by omega)
    refine floorLog2_eq_of_mem hnum hden (by linarith) ?_
    rwa [two_zpow_add_one, ← hdouble]
  have hfull : |(num / den : ℚ) - (2 ^ f.precision : ℕ) * 2 ^ (e - 1)| < 2 ^ (e - 1 - 1) := by
    have hcentre : ((2 ^ f.precision : ℕ) : ℚ) * 2 ^ (e - 1) = 2 ^ (e + f.precision - 1) := by
      rw [Nat.cast_pow, Nat.cast_ofNat, ← zpow_natCast, ← zpow_add₀ (by norm_num)]
      congr 1
      omega
    have hquarter : e - 1 - 1 = e - 2 := by omega
    rw [hcentre, abs_sub_comm, abs_of_pos (by linarith), hquarter]
    linarith
  have hmax : e - 1 + 1 ≤ f.maxExponent := by
    rw [sub_add_cancel]
    exact h.exponent_le
  rw [round_eq_pack_of_near hnum hden hlog (by omega) hfull, pack_of_eq hp hmax, hm, sub_add_cancel]

/-- A normal number less than half a unit away is the result. Beneath the least mantissa the numbers
lie twice as close, so that half as much is allowed there. -/
theorem round_eq_of_near (hp : 0 < f.precision) (hden : 0 < den) (h : f.IsNormal m e)
    (hmin : f.minExponent < e) (hnear : |(num / den : ℚ) - m * 2 ^ e| < 2 ^ (e - 1))
    (hbelow : (num / den : ℚ) < 2 ^ (e + f.precision - 1) →
      (2 : ℚ) ^ (e + f.precision - 1) - 2 ^ (e - 2) < num / den) :
    f.round negative num den = .finite negative m e := by
  have hnum : 0 < num := by
    have hone : (1 : ℚ) ≤ m := by exact_mod_cast h.mantissa_pos
    have hunit : (2 : ℚ) ^ e ≤ m * 2 ^ e := le_mul_of_one_le_left (by positivity) hone
    have hpos : (0 : ℚ) < 2 ^ (e - 1) := by positivity
    have hhalf := two_zpow_eq_two_mul e
    exact num_pos_of_div_pos hden (by linarith [abs_lt.1 hnear])
  rcases le_or_gt ((2 : ℚ) ^ (e + f.precision - 1)) (num / den) with habove | hbeneath
  · exact round_eq_of_above hnum hden h hnear habove
  · exact round_eq_of_beneath hp hnum hden h hmin hnear (hbelow hbeneath) hbeneath

/-- A sum that is not zero is the exact one, rounded. -/
theorem exists_add_eq_round (f : BinaryFormat) {n₁ n₂ : Bool} {m₁ m₂ : ℕ} {e₁ e₂ : ℤ}
    (hq : (BinaryFloat.finite n₁ m₁ e₁).value + (BinaryFloat.finite n₂ m₂ e₂).value = q)
    (hne : q ≠ 0) :
    ∃ num den : ℕ, 0 < den ∧ (num / den : ℚ) = |q| ∧
      f.add (.finite n₁ m₁ e₁) (.finite n₂ m₂ e₂) = f.round (q < 0) num den := by
  set e := min e₁ e₂ with he
  set sum := BinaryFloat.aligned n₁ m₁ e₁ e + BinaryFloat.aligned n₂ m₂ e₂ e with hsum
  have hvalue : (sum : ℚ) * 2 ^ e = q := by
    rw [← hq, hsum, ← BinaryFloat.cast_aligned _ _ (min_le_left e₁ e₂),
      ← BinaryFloat.cast_aligned _ _ (min_le_right e₁ e₂)]
    push_cast
    ring
  have hpos : (0 : ℚ) < 2 ^ e := by positivity
  have hzero : sum ≠ 0 := by
    rintro h
    apply hne
    rw [← hvalue, h]
    simp
  have hsign : sum < 0 ↔ q < 0 := by
    rw [← hvalue, ← Int.cast_lt_zero (R := ℚ), mul_neg_iff]
    simp [hpos, hpos.le.not_gt]
  refine ⟨sum.natAbs <<< e.toNat, 1 <<< (-e).toNat, by rw [Nat.shiftLeft_eq]; positivity, ?_, ?_⟩
  · rw [shiftLeft_div_one_shiftLeft, ← hvalue, abs_mul, abs_of_pos hpos, Nat.cast_natAbs,
      Int.cast_abs]
  · simp only [add, ← he, ← hsum, if_neg hzero, ofScaled, hsign]

/-- A term of less than half a unit is lost. Where the other term is a power of two, a term of the other
sign leads beneath it, where half as much is kept. -/
theorem add_eq_left (hp : 0 < f.precision) {n₁ n₂ : Bool} {m₂ : ℕ} {e₂ : ℤ} (h : f.IsNormal m e)
    (hmin : f.minExponent < e) (hsmall : (m₂ * 2 ^ e₂ : ℚ) < 2 ^ (e - 1))
    (hbeneath : n₁ ≠ n₂ → (m * 2 ^ e - m₂ * 2 ^ e₂ : ℚ) < 2 ^ (e + f.precision - 1) →
      (2 : ℚ) ^ (e + f.precision - 1) - 2 ^ (e - 2) < m * 2 ^ e - m₂ * 2 ^ e₂) :
    f.add (.finite n₁ m e) (.finite n₂ m₂ e₂) = .finite n₁ m e := by
  have hleast := h.two_zpow_le hp
  have hterm : (0 : ℚ) ≤ m₂ * 2 ^ e₂ := by positivity
  have hroom : (2 : ℚ) ^ (e - 1) ≤ 2 ^ (e + f.precision - 1) := two_zpow_le_iff.2 (by omega)
  have hpos : (0 : ℚ) < 2 ^ (e - 1) := by positivity
  -- The exact sum has the sign of the first term, and the second adds to its magnitude or takes from it.
  obtain ⟨x, hx, hxpos, hnear, hlow⟩ : ∃ x : ℚ,
      (BinaryFloat.finite n₁ m e).value + (BinaryFloat.finite n₂ m₂ e₂).value = signOf n₁ * x ∧
        0 < x ∧ |x - m * 2 ^ e| < 2 ^ (e - 1) ∧
        (x < 2 ^ (e + f.precision - 1) → (2 : ℚ) ^ (e + f.precision - 1) - 2 ^ (e - 2) < x) := by
    by_cases hsign : n₁ = n₂
    · refine ⟨m * 2 ^ e + m₂ * 2 ^ e₂, ?_, by linarith, ?_, fun hlt => by linarith⟩
      · rw [BinaryFloat.value, BinaryFloat.value, hsign, mul_add]
      · rwa [add_sub_cancel_left, abs_of_nonneg hterm]
    · refine ⟨m * 2 ^ e - m₂ * 2 ^ e₂, ?_, by linarith, ?_, hbeneath hsign⟩
      · have hopposite : signOf n₂ = -signOf n₁ := by
          cases n₁ <;> cases n₂ <;> first | rfl | contradiction
        rw [BinaryFloat.value, BinaryFloat.value, hopposite]
        push_cast
        ring
      · rwa [sub_sub_cancel_left, abs_neg, abs_of_nonneg hterm]
  have habs : |signOf n₁ * x| = x := by rw [abs_signOf_mul, abs_of_pos hxpos]
  have hsign : decide (signOf n₁ * x < 0) = n₁ := by
    cases n₁ <;> simp [hxpos, hxpos.le]
  have hne : signOf n₁ * x ≠ 0 := by
    rw [← abs_pos, habs]
    exact hxpos
  obtain ⟨num, den, hden, hquot, hadd⟩ := exists_add_eq_round f hx hne
  rw [habs] at hquot
  rw [hadd, hsign]
  exact round_eq_of_near hp hden h hmin (by rwa [hquot]) (by rwa [hquot])

end BinaryFormat

end RecordSearch
