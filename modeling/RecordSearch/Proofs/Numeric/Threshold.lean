import RecordSearch.Proofs.Numeric.Rounding

/-!
# Where rounding reaches a power of two

Beneath a power of two the numbers of a format end one unit in the last place short of it. What is less than
half a unit short is rounded up to it, and so is what is just half a unit short, since the last mantissa is
odd. What is further away stays beneath.

## Main results

* `BinaryFormat.exists_round_le` — a quotient further than half a unit beneath a power of two stays there.
* `BinaryFormat.le_round` — any greater one reaches the power, if it is not too great to be finite.
-/

namespace RecordSearch

/-- A half goes to the even neighbour. -/
theorem roundQuotient_of_tie {num den k : ℕ} (hden : 0 < den) (h : 2 * num = (2 * k + 1) * den) :
    roundQuotient num den = k + k % 2 := by
  obtain ⟨half, rfl⟩ : ∃ half, num = k * den + half :=
    Nat.exists_eq_add_of_le (by linarith)
  have hhalf : 2 * half = den := by linarith
  have hquotient : (k * den + half) / den = k := by
    rw [Nat.add_comm, Nat.add_mul_div_right _ _ hden, Nat.div_eq_of_lt (by omega), Nat.zero_add]
  have hrest : (k * den + half) % den = half := by
    rw [Nat.mul_add_mod', Nat.mod_eq_of_lt (by omega)]
  simp only [roundQuotient, hquotient, hrest, hhalf, lt_irrefl, if_false]

namespace BinaryFormat

variable {f : BinaryFormat} {num den m : ℕ} {e : ℤ}

section Rounded

variable (f) (hden : 0 < den)

include hden

theorem rounded_of_tie {j : ℕ} (h : (num / den / 2 ^ f.lastPlace num den : ℚ) = j + 1 / 2) :
    f.rounded num den = j + j % 2 := by
  have hpos : 0 < den <<< (f.lastPlace num den).toNat := by
    rw [Nat.shiftLeft_eq]
    positivity
  apply roundQuotient_of_tie hpos
  rw [← shiftLeft_div_shiftLeft, div_eq_iff (by exact_mod_cast hpos.ne')] at h
  have hdouble : (2 : ℚ) * (num <<< (-f.lastPlace num den).toNat : ℕ) =
      (2 * j + 1) * (den <<< (f.lastPlace num den).toNat : ℕ) := by
    rw [h]
    ring
  exact_mod_cast hdouble

/-- A mantissa does not grow if the quotient is further than half a unit beneath the power that bounds it. -/
theorem rounded_lt_of_lt
    (hq : (num / den / 2 ^ f.lastPlace num den : ℚ) < 2 ^ f.precision - 1 / 2) :
    f.rounded num den < 2 ^ f.precision := by
  have hnear := (abs_le.1 (f.abs_rounded_sub_le num hden)).2
  have hrounded : (f.rounded num den : ℚ) < 2 ^ f.precision := by linarith
  exact_mod_cast hrounded

/-- Otherwise it does: from the greatest mantissa the quotient would be half a unit away, but that is odd. -/
theorem rounded_eq_of_le (hp : 0 < f.precision) (hnum : 0 < num)
    (hq : (2 ^ f.precision - 1 / 2 : ℚ) ≤ num / den / 2 ^ f.lastPlace num den) :
    f.rounded num den = 2 ^ f.precision := by
  obtain ⟨hlow, hhigh⟩ := abs_le.1 (f.abs_rounded_sub_le num hden)
  refine (f.rounded_le hnum hden).eq_of_not_lt fun hlt => ?_
  have hcast : (f.rounded num den : ℚ) = 2 ^ f.precision - 1 := by
    have hle : (f.rounded num den + 1 : ℚ) ≤ 2 ^ f.precision := by exact_mod_cast hlt
    linarith
  have hlast : f.rounded num den + 1 = 2 ^ f.precision := by
    have : (f.rounded num den + 1 : ℚ) = 2 ^ f.precision := by linarith
    exact_mod_cast this
  have hodd : f.rounded num den % 2 = 1 := by
    obtain ⟨p, hp⟩ := Nat.exists_eq_add_of_le' hp
    rw [hp, pow_succ] at hlast
    omega
  have htie : (num / den / 2 ^ f.lastPlace num den : ℚ) = f.rounded num den + 1 / 2 := by
    linarith
  have := f.rounded_of_tie hden htie
  omega

end Rounded

theorem two_pow_eq_two_mul {p : ℕ} (hp : 0 < p) : (2 : ℚ) ^ p = 2 * 2 ^ (p - 1) := by
  rw [← pow_succ', Nat.sub_add_cancel hp]

/-- Packing a mantissa that has grown by one bit at most keeps the number, unless the exponent is too
great. -/
theorem pack_cases (f : BinaryFormat) (negative : Bool) (hm : m ≤ 2 ^ f.precision)
    (hp : 0 < f.precision) :
    (∃ m' e', f.pack negative m e = .finite negative m' e' ∧ (m' * 2 ^ e' : ℚ) = m * 2 ^ e) ∨
      (f.pack negative m e = .infinite negative ∧ f.maxExponent ≤ e) := by
  rcases hm.lt_or_eq with hlt | rfl
  · rcases le_or_gt e f.maxExponent with he | he
    · exact .inl ⟨m, e, pack_of_lt hlt he, rfl⟩
    · refine .inr ⟨?_, he.le⟩
      rw [pack, Nat.one_shiftLeft, if_pos hlt, if_neg he.not_ge]
  · rcases le_or_gt (e + 1) f.maxExponent with he | he
    · refine .inl ⟨_, _, pack_of_eq hp he, ?_⟩
      push_cast
      rw [two_zpow_add_one, two_pow_eq_two_mul hp]
      ring
    · refine .inr ⟨?_, by omega⟩
      rw [pack, Nat.one_shiftLeft, if_neg (lt_irrefl _), if_neg he.not_ge]

/-- A quotient further than half a unit beneath a power of two is rounded to a number beneath it. -/
theorem exists_round_le (negative : Bool) (hp : 0 < f.precision) (hden : 0 < den)
    (hmin : f.minExponent ≤ e) (hmax : e ≤ f.maxExponent)
    (hq : (num / den : ℚ) < (2 ^ f.precision - 1 / 2) * 2 ^ e) :
    ∃ m' e', f.round negative num den = .finite negative m' e' ∧
      (m' * 2 ^ e' : ℚ) ≤ (2 ^ f.precision - 1) * 2 ^ e := by
  have hdouble := two_pow_eq_two_mul hp
  have hone : (1 : ℚ) ≤ 2 ^ (f.precision - 1) := one_le_pow₀ (by norm_num)
  have hunit : (0 : ℚ) < 2 ^ e := by positivity
  rcases num.eq_zero_or_pos with rfl | hnum
  · refine ⟨0, f.minExponent, if_pos rfl, ?_⟩
    rw [Nat.cast_zero, zero_mul]
    exact mul_nonneg (by linarith) hunit.le
  have hlog : floorLog2 num den < f.precision + e := by
    refine two_zpow_lt_iff.1 ((floorLog2_spec hnum hden).1.trans_lt (hq.trans ?_))
    rw [zpow_add₀ (by norm_num), zpow_natCast]
    exact mul_lt_mul_of_pos_right (by linarith) hunit
  have hplace : f.lastPlace num den ≤ e := max_le hmin (by omega)
  have hm := f.rounded_le hnum hden
  rw [round_eq_pack hnum]
  rcases hplace.lt_or_eq with hlt | heq
  · -- With a lower last place there is no room for more than half the power.
    obtain ⟨m', e', hpack, hvalue⟩ := (f.pack_cases negative hm hp).resolve_right
      (fun h => (h.2.trans_lt hlt).not_ge hmax)
    have hhalf : (2 : ℚ) ^ f.lastPlace num den ≤ 2 ^ (e - 1) := two_zpow_le_iff.2 (by omega)
    have hm' : (f.rounded num den : ℚ) ≤ 2 ^ f.precision := by exact_mod_cast hm
    refine ⟨m', e', hpack, ?_⟩
    calc (m' * 2 ^ e' : ℚ) = f.rounded num den * 2 ^ f.lastPlace num den := hvalue
      _ ≤ 2 ^ f.precision * 2 ^ (e - 1) := mul_le_mul hm' hhalf (by positivity) (by positivity)
      _ = 2 ^ (f.precision - 1) * 2 ^ e := by rw [hdouble, two_zpow_eq_two_mul e]; ring
      _ ≤ (2 ^ f.precision - 1) * 2 ^ e := mul_le_mul_of_nonneg_right (by linarith) hunit.le
  · have hx : (num / den / 2 ^ f.lastPlace num den : ℚ) < 2 ^ f.precision - 1 / 2 := by
      rwa [heq, div_lt_iff₀ hunit]
    have hlt := f.rounded_lt_of_lt hden hx
    have hlast : (f.rounded num den + 1 : ℚ) ≤ 2 ^ f.precision := by exact_mod_cast hlt
    rw [heq, pack_of_lt hlt hmax]
    exact ⟨_, _, rfl, mul_le_mul_of_nonneg_right (by linarith) hunit.le⟩

/-- Any greater quotient is rounded to a number that reaches the power, or is too great for any. -/
theorem le_round (negative : Bool) (hp : 0 < f.precision) (hden : 0 < den)
    (hmin : f.minExponent ≤ e) (hq : (2 ^ f.precision - 1 / 2) * (2 : ℚ) ^ e ≤ num / den) :
    f.round negative num den = .infinite negative ∨
      ∃ m' e', f.round negative num den = .finite negative m' e' ∧
        (2 : ℚ) ^ f.precision * 2 ^ e ≤ m' * 2 ^ e' := by
  have hdouble := two_pow_eq_two_mul hp
  have hone : (1 : ℚ) ≤ 2 ^ (f.precision - 1) := one_le_pow₀ (by norm_num)
  have hunit : (0 : ℚ) < 2 ^ e := by positivity
  have hnum : 0 < num :=
    num_pos_of_div_pos hden (hq.trans_lt' (mul_pos (by linarith) hunit))
  have hreach : (2 : ℚ) ^ f.precision * 2 ^ e ≤ f.rounded num den * 2 ^ f.lastPlace num den := by
    have hlog : e ≤ floorLog2 num den - (f.precision - 1) := by
      have hlt : (2 : ℚ) ^ (e + f.precision - 1) < 2 ^ (floorLog2 num den + 1) := by
        refine lt_of_le_of_lt ?_ (floorLog2_spec hnum hden).2
        rw [two_zpow_add_sub_one hp]
        exact (mul_le_mul_of_nonneg_right (by linarith) hunit.le).trans hq
      have := two_zpow_lt_iff.1 hlt
      omega
    have hplace : f.lastPlace num den = _ := lastPlace_eq (hmin.trans hlog)
    rcases (hlog.trans_eq hplace.symm).eq_or_lt with heq | hlt
    · have hx : (2 ^ f.precision - 1 / 2 : ℚ) ≤ num / den / 2 ^ f.lastPlace num den := by
        rwa [le_div_iff₀ (by positivity), ← heq]
      rw [f.rounded_eq_of_le hden hp hnum hx, ← heq]
      push_cast
      rfl
    · -- With a higher last place even the least mantissa is enough.
      have hleast : (2 : ℚ) ^ (f.precision - 1) ≤ f.rounded num den := by
        exact_mod_cast f.two_pow_le_rounded hnum hden hp (hmin.trans hlog)
      have hdouble' : (2 : ℚ) ^ (e + 1) ≤ 2 ^ f.lastPlace num den := two_zpow_le_iff.2 hlt
      calc (2 : ℚ) ^ f.precision * 2 ^ e = 2 ^ (f.precision - 1) * 2 ^ (e + 1) := by
            rw [hdouble, two_zpow_add_one]
            ring
        _ ≤ f.rounded num den * 2 ^ f.lastPlace num den :=
            mul_le_mul hleast hdouble' (by positivity) (by positivity)
  rw [round_eq_pack hnum]
  rcases f.pack_cases negative (f.rounded_le hnum hden) hp with ⟨m', e', hpack, hvalue⟩ | hpack
  · exact .inr ⟨m', e', hpack, hvalue ▸ hreach⟩
  · exact .inl hpack.1

end BinaryFormat

end RecordSearch
