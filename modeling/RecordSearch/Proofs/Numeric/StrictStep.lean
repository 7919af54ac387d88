import RecordSearch.Clause.Scalar
import RecordSearch.Proofs.Numeric.Rounding

/-!
# Where a strict step is lost

A strict bound is an integer in double format, moved by a step a little above one thousandth. Numbers of
that format lie less than twice the step apart exactly up to `2 ^ 44`. Up to there the moved number lies
strictly between the integer and its neighbour; further out the step is rounded away and the number is
that of the integer again.

## Main definitions

* `stepTo` — the step of a strict bound in either direction.
* `KeepsStep` — the integers from which a step leads to another number.
* `exactBound` — a strict bound before rounding.

## Main results

* `exists_ofInt_eq` — the double nearest to an integer, which is exact below `2 ^ 53`.
* `exists_add_stepTo_eq` — a step that is kept ends before the next integer.
* `add_stepTo_eq_self` — a step that is lost leaves the number as it is.
-/

namespace RecordSearch

open BinaryFormat

/-- The step of a strict bound, upward or downward. -/
def stepTo (down : Bool) : BinaryFloat :=
  if down then -strictStep else strictStep

/-- The integers from which a step leads to another number. Counted in the direction of the step, they
begin at `-2 ^ 44` and end before `2 ^ 44`. -/
def KeepsStep (down : Bool) (v : ℤ) : Prop :=
  -2 ^ 44 ≤ signOf down * v ∧ signOf down * v < 2 ^ 44

instance (down : Bool) (v : ℤ) : Decidable (KeepsStep down v) :=
  inferInstanceAs (Decidable (_ ∧ _))

theorem strictStep_eq : strictStep = .finite false 4611686018427388 (-62) := by
  decide +kernel

/-- The step lies between half the distance of doubles below `2 ^ 44` and that of doubles above. -/
theorem strictStep_mem :
    1 / 1024 < strictStep.value ∧ strictStep.value < 1 / 512 := by
  rw [strictStep_eq]
  norm_num [BinaryFloat.value]

theorem exists_stepTo_eq (down : Bool) :
    ∃ m e, stepTo down = .finite down m e ∧ (m * 2 ^ e : ℚ) = strictStep.value := by
  refine ⟨4611686018427388, -62, ?_, ?_⟩
  · cases down <;> simp only [stepTo, strictStep_eq] <;> rfl
  · rw [strictStep_eq, BinaryFloat.value, signOf_false, Int.cast_one, one_mul]

theorem value_stepTo (down : Bool) :
    (stepTo down).value = signOf down * strictStep.value := by
  cases down
  · simp [stepTo, signOf]
  · simp [stepTo, signOf, BinaryFloat.value_neg]

/-! ## Integers in double format -/

theorem add_precision_sub_one (e : ℤ) : e + double.precision - 1 = e + 52 := by
  simp only [double]
  omega

theorem two_zpow_le_of_isNormal {m : ℕ} {e : ℤ} (h : double.IsNormal m e) :
    (2 : ℚ) ^ (e + 52) ≤ m * 2 ^ e := by
  have hle := h.two_zpow_le (by decide)
  rwa [add_precision_sub_one] at hle

/-- An integer of at most fifty-three bits has a mantissa of full precision. -/
theorem exists_isNormal_of_lt {n : ℕ} (hn : 0 < n) (h : n < 2 ^ 53) :
    ∃ m e, double.IsNormal m e ∧ double.minExponent < e ∧ (m * 2 ^ e : ℚ) = n := by
  have hlog : n.log2 < 53 := (Nat.log2_lt hn.ne').2 h
  obtain ⟨k, hk⟩ := Nat.le.dest (Nat.lt_succ_iff.1 hlog)
  have hlow : 2 ^ n.log2 ≤ n := Nat.log2_self_le hn.ne'
  have hhigh : n < 2 ^ (n.log2 + 1) := Nat.lt_log2_self
  refine ⟨n * 2 ^ k, -k, ⟨?_, ?_, ?_, ?_⟩, ?_, ?_⟩
  · calc 2 ^ (double.precision - 1) = 2 ^ n.log2 * 2 ^ k := by rw [← pow_add, hk]; rfl
      _ ≤ n * 2 ^ k := Nat.mul_le_mul_right _ hlow
  · calc n * 2 ^ k < 2 ^ (n.log2 + 1) * 2 ^ k := Nat.mul_lt_mul_of_pos_right hhigh (by positivity)
      _ = 2 ^ double.precision := by rw [← pow_add, add_right_comm, hk]; rfl
  · simp only [double]
    omega
  · simp only [double]
    omega
  · simp only [double]
    omega
  · push_cast
    rw [zpow_neg, zpow_natCast, mul_assoc, mul_inv_cancel₀ (by positivity), mul_one]

/-- The double nearest to an integer of sixty-four bits, which is exact up to fifty-three bits. -/
theorem exists_ofInt_eq {v : ℤ} (hne : v ≠ 0) (hv : |v| < 2 ^ 64) :
    ∃ m e, double.ofInt v = .finite (v < 0) m e ∧ double.Rounds |v| m e ∧
      (|v| < 2 ^ 53 → (m * 2 ^ e : ℚ) = |v|) := by
  have habs : ((v.natAbs : ℕ) : ℚ) / ((1 : ℕ) : ℚ) = |(v : ℚ)| := by
    rw [Nat.cast_one, div_one, Nat.cast_natAbs, Int.cast_abs]
  have hone : (1 : ℚ) ≤ |(v : ℚ)| := by exact_mod_cast Int.one_le_abs hne
  have hlow : (2 : ℚ) ^ (double.minExponent + double.precision - 1) ≤ v.natAbs / (1 : ℕ) := by
    rw [habs]
    exact (zpow_le_one_of_nonpos₀ (by norm_num) (by decide)).trans hone
  have hhigh : ((v.natAbs : ℚ) / (1 : ℕ)) < 2 ^ (double.maxExponent + double.precision - 1) := by
    rw [habs]
    calc |(v : ℚ)| < 2 ^ (64 : ℤ) := by exact_mod_cast hv
      _ ≤ 2 ^ (double.maxExponent + double.precision - 1) := two_zpow_le_iff.2 (by decide)
  obtain ⟨m, e, hround, hrounds⟩ :=
    exists_rounds (decide (v < 0)) (by decide : 0 < double.precision) Nat.one_pos hlow hhigh
  rw [habs] at hrounds
  refine ⟨m, e, hround, hrounds, fun hsmall => ?_⟩
  obtain ⟨m', e', hnormal, hmin, hvalue⟩ :=
    exists_isNormal_of_lt (Int.natAbs_pos.2 hne) (by zify; exact hsmall)
  have hsame : double.round (v < 0) v.natAbs 1 = .finite (v < 0) m' e' := by
    refine round_eq_of_near (by decide) Nat.one_pos hnormal hmin ?_ ?_
    · rw [hvalue, Nat.cast_one, div_one, sub_self, abs_zero]
      positivity
    · rw [Nat.cast_one, div_one, ← hvalue]
      intro hlt
      exact absurd (hnormal.two_zpow_le (by decide)) hlt.not_ge
  rw [hround] at hsame
  obtain ⟨-, rfl, rfl⟩ := BinaryFloat.finite.inj hsame
  rw [hvalue, Nat.cast_natAbs, Int.cast_abs]

theorem value_ofInt_of_lt {v : ℤ} (hv : |v| < 2 ^ 53) : (double.ofInt v).value = v := by
  rcases eq_or_ne v 0 with rfl | hne
  · norm_num [ofInt, BinaryFormat.round, zero, BinaryFloat.value]
  · obtain ⟨m, e, hof, -, hexact⟩ := exists_ofInt_eq hne (hv.trans (by norm_num))
    have hsign : decide (v < 0) = decide ((v : ℚ) < 0) := by simp
    rw [hof, BinaryFloat.value, hexact hv, hsign, Int.cast_abs]
    exact signOf_mul_abs (v : ℚ)

theorem exists_ofInt_eq_finite {v : ℤ} (hv : |v| < 2 ^ 53) :
    ∃ n m e, double.ofInt v = .finite n m e := by
  rcases eq_or_ne v 0 with rfl | hne
  · exact ⟨_, _, _, rfl⟩
  · obtain ⟨m, e, hof, -⟩ := exists_ofInt_eq hne (hv.trans (by norm_num))
    exact ⟨_, m, e, hof⟩

/-! ## One step from an integer -/

theorem abs_le_of_keepsStep {down : Bool} {v : ℤ} (h : KeepsStep down v) : |v| ≤ 2 ^ 44 := by
  obtain ⟨hlow, hhigh⟩ := h
  rw [abs_le]
  cases down <;> simp only [signOf_false, signOf_true] at hlow hhigh <;> constructor <;> omega

/-- A strict bound before rounding. -/
def exactBound (down : Bool) (v : ℤ) : ℚ :=
  v + signOf down * strictStep.value

/-- The exact bound is too great to be lost among the least numbers of the format. -/
theorem le_abs_exactBound (down : Bool) (v : ℤ) : 1 / 1024 ≤ |exactBound down v| := by
  obtain ⟨hlow, hhigh⟩ := strictStep_mem
  rw [le_abs, exactBound]
  rcases lt_trichotomy v 0 with hv | rfl | hv
  · have hv' : (v : ℚ) ≤ -1 := by exact_mod_cast Int.le_sub_one_of_lt hv
    right
    cases down <;> simp <;> linarith
  · cases down
    · left
      simpa using hlow.le
    · right
      simpa using hlow.le
  · have hv' : (1 : ℚ) ≤ v := by exact_mod_cast hv
    left
    cases down <;> simp <;> linarith

/-- Where the step is kept, the exact bound lies where doubles are at most `2 ^ -9` apart. -/
theorem abs_exactBound_lt {down : Bool} {v : ℤ} (h : KeepsStep down v) :
    |exactBound down v| < 2 ^ (44 : ℤ) := by
  obtain ⟨hlow, hhigh⟩ := strictStep_mem
  obtain ⟨hle, hlt⟩ := h
  have hle' : (-2 ^ 44 : ℚ) ≤ signOf down * v := by exact_mod_cast hle
  have hlt' : (signOf down * v : ℚ) ≤ 2 ^ 44 - 1 := by exact_mod_cast Int.le_sub_one_of_lt hlt
  rw [abs_lt, exactBound]
  cases down <;> norm_num at hle' hlt' ⊢ <;> constructor <;> linarith

/-- A step that is kept ends before the next integer, and the number it ends at has a unit in the last
place of at most `2 ^ -8`. -/
theorem exists_add_stepTo_eq {down : Bool} {v : ℤ} (h : KeepsStep down v) :
    ∃ n m e, double.add (double.ofInt v) (stepTo down) = .finite n m e ∧ 0 < m ∧ e ≤ -8 ∧
      0 < signOf down * ((BinaryFloat.finite n m e).value - v) ∧
      signOf down * ((BinaryFloat.finite n m e).value - v) < 1 := by
  have hv : |v| < 2 ^ 53 := (abs_le_of_keepsStep h).trans_lt (by norm_num)
  obtain ⟨n₁, m₁, e₁, hof⟩ := exists_ofInt_eq_finite hv
  obtain ⟨m₂, e₂, hstep, -⟩ := exists_stepTo_eq down
  have hsum : (BinaryFloat.finite n₁ m₁ e₁).value + (BinaryFloat.finite down m₂ e₂).value =
      exactBound down v := by
    rw [← hof, ← hstep, value_ofInt_of_lt hv, value_stepTo, exactBound]
  have hgreat := abs_exactBound_lt h
  have hsmall : (2 : ℚ) ^ (-10 : ℤ) ≤ |exactBound down v| :=
    le_of_eq_of_le (by norm_num) (le_abs_exactBound down v)
  set q : ℚ := exactBound down v with hq
  have hne : q ≠ 0 := by
    intro h0
    rw [h0, abs_zero] at hsmall
    exact absurd hsmall (by positivity : (0 : ℚ) < 2 ^ (-10 : ℤ)).not_ge
  obtain ⟨num, den, hden, hquot, hadd⟩ := exists_add_eq_round double hsum hne
  obtain ⟨m, e, hround, hrounds⟩ := exists_rounds (f := double) (decide (q < 0)) (by decide) hden
    (by rw [hquot]; exact (two_zpow_le_iff.2 (by decide)).trans hsmall)
    (by rw [hquot]; exact hgreat.trans_le (two_zpow_le_iff.2 (by decide)))
  rw [hquot] at hrounds
  refine ⟨_, m, e, by rw [hof, hstep, hadd, hround], hrounds.isNormal.mantissa_pos,
    hrounds.exponent_le 44 hgreat, ?_⟩
  -- Rounding takes off less than the step has put on.
  have hnear := hrounds.near 44 hgreat
  rw [← BinaryFloat.abs_value_sub, abs_le] at hnear
  obtain ⟨hlow, hhigh⟩ := strictStep_mem
  have herror : (2 : ℚ) ^ ((44 : ℤ) - double.precision - 1) = 1 / 1024 := by norm_num [double]
  rw [herror] at hnear
  cases down <;> simp only [exactBound, signOf_false, signOf_true] at hq ⊢ <;> push_cast at hq ⊢ <;>
    constructor <;> linarith

/-! ## Steps that are lost -/

section Lost

variable {down : Bool} {v : ℤ} {m : ℕ} {e : ℤ}

theorem le_abs_of_not_keepsStep (h : ¬ KeepsStep down v) : 2 ^ 44 ≤ |v| := by
  by_contra! hlt
  apply h
  obtain ⟨hneg, hpos⟩ := abs_lt.1 hlt
  cases down <;> simp only [KeepsStep, signOf_false, signOf_true] <;> constructor <;> omega

/-- From `2 ^ 44` itself a step towards zero is kept. -/
theorem lt_abs_of_towards (h : ¬ KeepsStep down v) (htowards : decide (v < 0) ≠ down) :
    2 ^ 44 < |v| := by
  refine (le_abs_of_not_keepsStep h).lt_of_ne ?_
  intro heq
  apply h
  have hv : signOf down * v = -|v| := by
    by_cases hneg : v < 0
    · cases down <;> simp_all [abs_of_neg]
    · cases down <;> simp_all [abs_of_nonneg]
  rw [KeepsStep, hv, ← heq]
  norm_num

theorem strictStep_lt {k : ℤ} (hk : -9 ≤ k) : strictStep.value < 2 ^ k :=
  calc strictStep.value < 1 / 512 := strictStep_mem.2
    _ = 2 ^ (-9 : ℤ) := by norm_num
    _ ≤ 2 ^ k := two_zpow_le_iff.2 hk

/-- Beneath the least mantissa, where doubles lie twice as close, the step is lost as well: the first
power of two that a lost step leads beneath is `2 ^ 45`. -/
theorem lt_sub_strictStep (h : ¬ KeepsStep down v) (htowards : decide (v < 0) ≠ down)
    (hrounds : double.Rounds |v| m e) (hexact : |v| < 2 ^ 53 → (m * 2 ^ e : ℚ) = |v|)
    (hbeneath : (m * 2 ^ e : ℚ) - strictStep.value < 2 ^ (e + 52)) :
    (2 : ℚ) ^ (e + 52) - 2 ^ (e - 2) < m * 2 ^ e - strictStep.value := by
  have hnormal := two_zpow_le_of_isNormal hrounds.isNormal
  have hgreat := lt_abs_of_towards h htowards
  have hexponent : -8 ≤ e := hrounds.le_exponent 44 (by exact_mod_cast hgreat.le)
  have hseven : -7 ≤ e := by
    by_contra! hlt
    obtain rfl : e = -8 := by omega
    have hsmall : |v| < 2 ^ 45 := by
      by_contra! hle
      have : (-7 : ℤ) ≤ -8 := hrounds.le_exponent 45 (by exact_mod_cast hle)
      omega
    have hone : strictStep.value < 2 ^ (0 : ℤ) := strictStep_lt (by norm_num)
    rw [hexact (hsmall.trans (by norm_num))] at hbeneath
    have hbound : ((2 ^ 44 + 1 : ℤ) : ℚ) ≤ |v| := by exact_mod_cast hgreat
    norm_num at hbeneath hone hbound
    linarith
  have hstep : strictStep.value < 2 ^ (e - 2) := strictStep_lt (by omega)
  linarith

/-- A step that is lost leaves the double nearest to the integer as it is. -/
theorem add_stepTo_eq_self (hv : |v| < 2 ^ 64) (h : ¬ KeepsStep down v) :
    double.add (double.ofInt v) (stepTo down) = double.ofInt v := by
  have hgreat := le_abs_of_not_keepsStep h
  have hne : v ≠ 0 := by
    rintro rfl
    norm_num at hgreat
  obtain ⟨m, e, hof, hrounds, hexact⟩ := exists_ofInt_eq hne hv
  obtain ⟨m₂, e₂, hstep, hvalue⟩ := exists_stepTo_eq down
  have hexponent : -8 ≤ e := hrounds.le_exponent 44 (by exact_mod_cast hgreat)
  have hmin : double.minExponent < e := by
    simp only [double]
    omega
  rw [hof, hstep]
  refine add_eq_left (by decide) hrounds.isNormal hmin ?_ ?_
  · rw [hvalue]
    exact strictStep_lt (by omega)
  · rw [hvalue, add_precision_sub_one]
    exact fun htowards => lt_sub_strictStep h htowards hrounds hexact

end Lost

end RecordSearch
