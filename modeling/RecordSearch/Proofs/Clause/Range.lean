import RecordSearch.Proofs.Clause.Compile
import RecordSearch.Proofs.Numeric.ExactDecimal
import RecordSearch.Proofs.Numeric.Numeral
import RecordSearch.Proofs.Numeric.StrictStep

/-!
# What a range selects

A comparison with an integer is written as a closed range. Read as exact decimals, its bounds select the
integers that the comparison admits. The bounds of `==`, `!=`, `<=` and `>=` are the integer itself, so
this holds everywhere. A strict bound is moved by a step that rounding keeps only up to `2 ^ 44`; further
out it is the nearest double, which is the integer's neighbour by chance at most.

## Main definitions

* `IsStrictAt` — where a strict bound leaves out the integer and nothing else.
* `Comparison.Admits` — the integers that a comparison admits.
* `Comparison.Selects` — the integers that its range selects.
* `Comparison.IsExactAt` — where the two are the same.

## Main results

* `exists_exactDecimal?_offset` — what a strict bound reads as.
* `selects_compile_iff` — the clause of a comparison selects what the comparison admits exactly where
  its bounds are exact.
-/

namespace RecordSearch

open BinaryFormat

/-! ## Bounds -/

/-- Whether an integer is not below the bound that a text writes. -/
def IsAbove (low : String) (w : ℤ) : Prop :=
  low = "-inf" ∨ ∃ q, exactDecimal? low = some q ∧ q ≤ w

/-- Whether an integer is not above the bound that a text writes. -/
def IsBelow (high : String) (w : ℤ) : Prop :=
  high = "+inf" ∨ ∃ q, exactDecimal? high = some q ∧ w ≤ q

theorem isAbove_iff {low : String} {q : ℚ} (h : exactDecimal? low = some q) (w : ℤ) :
    IsAbove low w ↔ q ≤ w := by
  constructor
  · rintro (rfl | ⟨r, hr, hle⟩)
    · contradiction
    · rw [h] at hr
      exact Option.some.inj hr ▸ hle
  · exact fun hle => .inr ⟨q, h, hle⟩

theorem isBelow_iff {high : String} {q : ℚ} (h : exactDecimal? high = some q) (w : ℤ) :
    IsBelow high w ↔ w ≤ q := by
  constructor
  · rintro (rfl | ⟨r, hr, hle⟩)
    · contradiction
    · rw [h] at hr
      exact Option.some.inj hr ▸ hle
  · exact fun hle => .inr ⟨q, h, hle⟩

theorem isAbove_negInfinity (w : ℤ) : IsAbove Number.negInfinity.render w := .inl rfl

theorem isBelow_posInfinity (w : ℤ) : IsBelow Number.posInfinity.render w := .inl rfl

theorem isAbove_integer (v w : ℤ) : IsAbove (Number.integer v).render w ↔ v ≤ w := by
  rw [Number.render, isAbove_iff (exactDecimal?_toString v), Int.cast_le]

theorem isBelow_integer (v w : ℤ) : IsBelow (Number.integer v).render w ↔ w ≤ v := by
  rw [Number.render, isBelow_iff (exactDecimal?_toString v), Int.cast_le]

/-! ## Strict bounds -/

/-- Where a strict bound leaves out the integer and nothing else: the step is kept, or the double nearest
to the integer is written as its neighbour. -/
def IsStrictAt (down : Bool) (v : ℤ) : Prop :=
  KeepsStep down v ∨ 2 ^ 53 ≤ |v| ∧
    exactDecimal? (Number.float (double.ofInt v)).render = some (v + signOf down : ℚ)

section Strict

variable {down : Bool} {v : ℤ} {m : ℕ} {e : ℤ}

/-- A number whose unit divides one is at least a unit away from every integer that it is not. -/
theorem two_zpow_le_abs_value_sub {negative : Bool} {w : ℤ} (he : e ≤ 0)
    (hne : (BinaryFloat.finite negative m e).value ≠ w) :
    (2 : ℚ) ^ e ≤ |(BinaryFloat.finite negative m e).value - w| := by
  obtain ⟨k, rfl⟩ := Int.exists_eq_neg_ofNat he
  have hpos : (0 : ℚ) < 2 ^ (-(k : ℤ)) := by positivity
  have hunits : (BinaryFloat.finite negative m (-k)).value - w =
      ((signOf negative * m - w * 2 ^ k : ℤ) : ℚ) * 2 ^ (-(k : ℤ)) := by
    rw [BinaryFloat.value, zpow_neg, zpow_natCast]
    push_cast
    field_simp
  have hsome : signOf negative * m - w * 2 ^ k ≠ 0 := by
    intro hzero
    apply hne
    rw [← sub_eq_zero, hunits, hzero, Int.cast_zero, zero_mul]
  have hone : (1 : ℚ) ≤ |((signOf negative * m - w * 2 ^ k : ℤ) : ℚ)| := by
    exact_mod_cast Int.one_le_abs hsome
  rw [hunits, abs_mul, abs_of_pos hpos]
  exact le_mul_of_one_le_left hpos.le hone

theorem abs_read_sub_le (negative : Bool) (m : ℕ) (e : ℤ) :
    |signOf negative * (shortest m e).value - (BinaryFloat.finite negative m e).value| ≤
      2 ^ (e - 1) := by
  rw [BinaryFloat.value, ← mul_sub, abs_signOf_mul]
  exact abs_shortest_sub_le m e

/-- A bound leaves out an integer and nothing beyond it exactly if it lies past the integer and at most
at its neighbour. -/
theorem forall_le_iff_lt {q : ℚ} :
    (∀ w : ℤ, signOf down * q ≤ signOf down * w ↔ signOf down * v < signOf down * w) ↔
      0 < signOf down * (q - v) ∧ signOf down * (q - v) ≤ 1 := by
  rw [mul_sub, sub_pos, sub_le_iff_le_add]
  constructor
  · intro h
    refine ⟨not_le.1 fun hle => lt_irrefl _ ((h v).1 hle), ?_⟩
    have hnext := (h (v + signOf down)).2 (by cases down <;> simp)
    refine hnext.trans_eq ?_
    cases down <;> push_cast [signOf_false, signOf_true] <;> ring
  · rintro ⟨hpast, hnext⟩ w
    constructor
    · intro hle
      exact_mod_cast hpast.trans_le hle
    · intro hlt
      have hstep : (1 + signOf down * v : ℚ) ≤ signOf down * w := by
        rw [add_comm]
        exact_mod_cast hlt
      exact hnext.trans hstep

/-- A step that is kept is written as a decimal strictly between the integer and its neighbour. -/
theorem exists_exactDecimal?_of_keepsStep (h : KeepsStep down v) :
    ∃ q, exactDecimal? ((Number.integer v).offset (stepTo down)).render = some q ∧
      0 < signOf down * (q - v) ∧ signOf down * (q - v) < 1 := by
  obtain ⟨negative, m, e, hadd, hm, he, hlow, hhigh⟩ := exists_add_stepTo_eq h
  refine ⟨signOf negative * (shortest m e).value, ?_, ?_⟩
  · rw [Number.offset, Number.toDouble, hadd]
    exact exactDecimal?_render hm
  · set x := (BinaryFloat.finite negative m e).value
    have hunit : (signOf down * signOf down : ℚ) = 1 := by exact_mod_cast signOf_mul_self down
    -- The number is a unit away from both integers, and its decimal half a unit from the number.
    have hself : (2 : ℚ) ^ e ≤ signOf down * (x - v) := by
      rw [← abs_of_pos hlow, abs_signOf_mul]
      refine two_zpow_le_abs_value_sub (by omega) ?_
      intro heq
      rw [show x = v from heq, sub_self, mul_zero] at hlow
      exact lt_irrefl _ hlow
    have hnext : (2 : ℚ) ^ e ≤ 1 - signOf down * (x - v) := by
      have hgap : 1 - signOf down * (x - v) = -(signOf down * (x - (v + signOf down : ℤ))) := by
        rw [← hunit]
        push_cast
        ring
      rw [← abs_of_pos (sub_pos.2 hhigh), hgap, abs_neg, abs_signOf_mul]
      refine two_zpow_le_abs_value_sub (by omega) ?_
      intro heq
      rw [show x = (v + signOf down : ℤ) from heq, Int.cast_add, add_sub_cancel_left, hunit] at hhigh
      exact lt_irrefl _ hhigh
    have hread := abs_read_sub_le negative m e
    rw [← abs_signOf_mul down, abs_le] at hread
    have hhalf := two_zpow_eq_two_mul e
    have hpos : (0 : ℚ) < 2 ^ (e - 1) := by positivity
    constructor <;> linarith

/-- The double nearest to an integer is an integer, and is written as one; up to fifty-three bits it is
written less than one away from the integer. -/
theorem exists_exactDecimal?_ofInt (hne : v ≠ 0) (hv : |v| < 2 ^ 64) :
    ∃ j : ℤ, exactDecimal? (Number.float (double.ofInt v)).render = some (j : ℚ) ∧
      (|v| < 2 ^ 53 → |(j : ℚ) - v| < 1) := by
  obtain ⟨m, e, hof, hrounds, hexact⟩ := exists_ofInt_eq hne hv
  have hm := hrounds.isNormal.mantissa_pos
  have hsmall : |v| < 2 ^ 53 → e ≤ 0 := by
    intro hlt
    have hle := two_zpow_le_of_isNormal hrounds.isNormal
    rw [hexact hlt] at hle
    have hpow : ((|v| : ℤ) : ℚ) < 2 ^ (53 : ℤ) := by exact_mod_cast hlt
    have hexponent := two_zpow_lt_iff.1 (hle.trans_lt hpow)
    omega
  have hwhole : ∃ n : ℕ, (m * 2 ^ e : ℚ) = n := by
    by_cases hlt : |v| < 2 ^ 53
    · exact ⟨v.natAbs, by rw [hexact hlt, Nat.cast_natAbs]⟩
    · have hexponent : 1 ≤ e := hrounds.le_exponent 53 (by exact_mod_cast not_lt.1 hlt)
      obtain ⟨k, rfl⟩ := Int.eq_ofNat_of_zero_le (by omega : 0 ≤ e)
      exact ⟨m * 2 ^ k, by push_cast; rfl⟩
  obtain ⟨n, hn⟩ := hwhole
  obtain ⟨j, hj⟩ := exists_shortest_eq_nat hm hn
  refine ⟨signOf (v < 0) * j, ?_, ?_⟩
  · have hread : exactDecimal? (Number.float (double.ofInt v)).render =
        some (signOf (v < 0) * (shortest m e).value) := by
      rw [hof]
      exact exactDecimal?_render hm
    rw [hread, hj]
    push_cast
    rfl
  · intro hlt
    have hread := abs_read_sub_le (v < 0) m e
    have hvalue := value_ofInt_of_lt hlt
    rw [hof] at hvalue
    rw [hj, hvalue] at hread
    push_cast
    exact hread.trans_lt (zpow_lt_one_of_neg₀ (by norm_num) (by have := hsmall hlt; omega))

/-- A strict bound is written as a decimal, which excludes the integer and nothing else exactly where the
step is kept or happens not to be needed. -/
theorem exists_exactDecimal?_offset (down : Bool) (hv : |v| < 2 ^ 64) :
    ∃ q, exactDecimal? ((Number.integer v).offset (stepTo down)).render = some q ∧
      ((∀ w : ℤ, signOf down * q ≤ signOf down * w ↔ signOf down * v < signOf down * w) ↔
        IsStrictAt down v) := by
  by_cases hkeeps : KeepsStep down v
  · obtain ⟨q, hq, hlow, hhigh⟩ := exists_exactDecimal?_of_keepsStep hkeeps
    exact ⟨q, hq, iff_of_true (forall_le_iff_lt.2 ⟨hlow, hhigh.le⟩) (.inl hkeeps)⟩
  · have hne : v ≠ 0 := by
      rintro rfl
      exact hkeeps (by cases down <;> decide)
    obtain ⟨j, hj, hnear⟩ := exists_exactDecimal?_ofInt hne hv
    refine ⟨j, by rwa [Number.offset, Number.toDouble, add_stepTo_eq_self hv hkeeps], ?_⟩
    rw [forall_le_iff_lt, IsStrictAt, or_iff_right hkeeps, hj, Option.some.injEq]
    constructor
    · rintro ⟨hpast, hnext⟩
      have hj' : j = v + signOf down := by
        have hpast' : 0 < signOf down * (j - v) := by exact_mod_cast hpast
        have hnext' : signOf down * (j - v) ≤ 1 := by exact_mod_cast hnext
        cases down <;> simp only [signOf_false, signOf_true] at hpast' hnext' ⊢ <;> omega
      refine ⟨not_lt.1 fun hlt => ?_, by exact_mod_cast hj'⟩
      have hone := hnear hlt
      rw [hj'] at hone
      cases down <;> norm_num at hone
    · rintro ⟨-, hj'⟩
      rw [hj', add_sub_cancel_left]
      cases down <;> norm_num

end Strict

/-! ## Comparisons -/

namespace Comparison

/-- The integers that a comparison with an integer admits. -/
def Admits (op : Comparison) (w v : ℤ) : Prop :=
  match op with
  | eq => w = v
  | ne => w ≠ v
  | lt => w < v
  | le => w ≤ v
  | gt => w > v
  | ge => w ≥ v

/-- The integers between two bounds, or outside of them for inequality. -/
def Selects (op : Comparison) (low high : String) (w : ℤ) : Prop :=
  if op = ne then ¬ (IsAbove low w ∧ IsBelow high w) else IsAbove low w ∧ IsBelow high w

/-- Where the bounds of a comparison are exact: everywhere, if the comparison is not strict. -/
def IsExactAt (op : Comparison) (v : ℤ) : Prop :=
  match op with
  | gt => IsStrictAt false v
  | lt => IsStrictAt true v
  | _ => True

/-- The range of a comparison selects what the comparison admits exactly where its bounds are exact. -/
theorem exists_range_eq (op : Comparison) {v : ℤ} (hv : |v| < 2 ^ 64) :
    ∃ low high, op.range (.integer v) = .within low high ∧
      ((∀ w, op.Selects low.render high.render w ↔ op.Admits w v) ↔ op.IsExactAt v) := by
  cases op with
  | eq =>
    refine ⟨_, _, rfl, iff_of_true (fun w => ?_) trivial⟩
    rw [Selects, if_neg (by decide), isAbove_integer, isBelow_integer]
    exact le_antisymm_iff.symm.trans eq_comm
  | ne =>
    refine ⟨_, _, rfl, iff_of_true (fun w => ?_) trivial⟩
    rw [Selects, if_pos rfl, isAbove_integer, isBelow_integer]
    exact not_congr (le_antisymm_iff.symm.trans eq_comm)
  | ge =>
    refine ⟨_, _, rfl, iff_of_true (fun w => ?_) trivial⟩
    rw [Selects, if_neg (by decide), isAbove_integer]
    exact and_iff_left (isBelow_posInfinity w)
  | le =>
    refine ⟨_, _, rfl, iff_of_true (fun w => ?_) trivial⟩
    rw [Selects, if_neg (by decide), isBelow_integer]
    exact and_iff_right (isAbove_negInfinity w)
  | gt =>
    obtain ⟨q, hq, hiff⟩ := exists_exactDecimal?_offset false hv
    refine ⟨(Number.integer v).offset (stepTo false), .posInfinity, rfl, ?_⟩
    rw [IsExactAt, ← hiff]
    refine forall_congr' fun w => ?_
    rw [Selects, if_neg (by decide), and_iff_left (isBelow_posInfinity w), isAbove_iff hq]
    simp [Admits]
  | lt =>
    obtain ⟨q, hq, hiff⟩ := exists_exactDecimal?_offset true hv
    refine ⟨.negInfinity, (Number.integer v).offset (stepTo true), rfl, ?_⟩
    rw [IsExactAt, ← hiff]
    refine forall_congr' fun w => ?_
    rw [Selects, if_neg (by decide), and_iff_right (isAbove_negInfinity w), isBelow_iff hq]
    simp [Admits]

end Comparison

/-- The clause of a comparison of a numeric field with an integer is a range, whose bounds read as exact
decimals select the integers that the comparison admits exactly where they are exact. -/
theorem selects_compile_iff {d : Descriptor} {name : String} {f : FieldDescriptor} (op : Comparison)
    {o : Operand Value} {v : ℤ} (hfield : d.field? name = some f) (hkind : f.kind = .numeric)
    (hoperand : o.scalar?.bind Scalar.number? = some (.integer v)) (hv : |v| < 2 ^ 64) :
    ∃ low high, IsNumeral low ∧ IsNumeral high ∧
      (Predicate.compare name op o).compile d =
        .ok ((if op = .ne then "-" else "") ++ "@" ++ name ++ ":" ++
          ("[" ++ low ++ " " ++ high ++ "]")) ∧
      ((∀ w, op.Selects low high w ↔ op.Admits w v) ↔ op.IsExactAt v) := by
  obtain ⟨low, high, hrange, hiff⟩ := op.exists_range_eq hv
  obtain ⟨s, hs, hnumber⟩ := Option.bind_eq_some_iff.1 hoperand
  refine ⟨low.render, high.render, low.isNumeral_render, high.isNumeral_render, ?_, hiff⟩
  have hleaf : f.compare op s (Predicate.compare name op o).render =
      .ok (.field (op = .ne) f.name (op.range (.integer v))) := by
    rw [FieldDescriptor.compare_eq_ok_iff, hkind]
    exact ⟨_, hnumber, rfl, rfl⟩
  refine compile_eq_ok_iff.2 ⟨_, toClause_compare_eq_ok_iff.2 ⟨f, hfield, s, hs, hleaf⟩, ?_⟩
  rw [Clause.render, hrange, name_of_field? hfield, Demand.render]
  cases op <;> rfl

/-- Below `2 ^ 44` a strict bound selects what is beyond it, down to the integer next to it. -/
theorem selects_compile_of_great_count :
    ∃ low high,
      (Predicate.compare "count" .gt (.literal (.int 17592186044415))).compile
          ⟨"stocks", [⟨"count", .numeric, false, .int64⟩], []⟩ =
        .ok ("@count:" ++ ("[" ++ low ++ " " ++ high ++ "]")) ∧
      ∀ w, Comparison.gt.Selects low high w ↔ w > 17592186044415 := by
  have hfield : (⟨"stocks", [⟨"count", .numeric, false, .int64⟩], []⟩ : Descriptor).field? "count" =
      some ⟨"count", .numeric, false, .int64⟩ := rfl
  obtain ⟨low, high, -, -, hcompile, hiff⟩ := selects_compile_iff .gt
    (o := .literal (.int 17592186044415)) (v := 17592186044415) hfield rfl rfl (by norm_num)
  exact ⟨low, high, hcompile, hiff.2 (.inl (by decide))⟩

/-- From `2 ^ 44` on the bound is the integer itself, which is selected although it is not admitted. -/
theorem selects_compile_of_lost_step :
    (Predicate.compare "count" .gt (.literal (.int 17592186044416))).compile
        ⟨"stocks", [⟨"count", .numeric, false, .int64⟩], []⟩ =
      .ok "@count:[17592186044416 +inf]" ∧
    Comparison.gt.Selects "17592186044416" "+inf" 17592186044416 ∧
    ¬ Comparison.gt.Admits 17592186044416 17592186044416 := by
  refine ⟨by decide +kernel, ?_, lt_irrefl _⟩
  rw [Comparison.Selects, if_neg (by decide)]
  exact ⟨(isAbove_integer 17592186044416 17592186044416).2 le_rfl, isBelow_posInfinity _⟩

end RecordSearch
