import Mathlib.Algebra.Order.Field.Rat
import Mathlib.Data.List.ReduceOption
import Mathlib.Data.Set.Basic
import RecordSearch.Proofs.Numeric.Rounding
import RecordSearch.Proofs.Storage.Ordering

/-!
# Where comparing values is an order

Two stored values are compared as numbers if both of them are numbers, and as texts otherwise. Numbers
among themselves are ordered, and so are texts, but the two orders need not fit together: of `10`, `9a` and
`9e0` each comes before the next, and the last before the first. What is written like a number and is none
ties with every number, though these need not tie with each other.

These are the only two ways for an order to fail. So some values are in an order exactly if no text stands
between two numbers in any other order than their own, and none of them is a NaN among numbers that differ.

## Main definitions

* `IsConsistentOn` — comparing is a consistent order on some values, missing ones among them.
* `FitsTogether` — numbers and texts among some values do not disturb one another.

## Main results

* `BinaryFloat.compare?_trans` — numbers are ordered.
* `isConsistentOn_iff` — the order is consistent exactly if numbers and texts fit together.
-/

namespace RecordSearch

/-! ## Numbers -/

namespace BinaryFloat

/-- Mantissas brought to one exponent compare like the numbers that they stand for. -/
theorem compare_aligned (n₁ n₂ : Bool) (m₁ m₂ : ℕ) (e₁ e₂ : ℤ) :
    compare (aligned n₁ m₁ e₁ (min e₁ e₂)) (aligned n₂ m₂ e₂ (min e₁ e₂)) =
      compare (finite n₁ m₁ e₁).value (finite n₂ m₂ e₂).value := by
  have hscale : StrictMono fun k : ℤ => (k : ℚ) * 2 ^ min e₁ e₂ :=
    Int.cast_strictMono.mul_const (by positivity)
  rw [← cast_aligned n₁ m₁ (min_le_left e₁ e₂), ← cast_aligned n₂ m₂ (min_le_right e₁ e₂)]
  rw [← cmp_eq_compare, ← cmp_eq_compare]
  exact (hscale.cmp_map_eq _ _).symm

theorem compare?_finite (n₁ n₂ : Bool) (m₁ m₂ : ℕ) (e₁ e₂ : ℤ) :
    (finite n₁ m₁ e₁).compare? (finite n₂ m₂ e₂) =
      some (compare (finite n₁ m₁ e₁).value (finite n₂ m₂ e₂).value) :=
  congrArg some (compare_aligned n₁ n₂ m₁ m₂ e₁ e₂)

theorem compare?_nan (x : BinaryFloat) : x.compare? nan = none := by
  cases x <;> rfl

theorem negInfinity_le (x : BinaryFloat) : (infinite true).compare? x ≠ some .gt := by
  cases x with
  | infinite negative => cases negative <;> decide
  | nan | finite _ _ _ => nofun

theorem le_posInfinity (x : BinaryFloat) : x.compare? (infinite false) ≠ some .gt := by
  cases x with
  | infinite negative => cases negative <;> decide
  | nan | finite _ _ _ => nofun

theorem eq_of_le_negInfinity {x : BinaryFloat} (h : x.compare? (infinite true) ≠ some .gt) :
    x = infinite true ∨ x = nan := by
  cases x with
  | nan => exact .inr rfl
  | infinite negative =>
    cases negative with
    | true => exact .inl rfl
    | false => exact absurd rfl h
  | finite n m e => exact absurd rfl h

theorem eq_of_posInfinity_le {x : BinaryFloat} (h : (infinite false).compare? x ≠ some .gt) :
    x = infinite false ∨ x = nan := by
  cases x with
  | nan => exact .inr rfl
  | infinite negative =>
    cases negative with
    | true => exact absurd rfl h
    | false => exact .inl rfl
  | finite n m e => exact absurd rfl h

/-- Numbers are ordered, as long as what stands between them is one. -/
theorem compare?_trans {x y z : BinaryFloat} (hy : y ≠ nan) (hxy : x.compare? y ≠ some .gt)
    (hyz : y.compare? z ≠ some .gt) : x.compare? z ≠ some .gt := by
  cases y with
  | nan => exact absurd rfl hy
  | infinite negative =>
    cases negative with
    | true =>
      obtain rfl | rfl := eq_of_le_negInfinity hxy
      · exact negInfinity_le z
      · nofun
    | false =>
      obtain rfl | rfl := eq_of_posInfinity_le hyz
      · exact le_posInfinity x
      · rw [compare?_nan]
        nofun
  | finite n m e =>
    cases x with
    | nan => nofun
    | infinite negative =>
      cases negative with
      | true => exact negInfinity_le z
      | false => exact absurd rfl hxy
    | finite n₁ m₁ e₁ =>
      cases z with
      | nan => nofun
      | infinite negative =>
        cases negative with
        | true => exact absurd rfl hyz
        | false => exact le_posInfinity _
      | finite n₂ m₂ e₂ =>
        rw [compare?_finite, Ne, Option.some_inj, ← Ne, compare_le_iff_le] at hxy hyz ⊢
        exact hxy.trans hyz

end BinaryFloat

/-! ## Values -/

/-- A text that reads as a number, or as not a number. -/
def IsNumeric (text : String) : Prop :=
  (BinaryFormat.double.read? text).isSome

/-- A text that reads as not a number. -/
def IsNan (text : String) : Prop :=
  BinaryFormat.double.read? text = some .nan

instance (text : String) : Decidable (IsNumeric text) :=
  inferInstanceAs (Decidable (_ = true))

instance (text : String) : Decidable (IsNan text) :=
  inferInstanceAs (Decidable (_ = _))

section Compare

variable {a b c : String} {x y : BinaryFloat}

theorem compareFieldValues_of_read? (ha : BinaryFormat.double.read? a = some x)
    (hb : BinaryFormat.double.read? b = some y) :
    compareFieldValues (some a) (some b) = (x.compare? y).getD .eq := by
  simp only [compareFieldValues, ha, hb]

theorem getD_eq_ne_gt_iff {order? : Option Ordering} : order?.getD .eq ≠ .gt ↔ order? ≠ some .gt := by
  cases order? <;> simp

/-- Values of which one is not a number are compared as texts. -/
theorem compareFieldValues_of_not_isNumeric (h : ¬ (IsNumeric a ∧ IsNumeric b)) :
    compareFieldValues (some a) (some b) = compare a b := by
  unfold IsNumeric at h
  cases ha : BinaryFormat.double.read? a with
  | none => simp only [compareFieldValues, ha]
  | some x =>
    cases hb : BinaryFormat.double.read? b with
    | none => simp only [compareFieldValues, ha, hb]
    | some y => simp [ha, hb] at h

theorem compareFieldValues_self (a : Option String) : compareFieldValues a a = .eq := by
  have hswap := compareFieldValues_swap a a
  cases h : compareFieldValues a a with
  | eq => rfl
  | lt | gt =>
    rw [h] at hswap
    contradiction

theorem compareFieldValues_eq_lt_of_lt (h : ¬ (IsNumeric a ∧ IsNumeric b)) (hlt : a < b) :
    compareFieldValues (some a) (some b) = .lt :=
  (compareFieldValues_of_not_isNumeric h).trans (compareOfLessAndEq_eq_lt.2 hlt)

/-- A text and a number are never equal. -/
theorem lt_of_compareFieldValues (h : ¬ (IsNumeric a ↔ IsNumeric b))
    (hle : compareFieldValues (some a) (some b) ≠ .gt) : a < b := by
  have hne : a ≠ b := fun heq => h (heq ▸ Iff.rfl)
  rw [compareFieldValues_of_not_isNumeric fun hboth => h (iff_of_true hboth.1 hboth.2)] at hle
  cases hcompare : compare a b with
  | lt => exact compareOfLessAndEq_eq_lt.1 hcompare
  | eq => exact absurd (Std.compare_eq_iff_eq.1 hcompare) hne
  | gt => exact absurd hcompare hle

end Compare

/-! ## Values in an order -/

/-- Comparing is a consistent order on some values: a value is equal to itself, what changes places compares
the other way round, and both what is not greater and what is equal are handed on. -/
structure IsConsistentOn (values : Set (Option String)) : Prop where
  refl : ∀ a ∈ values, compareFieldValues a a = .eq
  swap : ∀ a ∈ values, ∀ b ∈ values, compareFieldValues b a = (compareFieldValues a b).swap
  trans : ∀ a ∈ values, ∀ b ∈ values, ∀ c ∈ values,
    compareFieldValues a b ≠ .gt → compareFieldValues b c ≠ .gt → compareFieldValues a c ≠ .gt
  trans_eq : ∀ a ∈ values, ∀ b ∈ values, ∀ c ∈ values,
    compareFieldValues a b = .eq → compareFieldValues b c = .eq → compareFieldValues a c = .eq

/-- Numbers and texts among some values do not disturb one another. -/
structure FitsTogether (values : Set (Option String)) : Prop where
  /-- Where there is a NaN, all numbers are equal. -/
  eq_of_isNan : ∀ a b c, some a ∈ values → some b ∈ values → some c ∈ values → IsNan a →
    IsNumeric b → IsNumeric c → compareFieldValues (some b) (some c) = .eq
  /-- A text between two numbers finds them in their own order. -/
  lt_of_between : ∀ a b c, some a ∈ values → some b ∈ values → some c ∈ values → IsNumeric a →
    ¬ IsNumeric b → IsNumeric c → a < b → b < c → compareFieldValues (some a) (some c) = .lt

namespace FitsTogether

variable {values : Set (Option String)} {a b c : String}

/-- Numbers that fit together are ordered, with a NaN among them or not. -/
theorem trans_of_isNumeric (h : FitsTogether values) (ha : some a ∈ values) (hb : some b ∈ values)
    (hc : some c ∈ values) (hna : IsNumeric a) (hnb : IsNumeric b) (hnc : IsNumeric c)
    (hab : compareFieldValues (some a) (some b) ≠ .gt)
    (hbc : compareFieldValues (some b) (some c) ≠ .gt) :
    compareFieldValues (some a) (some c) ≠ .gt := by
  by_cases hnan : IsNan b
  · rw [h.eq_of_isNan b a c hb ha hc hnan hna hnc]
    nofun
  · obtain ⟨x, hx⟩ := Option.isSome_iff_exists.1 hna
    obtain ⟨y, hy⟩ := Option.isSome_iff_exists.1 hnb
    obtain ⟨z, hz⟩ := Option.isSome_iff_exists.1 hnc
    have hne : y ≠ .nan := fun heq => hnan (hy.trans (congrArg some heq))
    rw [compareFieldValues_of_read? hx hy, getD_eq_ne_gt_iff] at hab
    rw [compareFieldValues_of_read? hy hz, getD_eq_ne_gt_iff] at hbc
    rw [compareFieldValues_of_read? hx hz, getD_eq_ne_gt_iff]
    exact BinaryFloat.compare?_trans hne hab hbc

/-- Numbers with a text between them are in their own order. -/
theorem lt_of_text (h : FitsTogether values) (ha : some a ∈ values) (hb : some b ∈ values)
    (hc : some c ∈ values) (hna : IsNumeric a) (hnb : ¬ IsNumeric b) (hnc : IsNumeric c)
    (hab : compareFieldValues (some a) (some b) ≠ .gt)
    (hbc : compareFieldValues (some b) (some c) ≠ .gt) :
    compareFieldValues (some a) (some c) = .lt :=
  h.lt_of_between a b c ha hb hc hna hnb hnc
    (lt_of_compareFieldValues (fun hiff => hnb (hiff.1 hna)) hab)
    (lt_of_compareFieldValues (fun hiff => hnb (hiff.2 hnc)) hbc)

/-- Where numbers and texts fit together, what is not greater is handed on. -/
theorem trans (h : FitsTogether values) (ha : some a ∈ values) (hb : some b ∈ values)
    (hc : some c ∈ values) (hab : compareFieldValues (some a) (some b) ≠ .gt)
    (hbc : compareFieldValues (some b) (some c) ≠ .gt) :
    compareFieldValues (some a) (some c) ≠ .gt := by
  intro hac
  have hca : compareFieldValues (some c) (some a) = .lt := by
    rw [compareFieldValues_swap, hac]
    rfl
  have hca' : compareFieldValues (some c) (some a) ≠ .gt := by
    rw [hca]
    nofun
  -- They go round in a circle. If two of them are numbers, the third stands between these.
  by_cases hall : IsNumeric a ∧ IsNumeric b ∧ IsNumeric c
  · exact h.trans_of_isNumeric ha hb hc hall.1 hall.2.1 hall.2.2 hab hbc hac
  by_cases hfirst : IsNumeric a ∧ IsNumeric b
  · have hnc : ¬ IsNumeric c := fun hnc => hall ⟨hfirst.1, hfirst.2, hnc⟩
    have hba := h.lt_of_text hb hc ha hfirst.2 hnc hfirst.1 hbc hca'
    rw [compareFieldValues_swap, hba] at hab
    exact hab rfl
  by_cases hlast : IsNumeric b ∧ IsNumeric c
  · have hna : ¬ IsNumeric a := fun hna => hfirst ⟨hna, hlast.1⟩
    have hcb := h.lt_of_text hc ha hb hlast.2 hna hlast.1 hca' hab
    rw [compareFieldValues_swap, hcb] at hbc
    exact hbc rfl
  by_cases hends : IsNumeric a ∧ IsNumeric c
  · have hnb : ¬ IsNumeric b := fun hnb => hfirst ⟨hends.1, hnb⟩
    rw [h.lt_of_text ha hb hc hends.1 hnb hends.2 hab hbc] at hac
    contradiction
  rw [compareFieldValues_of_not_isNumeric hfirst] at hab
  rw [compareFieldValues_of_not_isNumeric hlast] at hbc
  rw [compareFieldValues_of_not_isNumeric hends] at hac
  have hle := Std.TransCmp.isLE_trans (Ordering.isLE_iff_ne_gt.2 hab) (Ordering.isLE_iff_ne_gt.2 hbc)
  rw [hac] at hle
  contradiction

/-- So comparing is transitive on all texts among the values. -/
theorem isTransitiveOn (h : FitsTogether values) {texts : List String}
    (htexts : ∀ text ∈ texts, some text ∈ values) : IsTransitiveOn texts :=
  fun a ha b hb c hc => h.trans (htexts a ha) (htexts b hb) (htexts c hc)

end FitsTogether

/-- Since comparing is reflexive and oriented, an order on some values only has to be transitive. -/
theorem isConsistentOn_of_trans {values : Set (Option String)}
    (h : ∀ a ∈ values, ∀ b ∈ values, ∀ c ∈ values, compareFieldValues a b ≠ .gt →
      compareFieldValues b c ≠ .gt → compareFieldValues a c ≠ .gt) : IsConsistentOn values where
  refl a _ := compareFieldValues_self a
  swap a _ b _ := compareFieldValues_swap a b
  trans := h
  trans_eq a ha b hb c hc hab hbc := by
    have hac := h a ha b hb c hc (by simp [hab]) (by simp [hbc])
    have hca := h c hc b hb a ha (by simp [compareFieldValues_swap b c, hbc])
      (by simp [compareFieldValues_swap a b, hab])
    rw [compareFieldValues_swap a c] at hca
    cases horder : compareFieldValues a c with
    | eq => rfl
    | lt => simp [horder] at hca
    | gt => exact absurd horder hac

/-- Comparing is a consistent order on some values exactly if numbers and texts fit together among them. -/
theorem isConsistentOn_iff (values : Set (Option String)) :
    IsConsistentOn values ↔ FitsTogether values := by
  constructor
  · intro h
    refine ⟨?_, ?_⟩
    · intro a b c ha hb hc hnan hnb hnc
      obtain ⟨x, hx⟩ := Option.isSome_iff_exists.1 hnb
      obtain ⟨z, hz⟩ := Option.isSome_iff_exists.1 hnc
      have hba : compareFieldValues (some b) (some a) = .eq := by
        rw [compareFieldValues_of_read? hx hnan, BinaryFloat.compare?_nan]
        rfl
      have hac : compareFieldValues (some a) (some c) = .eq := compareFieldValues_of_read? hnan hz
      exact h.trans_eq _ hb _ ha _ hc hba hac
    · intro a b c ha hb hc hna hnb hnc hab hbc
      have hlow : compareFieldValues (some a) (some b) = .lt :=
        compareFieldValues_eq_lt_of_lt (fun hboth => hnb hboth.2) hab
      have hhigh : compareFieldValues (some b) (some c) = .lt :=
        compareFieldValues_eq_lt_of_lt (fun hboth => hnb hboth.1) hbc
      have hle := h.trans _ ha _ hb _ hc (by simp [hlow]) (by simp [hhigh])
      cases hac : compareFieldValues (some a) (some c) with
      | lt => rfl
      | gt => exact absurd hac hle
      | eq =>
        have hcb := h.trans _ hc _ ha _ hb (by simp [compareFieldValues_swap (some a), hac])
          (by simp [hlow])
        rw [compareFieldValues_swap (some b), hhigh] at hcb
        exact absurd rfl hcb
  · intro h
    refine isConsistentOn_of_trans fun a ha b hb c hc => ?_
    have htransitive : IsTransitiveOn [a, b, c].reduceOption := by
      apply h.isTransitiveOn
      intro text htext
      rw [List.reduceOption_mem_iff] at htext
      obtain rfl | rfl | rfl : some text = a ∨ some text = b ∨ some text = c := by
        simpa using htext
      all_goals assumption
    apply htransitive.of_option <;>
    · intro text htext
      rw [List.reduceOption_mem_iff, ← Option.mem_def.1 htext]
      simp

/-- Two numbers that a text stands between as no number does, and two numbers that a NaN ties together. -/
theorem compareFieldValues_goes_round :
    compareFieldValues (some "10") (some "9a") = .lt ∧
      compareFieldValues (some "9a") (some "9e0") = .lt ∧
      compareFieldValues (some "10") (some "9e0") = .gt ∧
    compareFieldValues (some "1") (some "NaN") = .eq ∧
      compareFieldValues (some "NaN") (some "2") = .eq ∧
      compareFieldValues (some "1") (some "2") = .lt := by
  decide +kernel

end RecordSearch
