import RecordSearch.Numeric.Shortest
import RecordSearch.Proofs.Numeric.Rounding

/-!
# How far a shortest decimal is off

Whatever decimal is chosen for a binary number reads back as it, so it is at most half a unit in the last
place away. A whole number is on the grid of units, which is tried before all finer ones, so that its
decimal is a whole number too.

## Main definitions

* `Decimal.value` — the rational number that a decimal stands for.

## Main results

* `abs_shortest_sub_le` — the decimal is at most half a unit away.
* `exists_shortest_eq_nat` — whole numbers have whole decimals.
-/

namespace RecordSearch

/-- The rational number that a decimal stands for. -/
def Decimal.value (d : Decimal) : ℚ :=
  d.digits * 10 ^ d.exponent

namespace ReadingInterval

variable {i : ReadingInterval} {n digits : ℕ} {k : ℤ} {d : Decimal}

theorem ratio_snd_pos (i : ReadingInterval) (n : ℕ) (k : ℤ) : 0 < (i.ratio n k).2 := by
  simp only [ratio, Nat.shiftLeft_eq, Nat.pow_eq]
  positivity

/-- The ratio is that of a multiple of the unit and a power of ten. -/
theorem ratio_div (i : ReadingInterval) (n : ℕ) (k : ℤ) :
    ((i.ratio n k).1 : ℚ) / (i.ratio n k).2 = n * 2 ^ i.scale / 10 ^ k := by
  have hten : ((10 ^ (-k).toNat : ℕ) : ℚ) / ((10 ^ k.toNat : ℕ) : ℚ) = (10 ^ k)⁻¹ := by
    cases k with
    | ofNat j => simp
    | negSucc j => simp [zpow_negSucc, Int.neg_negSucc]
  have htwo := shiftLeft_div_shiftLeft n 1 (-i.scale)
  rw [neg_neg, Nat.cast_one, div_one, zpow_neg, div_inv_eq_mul, cast_shiftLeft] at htwo
  simp only [ratio, Nat.pow_eq]
  rw [Nat.cast_mul, cast_shiftLeft, cast_shiftLeft, ← htwo, cast_shiftLeft]
  rw [div_eq_mul_inv _ ((10 : ℚ) ^ k), ← hten]
  push_cast
  field_simp

theorem ratio_fst_le_iff :
    (i.ratio n k).1 ≤ digits * (i.ratio n k).2 ↔ (n * 2 ^ i.scale : ℚ) ≤ digits * 10 ^ k := by
  have hden : (0 : ℚ) < (i.ratio n k).2 := by exact_mod_cast i.ratio_snd_pos n k
  rw [← Nat.cast_le (α := ℚ), Nat.cast_mul, ← div_le_iff₀ hden, ratio_div,
    div_le_iff₀ (by positivity)]

theorem le_ratio_fst_iff :
    digits * (i.ratio n k).2 ≤ (i.ratio n k).1 ↔ (digits * 10 ^ k : ℚ) ≤ n * 2 ^ i.scale := by
  have hden : (0 : ℚ) < (i.ratio n k).2 := by exact_mod_cast i.ratio_snd_pos n k
  rw [← Nat.cast_le (α := ℚ), Nat.cast_mul, ← le_div_iff₀ hden, ratio_div,
    le_div_iff₀ (by positivity)]

/-- A decimal is held by an interval if it stands between the two ends. -/
theorem holds_iff :
    i.holds digits k = true ↔
      if i.closed = true then
        (i.low * 2 ^ i.scale : ℚ) ≤ digits * 10 ^ k ∧ (digits * 10 ^ k : ℚ) ≤ i.high * 2 ^ i.scale
      else
        (i.low * 2 ^ i.scale : ℚ) < digits * 10 ^ k ∧
          (digits * 10 ^ k : ℚ) < i.high * 2 ^ i.scale := by
  have hsnd : (i.ratio i.low k).2 = (i.ratio i.high k).2 := rfl
  unfold holds
  dsimp only
  split
  · rw [Bool.and_eq_true, decide_eq_true_iff, decide_eq_true_iff, ratio_fst_le_iff, hsnd,
      le_ratio_fst_iff]
  · rw [Bool.and_eq_true, decide_eq_true_iff, decide_eq_true_iff, ← not_le, le_ratio_fst_iff, hsnd,
      ← not_le, ratio_fst_le_iff, not_le, not_le]

theorem holds_of_lt (hlow : (i.low * 2 ^ i.scale : ℚ) < digits * 10 ^ k)
    (hhigh : (digits * 10 ^ k : ℚ) < i.high * 2 ^ i.scale) : i.holds digits k = true := by
  rw [holds_iff]
  split
  · exact ⟨hlow.le, hhigh.le⟩
  · exact ⟨hlow, hhigh⟩

theorem le_of_holds (h : i.holds digits k = true) :
    (i.low * 2 ^ i.scale : ℚ) ≤ digits * 10 ^ k ∧ (digits * 10 ^ k : ℚ) ≤ i.high * 2 ^ i.scale := by
  rw [holds_iff] at h
  split at h
  · exact h
  · exact ⟨h.1.le, h.2.le⟩

/-- What is chosen from a grid is on the grid and in the interval. -/
theorem onGrid?_eq_some (h : i.onGrid? k = some d) : d.exponent = k ∧ i.holds d.digits k = true := by
  unfold onGrid? at h
  dsimp only at h
  split at h
  · next hbelow habove =>
    obtain rfl := Option.some.inj h
    refine ⟨rfl, ?_⟩
    dsimp only
    split
    · exact hbelow
    · exact habove
  · next hbelow _ =>
    obtain rfl := Option.some.inj h
    exact ⟨rfl, hbelow⟩
  · next _ habove =>
    obtain rfl := Option.some.inj h
    exact ⟨rfl, habove⟩
  · contradiction

/-- A grid on which the number itself lies has a point in the interval. -/
theorem onGrid?_ne_none (hlow : i.low < i.centre) (hhigh : i.centre < i.high)
    (hpoint : (digits * 10 ^ k : ℚ) = i.centre * 2 ^ i.scale) : i.onGrid? k ≠ none := by
  have hbelow : (i.ratio i.centre k).1 / (i.ratio i.centre k).2 = digits := by
    have heq := (ratio_fst_le_iff.2 hpoint.ge).antisymm (le_ratio_fst_iff.2 hpoint.le)
    exact Nat.div_eq_of_eq_mul_left (i.ratio_snd_pos _ _) heq
  have hholds : i.holds digits k = true := by
    have hlow' : (i.low : ℚ) < i.centre := by exact_mod_cast hlow
    have hhigh' : (i.centre : ℚ) < i.high := by exact_mod_cast hhigh
    apply holds_of_lt <;> rw [hpoint] <;> exact mul_lt_mul_of_pos_right ‹_› (by positivity)
  unfold onGrid?
  dsimp only
  rw [hbelow, hholds]
  cases i.holds (digits + 1) k <;> simp

theorem value_exact (i : ReadingInterval) : i.exact.value = i.centre * 2 ^ i.scale := by
  unfold exact Decimal.value
  dsimp only
  rw [Nat.cast_mul, cast_shiftLeft, Nat.pow_eq]
  cases i.scale with
  | ofNat j => simp
  | negSucc j =>
    have hmin : min (Int.negSucc j) 0 = Int.negSucc j := by omega
    have hten : (10 : ℚ) ^ (j + 1) = 5 ^ (j + 1) * 2 ^ (j + 1) := by rw [← mul_pow]; norm_num
    rw [hmin, Int.neg_negSucc, zpow_negSucc, zpow_negSucc, hten]
    simp only [Int.toNat_natCast, Int.toNat_negSucc]
    push_cast
    field_simp

theorem le_low_ofDouble (m : ℕ) (e : ℤ) : 4 * m ≤ (ofDouble m e).low + 2 := by
  simp only [ofDouble]
  split <;> omega

theorem low_lt_centre_ofDouble {m : ℕ} (hm : 0 < m) (e : ℤ) :
    (ofDouble m e).low < (ofDouble m e).centre := by
  simp only [ofDouble]
  split <;> omega

/-- The power of ten that the leading digit of a number counts. -/
def leading (i : ReadingInterval) : ℤ :=
  floorLog10 (i.ratio i.centre 0).1 (i.ratio i.centre 0).2

theorem leading_nonneg (h : (1 : ℚ) ≤ i.centre * 2 ^ i.scale) : 0 ≤ i.leading := by
  have hle : (i.ratio i.centre 0).2 ≤ (i.ratio i.centre 0).1 := by
    rw [← one_mul (i.ratio i.centre 0).2, le_ratio_fst_iff, zpow_zero, mul_one, Nat.cast_one]
    exact h
  have hquot : 0 < (i.ratio i.centre 0).1 / (i.ratio i.centre 0).2 :=
    Nat.div_pos hle (i.ratio_snd_pos _ _)
  have hdigits : 0 < (Nat.toDigits 10 ((i.ratio i.centre 0).1 / (i.ratio i.centre 0).2)).length :=
    List.length_pos_of_ne_nil Nat.toDigits_ne_nil
  rw [leading, floorLog10, if_pos hle, digitCount, if_neg hquot.ne']
  omega

end ReadingInterval

/-- The first of the numbers below a bound that a search accepts. -/
theorem exists_of_findSome?_range {α : Type*} {f : ℕ → Option α} {bound : ℕ} {a : α}
    (h : (List.range bound).findSome? f = some a) :
    ∃ n, f n = some a ∧ ∀ j < n, f j = none := by
  obtain ⟨before, n, after, hsplit, hn, hbefore⟩ := List.findSome?_eq_some_iff.1 h
  refine ⟨n, hn, fun j hj => hbefore j ?_⟩
  have hordered := List.pairwise_lt_range (n := bound)
  have hn' : n ∈ List.range bound := hsplit ▸ by simp
  have hj' : j ∈ List.range bound := List.mem_range.2 (hj.trans (List.mem_range.1 hn'))
  rw [hsplit] at hordered hj'
  rcases List.mem_append.1 hj' with hmem | hmem
  · exact hmem
  · rcases List.mem_cons.1 hmem with rfl | hmem
    · exact absurd hj (lt_irrefl _)
    · have hlt := List.rel_of_pairwise_cons (List.pairwise_append.1 hordered).2.1 hmem
      omega

/-- The chosen decimal is on the first grid that has any, or the number itself. -/
theorem shortest_cases (m : ℕ) (e : ℤ) :
    (∃ n : ℕ, (ReadingInterval.ofDouble m e).onGrid? ((ReadingInterval.ofDouble m e).leading - n) =
        some (shortest m e) ∧
      ∀ j < n, (ReadingInterval.ofDouble m e).onGrid?
        ((ReadingInterval.ofDouble m e).leading - (j : ℕ)) = none) ∨
      shortest m e = (ReadingInterval.ofDouble m e).exact := by
  set i := ReadingInterval.ofDouble m e
  have hshortest : shortest m e =
      ((List.range 17).findSome? fun (n : ℕ) => i.onGrid? (i.leading - n)).getD i.exact := rfl
  rw [hshortest]
  cases hfind : (List.range 17).findSome? fun (n : ℕ) => i.onGrid? (i.leading - n) with
  | none => exact .inr rfl
  | some d => exact .inl (exists_of_findSome?_range hfind)

variable {m : ℕ} {e : ℤ}

theorem value_centre (m : ℕ) (e : ℤ) :
    ((ReadingInterval.ofDouble m e).centre * 2 ^ (ReadingInterval.ofDouble m e).scale : ℚ) =
      m * 2 ^ e := by
  have hfour : (2 : ℚ) ^ e = 4 * 2 ^ (e - 2) := by
    rw [zpow_sub₀ (by norm_num)]
    field_simp
    norm_num
  simp only [ReadingInterval.ofDouble]
  push_cast
  rw [hfour]
  ring

/-- A decimal is at most half a unit in the last place away from its number. -/
theorem abs_shortest_sub_le (m : ℕ) (e : ℤ) : |(shortest m e).value - m * 2 ^ e| ≤ 2 ^ (e - 1) := by
  rcases shortest_cases m e with ⟨n, hgrid, -⟩ | hexact
  · obtain ⟨hexponent, hholds⟩ := ReadingInterval.onGrid?_eq_some hgrid
    rw [← hexponent] at hholds
    obtain ⟨hlow, hhigh⟩ := ReadingInterval.le_of_holds hholds
    have hhalf : (2 : ℚ) ^ (e - 1) = 2 * 2 ^ (e - 2) := by
      rw [← two_zpow_add_one]
      congr 1
      omega
    have hwhole := two_zpow_eq_two_mul e
    have hends : (4 * m : ℚ) ≤ (ReadingInterval.ofDouble m e).low + 2 := by
      exact_mod_cast ReadingInterval.le_low_ofDouble m e
    have hpos : (0 : ℚ) < 2 ^ (e - 2) := by positivity
    simp only [ReadingInterval.ofDouble] at hlow hhigh hends
    push_cast at hhigh
    rw [abs_le, Decimal.value]
    constructor <;> nlinarith
  · rw [hexact, ReadingInterval.value_exact, value_centre, sub_self, abs_zero]
    positivity

/-- The decimal of a whole number is whole. -/
theorem exists_shortest_eq_nat {n : ℕ} (hm : 0 < m) (hn : (m * 2 ^ e : ℚ) = n) :
    ∃ j : ℕ, (shortest m e).value = j := by
  set i := ReadingInterval.ofDouble m e with hi
  rcases shortest_cases m e with ⟨steps, hgrid, hfirst⟩ | hexact
  · rw [← hi] at hgrid hfirst
    obtain ⟨hexponent, -⟩ := ReadingInterval.onGrid?_eq_some hgrid
    have hcentre : i.onGrid? 0 ≠ none := by
      have hpoint : (n * 10 ^ (0 : ℤ) : ℚ) = i.centre * 2 ^ i.scale := by
        rw [zpow_zero, mul_one, value_centre, hn]
      exact ReadingInterval.onGrid?_ne_none (ReadingInterval.low_lt_centre_ofDouble hm e)
        (Nat.lt_add_of_pos_right two_pos) hpoint
    have hleading : 0 ≤ i.leading := by
      refine ReadingInterval.leading_nonneg ?_
      have hpos : (0 : ℚ) < n := by
        rw [← hn]
        have : (0 : ℚ) < m := by exact_mod_cast hm
        positivity
      rw [value_centre, hn]
      exact_mod_cast hpos
    -- The grid of units is tried before all finer ones, and the number is on it.
    have hcoarse : steps ≤ i.leading := by
      by_contra! hlt
      apply hcentre
      have := hfirst i.leading.toNat (by omega)
      rwa [Int.toNat_of_nonneg hleading, sub_self] at this
    obtain ⟨k, hk⟩ := Int.eq_ofNat_of_zero_le (sub_nonneg.2 hcoarse)
    refine ⟨(shortest m e).digits * 10 ^ k, ?_⟩
    rw [Decimal.value, hexponent, hk]
    push_cast
    rfl
  · exact ⟨n, by rw [hexact, ReadingInterval.value_exact, value_centre, hn]⟩

end RecordSearch
