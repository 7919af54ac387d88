import Mathlib.Data.List.DropRight
import RecordSearch.Clause.Scalar
import RecordSearch.Proofs.Numeric.ShortestDecimal
import RecordSearch.Proofs.Numeric.Word

/-!
# Decimals read exactly

A decimal text writes a rational number, which is taken here as it stands and not rounded. Integers read
as themselves, and a binary number reads as the shortest decimal that was chosen for it.

## Main definitions

* `exactDecimal?` — the rational number that a text writes.

## Main results

* `exactDecimal?_toString` — integers.
* `exactDecimal?_render` — binary numbers other than zero.
-/

namespace RecordSearch

/-- The rational number that a decimal text writes. -/
def exactDecimal? (text : String) : Option ℚ :=
  let (negative, body) := splitSign text.toList
  (readDecimal? body).map fun (digits, exponent) => signOf negative * (digits * 10 ^ exponent)

/-! ## Runs of digits -/

theorem ofDigits_concat_zero (cs : List Char) : ofDigits (cs ++ ['0']) = 10 * ofDigits cs := by
  simp [ofDigits, List.foldl_append]

theorem ofDigits_append_zeros (cs : List Char) (k : ℕ) :
    ofDigits (cs ++ List.replicate k '0') = ofDigits cs * 10 ^ k := by
  induction k with
  | zero => simp
  | succ k ih =>
    rw [List.replicate_succ', ← List.append_assoc, ofDigits_concat_zero, ih]
    ring

theorem ofDigits_zeros_append (cs : List Char) (k : ℕ) :
    ofDigits (List.replicate k '0' ++ cs) = ofDigits cs := by
  induction k with
  | zero => rfl
  | succ k ih => rwa [List.replicate_succ, List.cons_append]

theorem isDigit_of_mem_zeros {k : ℕ} : ∀ c ∈ List.replicate k '0', c.isDigit = true := by
  intro c hc
  rw [List.eq_of_mem_replicate hc]
  rfl

variable {whole fraction : List Char}

theorem readDecimal?_whole (hwhole : ∀ c ∈ whole, c.isDigit = true) (hne : whole ≠ []) :
    readDecimal? whole = some (ofDigits whole, 0) := by
  have htake : whole.takeWhile Char.isDigit = whole := List.takeWhile_eq_self_iff.2 hwhole
  have hdrop : whole.dropWhile Char.isDigit = [] := List.dropWhile_eq_nil_iff.2 hwhole
  simp [readDecimal?, htake, hdrop, hne, readExponent?]

theorem readDecimal?_point (hwhole : ∀ c ∈ whole, c.isDigit = true)
    (hfraction : ∀ c ∈ fraction, c.isDigit = true) (hne : whole ≠ []) :
    readDecimal? (whole ++ '.' :: fraction) =
      some (ofDigits (whole ++ fraction), -(fraction.length : ℤ)) := by
  have hpoint : Char.isDigit '.' = false := rfl
  have htake : (whole ++ '.' :: fraction).takeWhile Char.isDigit = whole := by
    rw [List.takeWhile_append_of_pos hwhole, List.takeWhile_cons, hpoint]
    simp
  have hdrop : (whole ++ '.' :: fraction).dropWhile Char.isDigit = '.' :: fraction := by
    rw [List.dropWhile_append_of_pos hwhole, List.dropWhile_cons, hpoint]
    simp
  have htake' : fraction.takeWhile Char.isDigit = fraction := List.takeWhile_eq_self_iff.2 hfraction
  have hdrop' : fraction.dropWhile Char.isDigit = [] := List.dropWhile_eq_nil_iff.2 hfraction
  simp [readDecimal?, htake, hdrop, htake', hdrop', hne, readExponent?]

/-- What begins with a sign is no unsigned decimal. -/
theorem splitSign_of_readDecimal? {cs : List Char} {r : ℕ × ℤ} (h : readDecimal? cs = some r) :
    splitSign cs = (false, cs) := by
  unfold splitSign
  split
  · simp [readDecimal?] at h
  · simp [readDecimal?] at h
  · rfl

theorem exactDecimal?_of_readDecimal? {text : String} {n : ℕ} {k : ℤ}
    (h : readDecimal? text.toList = some (n, k)) : exactDecimal? text = some (n * 10 ^ k : ℚ) := by
  simp [exactDecimal?, splitSign_of_readDecimal? h, h]

theorem exactDecimal?_neg_of_readDecimal? {text : String} {n : ℕ} {k : ℤ}
    (h : readDecimal? text.toList = some (n, k)) :
    exactDecimal? ("-" ++ text) = some (-(n * 10 ^ k) : ℚ) := by
  simp [exactDecimal?, splitSign, h]

/-- An integer reads as itself. -/
theorem exactDecimal?_toString (v : ℤ) : exactDecimal? (toString v) = some (v : ℚ) := by
  have hread (n : ℕ) : readDecimal? n.repr.toList = some (n, 0) := by
    rw [Nat.toList_repr, readDecimal?_whole _ Nat.toDigits_ne_nil, ofDigits_toDigits]
    exact fun c hc => Nat.isDigit_of_mem_toDigits (by decide) (by decide) hc
  cases v with
  | ofNat n =>
    have htext : exactDecimal? n.repr = some (n * 10 ^ (0 : ℤ) : ℚ) :=
      exactDecimal?_of_readDecimal? (hread n)
    rw [zpow_zero, mul_one] at htext
    exact htext
  | negSucc n =>
    have htext : exactDecimal? ("-" ++ (n + 1).repr) = some (-((n + 1 : ℕ) * 10 ^ (0 : ℤ)) : ℚ) :=
      exactDecimal?_neg_of_readDecimal? (hread (n + 1))
    rw [zpow_zero, mul_one] at htext
    rw [Int.cast_negSucc]
    exact htext

/-! ## Positional notation -/

namespace DecimalLayout

theorem toList_renderPositional_of_nonpos (digits : List Char) {point : ℤ} (h : point ≤ 0) :
    (plain.renderPositional digits point).toList =
      ['0'] ++ '.' :: (List.replicate (-point).toNat '0' ++ digits) := by
  rw [renderPositional, if_pos h]
  simp

theorem toList_renderPositional_of_length_le {digits : List Char} {p : ℕ} (hp : 0 < p)
    (h : digits.length ≤ p) :
    (plain.renderPositional digits p).toList =
      digits ++ List.replicate (p - digits.length) '0' := by
  rw [renderPositional, if_neg (by omega)]
  simp [List.take_of_length_le h, List.drop_of_length_le h, plain]

theorem toList_renderPositional_of_lt_length {digits : List Char} {p : ℕ} (hp : 0 < p)
    (h : p < digits.length) :
    (plain.renderPositional digits p).toList = digits.take p ++ '.' :: digits.drop p := by
  have hdrop : (digits.drop p).isEmpty = false := by
    rw [List.isEmpty_eq_false_iff, ne_eq, List.drop_eq_nil_iff]
    omega
  rw [renderPositional, if_neg (by omega)]
  dsimp only
  rw [Int.toNat_natCast, hdrop, List.length_take_of_le h.le]
  simp

/-- Positional notation writes the digits at the place that the point gives them. -/
theorem exists_readDecimal?_renderPositional {digits : List Char}
    (hdigits : ∀ c ∈ digits, c.isDigit = true) (point : ℤ) :
    ∃ n k, readDecimal? (plain.renderPositional digits point).toList = some (n, k) ∧
      (n * 10 ^ k : ℚ) = ofDigits digits * 10 ^ (point - digits.length) := by
  rcases le_or_gt point 0 with hpoint | hpoint
  · have hzero : ∀ c ∈ ['0'], c.isDigit = true := isDigit_of_mem_zeros (k := 1)
    rw [toList_renderPositional_of_nonpos digits hpoint,
      readDecimal?_point hzero (List.forall_mem_append.2 ⟨isDigit_of_mem_zeros, hdigits⟩)
        (List.cons_ne_nil _ _)]
    refine ⟨_, _, rfl, ?_⟩
    have hvalue : ofDigits (['0'] ++ (List.replicate (-point).toNat '0' ++ digits)) =
        ofDigits digits := ofDigits_zeros_append digits ((-point).toNat + 1)
    rw [hvalue, List.length_append, List.length_replicate]
    congr 2
    push_cast
    omega
  · obtain ⟨p, rfl⟩ := Int.eq_ofNat_of_zero_le hpoint.le
    have hp : 0 < p := by omega
    rcases le_or_gt digits.length p with hlength | hlength
    · rw [toList_renderPositional_of_length_le hp hlength, readDecimal?_whole]
      · refine ⟨_, _, rfl, ?_⟩
        rw [ofDigits_append_zeros, zpow_zero, mul_one, ← Nat.cast_sub hlength, zpow_natCast]
        push_cast
        rfl
      · exact List.forall_mem_append.2 ⟨hdigits, isDigit_of_mem_zeros⟩
      · apply List.ne_nil_of_length_pos
        rw [List.length_append, List.length_replicate]
        omega
    · have htake : digits.take p ≠ [] := by
        apply List.ne_nil_of_length_pos
        rw [List.length_take_of_le hlength.le]
        exact hp
      rw [toList_renderPositional_of_lt_length hp hlength,
        readDecimal?_point (fun c hc => hdigits c (List.mem_of_mem_take hc))
          (fun c hc => hdigits c (List.mem_of_mem_drop hc)) htake, List.take_append_drop]
      refine ⟨_, _, rfl, ?_⟩
      rw [List.length_drop]
      congr 2
      omega

/-- A decimal reads as what it stands for. -/
theorem exists_readDecimal?_renderDecimal (d : Decimal) :
    ∃ n k, readDecimal? (plain.renderDecimal d).toList = some (n, k) ∧ (n * 10 ^ k : ℚ) = d.value := by
  set written := Nat.toDigits 10 d.digits with hwritten
  set digits := written.rdropWhile (· = '0') with hdigits
  set zeros := written.rtakeWhile (· = '0') with hzeros
  have hsplit : digits ++ zeros = written := List.rdropWhile_append_rtakeWhile
  have hdropped : zeros = List.replicate zeros.length '0' := by
    refine List.eq_replicate_of_mem fun c hc => ?_
    simpa using List.mem_rtakeWhile_imp hc
  have hall : ∀ c ∈ written, c.isDigit = true := fun c hc =>
    Nat.isDigit_of_mem_toDigits (by decide) (by decide) hc
  rw [← hsplit] at hall
  obtain ⟨n, k, hread, hvalue⟩ := exists_readDecimal?_renderPositional
    (List.forall_mem_append.1 hall).1 (d.exponent + written.length)
  refine ⟨n, k, hread, ?_⟩
  -- The zeros that are dropped move the point by as many places.
  have hlength : d.exponent + written.length - digits.length = zeros.length + d.exponent := by
    rw [← hsplit, List.length_append]
    push_cast
    ring
  have hnumber : (ofDigits digits : ℚ) * 10 ^ zeros.length = d.digits := by
    rw [← ofDigits_toDigits d.digits, ← hwritten, ← hsplit, hdropped, ofDigits_append_zeros,
      List.length_replicate]
    push_cast
    rfl
  rw [hvalue, hlength, zpow_add₀ (by norm_num), zpow_natCast, ← mul_assoc, hnumber, Decimal.value]

end DecimalLayout

/-- A binary number other than zero reads as the decimal that was chosen for it. -/
theorem exactDecimal?_render {negative : Bool} {m : ℕ} {e : ℤ} (hm : 0 < m) :
    exactDecimal? (DecimalLayout.plain.render (.finite negative m e)) =
      some (signOf negative * (shortest m e).value) := by
  obtain ⟨n, k, hread, hvalue⟩ := DecimalLayout.exists_readDecimal?_renderDecimal (shortest m e)
  rw [DecimalLayout.render, if_neg hm.ne', ← hvalue]
  cases negative
  · simpa using exactDecimal?_of_readDecimal? hread
  · simpa using exactDecimal?_neg_of_readDecimal? hread

end RecordSearch
