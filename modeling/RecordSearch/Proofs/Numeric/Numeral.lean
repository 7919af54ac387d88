import Mathlib.Data.List.Basic
import RecordSearch.Clause.Scalar

/-!
# What numbers are written with

A number in a query is written with digits, signs, points and the letters of infinity and not-a-number.
No such character has a meaning inside a range, so a range can be read without knowing how numbers are
written.

## Main results

* `Number.isNumeral_render` — the characters of a number.
* `Number.notMem_render` — a number holds nothing else, such as a blank or a bracket.
-/

namespace RecordSearch

/-- A digit, a sign, a point, or a letter of `NaN` or `inf`. -/
def isNumeralChar (c : Char) : Bool :=
  c.isDigit || ['+', '-', '.', 'N', 'a', 'i', 'n', 'f'].contains c

/-- A text of such characters only. -/
def IsNumeral (text : String) : Prop :=
  ∀ c ∈ text.toList, isNumeralChar c = true

instance (text : String) : Decidable (IsNumeral text) :=
  decidable_of_iff (text.toList.all isNumeralChar = true) List.all_eq_true

theorem IsNumeral.append {s t : String} (hs : IsNumeral s) (ht : IsNumeral t) :
    IsNumeral (s ++ t) := by
  intro c hc
  rw [String.toList_append] at hc
  exact (List.mem_append.1 hc).elim (hs c) (ht c)

theorem isNumeral_ofList {cs : List Char} :
    IsNumeral (String.ofList cs) ↔ ∀ c ∈ cs, isNumeralChar c = true := by
  rw [IsNumeral, String.toList_ofList]

theorem isNumeralChar_of_mem_toDigits {c : Char} {n : Nat} (h : c ∈ Nat.toDigits 10 n) :
    isNumeralChar c = true := by
  have hdigit := Nat.isDigit_of_mem_toDigits (by decide) (by decide) h
  simp [isNumeralChar, hdigit]

theorem isNumeralChar_of_mem_zeros {c : Char} {n : Nat} (h : c ∈ List.replicate n '0') :
    isNumeralChar c = true := by
  rw [List.eq_of_mem_replicate h]
  rfl

theorem isNumeral_repr (n : Nat) : IsNumeral n.repr := by
  intro c hc
  rw [Nat.toList_repr] at hc
  exact isNumeralChar_of_mem_toDigits hc

theorem isNumeral_toString_int (n : Int) : IsNumeral (toString n) := by
  cases n with
  | ofNat m => exact isNumeral_repr m
  | negSucc m => exact IsNumeral.append (by decide) (isNumeral_repr (m + 1))

namespace DecimalLayout

/-- Positional notation adds zeros and a point to the digits. -/
theorem isNumeral_renderPositional {digits : List Char} (point : Int)
    (hdigits : ∀ c ∈ digits, isNumeralChar c = true) :
    IsNumeral (plain.renderPositional digits point) := by
  have hzeros (cs : List Char) (n : Nat) (hcs : ∀ c ∈ cs, isNumeralChar c = true) :
      ∀ c ∈ cs ++ List.replicate n '0', isNumeralChar c = true := by
    intro c hc
    exact (List.mem_append.1 hc).elim (hcs c) isNumeralChar_of_mem_zeros
  have hwhole := hzeros (digits.take point.toNat)
    (point.toNat - (digits.take point.toNat).length) fun c hc => hdigits c (List.mem_of_mem_take hc)
  -- The point stands before all digits, behind all of them, or among them.
  unfold renderPositional
  dsimp only
  split
  · refine IsNumeral.append (by decide) (isNumeral_ofList.2 fun c hc => ?_)
    exact (List.mem_append.1 hc).elim isNumeralChar_of_mem_zeros (hdigits c)
  · split
    · exact IsNumeral.append (isNumeral_ofList.2 hwhole) (by decide)
    · refine isNumeral_ofList.2 fun c hc => ?_
      rcases List.mem_append.1 hc with hc | hc
      · exact hwhole c hc
      · rcases List.mem_cons.1 hc with rfl | hc
        · rfl
        · exact hdigits c (List.mem_of_mem_drop hc)

theorem isNumeral_renderDecimal (d : Decimal) : IsNumeral (plain.renderDecimal d) := by
  unfold renderDecimal
  dsimp only
  rw [if_pos (by rfl)]
  apply isNumeral_renderPositional
  intro c hc
  have hwritten := (List.dropWhile_suffix _).subset (List.mem_reverse.1 hc)
  exact isNumeralChar_of_mem_toDigits (List.mem_reverse.1 hwritten)

theorem isNumeral_render (x : BinaryFloat) : IsNumeral (plain.render x) := by
  cases x with
  | nan => decide
  | infinite negative => cases negative <;> decide
  | finite negative mantissa exponent =>
    refine IsNumeral.append (by cases negative <;> decide) ?_
    split
    · decide
    · exact isNumeral_renderDecimal _

/-- Positional notation writes at least a zero. -/
theorem renderPositional_ne_empty (l : DecimalLayout) (digits : List Char) (point : Int) :
    l.renderPositional digits point ≠ "" := by
  unfold renderPositional
  dsimp only
  split
  · simp
  · next hpoint =>
    have hlength : 0 < (digits.take point.toNat ++
        List.replicate (point.toNat - (digits.take point.toNat).length) '0').length := by
      rw [List.length_append, List.length_replicate]
      omega
    have hne := List.ne_nil_of_length_pos hlength
    split <;> simp_all

theorem render_ne_empty (x : BinaryFloat) : plain.render x ≠ "" := by
  cases x with
  | nan => decide
  | infinite negative => cases negative <;> decide
  | finite negative mantissa exponent =>
    unfold render
    intro h
    rw [String.append_eq_empty_iff] at h
    obtain ⟨-, h⟩ := h
    split at h
    · contradiction
    · exact renderPositional_ne_empty _ _ _ h

end DecimalLayout

namespace Number

theorem toString_int_ne_empty (n : Int) : toString n ≠ "" := by
  intro h
  cases n with
  | ofNat m =>
    have hdigits : Nat.toDigits 10 m = [] := by
      rw [← Nat.toList_repr]
      exact String.toList_eq_nil_iff.2 h
    exact Nat.toDigits_ne_nil hdigits
  | negSucc m =>
    have hsign : "-" ++ (m + 1).repr = "" := h
    rw [String.append_eq_empty_iff] at hsign
    exact absurd hsign.1 (by decide)

/-- A number is written with at least one character. -/
theorem render_ne_empty (n : Number) : n.render ≠ "" := by
  match n with
  | .integer n => exact toString_int_ne_empty n
  | .float (.infinite negative) => cases negative <;> decide
  | .float .nan => exact DecimalLayout.render_ne_empty .nan
  | .float (.finite negative mantissa exponent) =>
    exact DecimalLayout.render_ne_empty (.finite negative mantissa exponent)

/-- A number is written with numerals. -/
theorem isNumeral_render (n : Number) : IsNumeral n.render := by
  match n with
  | .integer n => exact isNumeral_toString_int n
  | .float (.infinite negative) => cases negative <;> decide
  | .float .nan => exact DecimalLayout.isNumeral_render .nan
  | .float (.finite negative mantissa exponent) =>
    exact DecimalLayout.isNumeral_render (.finite negative mantissa exponent)

/-- What is no numeral is not in the text of a number. -/
theorem notMem_render (n : Number) {c : Char} (h : isNumeralChar c = false) :
    c ∉ n.render.toList := by
  intro hc
  rw [n.isNumeral_render c hc] at h
  contradiction

end Number

end RecordSearch
