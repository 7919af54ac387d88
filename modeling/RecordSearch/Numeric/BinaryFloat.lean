/-!
# Binary floating-point numbers

Numbers are kept as a sign, a natural mantissa and a power of two, and every result is the exact one
rounded once. Rounding is therefore the only place where anything is lost, and its laws are about
natural numbers.

## Main definitions

* `BinaryFloat` — a signed dyadic number, an infinity, or not a number.
* `BinaryFormat` — how many mantissa bits a format keeps and which exponents it has.
* `BinaryFormat.round` — the number of a format nearest to a quotient, a tie to the even mantissa.
* `BinaryFormat.add`, `BinaryFormat.mul` — the exact sum and product, rounded.
* `BinaryFloat.compare?` — the order of two numbers, absent where one is not a number.
-/

namespace RecordSearch

/-- A floating-point number: a signed `mantissa * 2 ^ exponent`, an infinity, or not a number. -/
inductive BinaryFloat where
  | finite (negative : Bool) (mantissa : Nat) (exponent : Int)
  | infinite (negative : Bool)
  | nan
  deriving DecidableEq, Repr, Inhabited

/-- A binary format: mantissas below `2 ^ precision`, exponents between the two bounds. -/
structure BinaryFormat where
  precision : Nat
  minExponent : Int
  maxExponent : Int
  deriving DecidableEq, Repr

/-- The natural number nearest to `num / den`; a half goes to the even neighbour. -/
def roundQuotient (num den : Nat) : Nat :=
  let quotient := num / den
  let rest := num % den
  if 2 * rest < den then quotient
  else if den < 2 * rest then quotient + 1
  else quotient + quotient % 2

/-- Rounding moves a quotient by at most one half. -/
theorem roundQuotient_near (num den : Nat) (hden : 0 < den) :
    2 * (roundQuotient num den * den) ≤ 2 * num + den ∧
      2 * num ≤ 2 * (roundQuotient num den * den) + den := by
  have hsplit := Nat.div_add_mod num den
  have hrest := Nat.mod_lt num hden
  rw [Nat.mul_comm] at hsplit
  simp only [roundQuotient]
  split
  · omega
  · split
    · rw [Nat.add_mul]; omega
    · rcases Nat.mod_two_eq_zero_or_one (num / den) with h | h <;> rw [h]
      · simp only [Nat.add_zero]; omega
      · rw [Nat.add_mul]; omega

/-- The exponent of the greatest power of two that is at most `num / den`. -/
def floorLog2 (num den : Nat) : Int :=
  let guess : Int := (num.log2 : Int) - (den.log2 : Int)
  if num <<< (-guess).toNat < den <<< guess.toNat then guess - 1 else guess

namespace BinaryFormat

/-- Twenty-four mantissa bits in four bytes. -/
def single : BinaryFormat := ⟨24, -149, 104⟩

/-- Fifty-three mantissa bits in eight bytes. -/
def double : BinaryFormat := ⟨53, -1074, 971⟩

/-- The zero of a sign. -/
def zero (f : BinaryFormat) (negative : Bool) : BinaryFloat :=
  .finite negative 0 f.minExponent

/-- Pack a rounded mantissa, which may have just grown by one bit, or overflow. -/
def pack (f : BinaryFormat) (negative : Bool) (mantissa : Nat) (exponent : Int) : BinaryFloat :=
  if mantissa < 1 <<< f.precision then
    if exponent ≤ f.maxExponent then .finite negative mantissa exponent else .infinite negative
  else if exponent + 1 ≤ f.maxExponent then .finite negative (mantissa / 2) (exponent + 1)
  else .infinite negative

/-- The number of the format nearest to `num / den`, a tie to the even mantissa. -/
def round (f : BinaryFormat) (negative : Bool) (num den : Nat) : BinaryFloat :=
  if num = 0 then f.zero negative
  else
    let exponent := max f.minExponent (floorLog2 num den - (f.precision - 1))
    f.pack negative
      (roundQuotient (num <<< (-exponent).toNat) (den <<< exponent.toNat)) exponent

/-- The number nearest to `n * 2 ^ exponent`. -/
def ofScaled (f : BinaryFormat) (negative : Bool) (n : Nat) (exponent : Int) : BinaryFloat :=
  f.round negative (n <<< exponent.toNat) (1 <<< (-exponent).toNat)

/-- The number nearest to an integer. -/
def ofInt (f : BinaryFormat) (n : Int) : BinaryFloat :=
  f.round (n < 0) n.natAbs 1

/-- The number nearest to `digits * 10 ^ exponent`. Powers of ten that no rounding can bring back into
range are not computed. -/
def ofDecimal (f : BinaryFormat) (negative : Bool) (digits : Nat) (exponent : Int) : BinaryFloat :=
  if digits = 0 then f.zero negative
  else if f.maxExponent + f.precision < exponent then .infinite negative
  else if exponent < f.minExponent - 1 - digits.log2 then f.zero negative
  else f.round negative (digits * Nat.pow 10 exponent.toNat) (Nat.pow 10 (-exponent).toNat)

/-- A number of any format, rounded to this one. -/
def convert (f : BinaryFormat) : BinaryFloat → BinaryFloat
  | .finite negative mantissa exponent => f.ofScaled negative mantissa exponent
  | x => x

end BinaryFormat

namespace BinaryFloat

/-- Neither infinite nor not a number. -/
def isFinite : BinaryFloat → Bool
  | finite .. => true
  | _ => false

/-- The number of the opposite sign. -/
def neg : BinaryFloat → BinaryFloat
  | finite negative mantissa exponent => finite (!negative) mantissa exponent
  | infinite negative => infinite (!negative)
  | nan => nan

instance : Neg BinaryFloat := ⟨neg⟩

/-- A signed mantissa, brought to a smaller exponent. -/
def aligned (negative : Bool) (mantissa : Nat) (exponent target : Int) : Int :=
  (if negative then -1 else 1) * (mantissa <<< (exponent - target).toNat : Nat)

/-- The order of two numbers: both zeros are equal, and what is not a number has no place. -/
def compare? : BinaryFloat → BinaryFloat → Option Ordering
  | nan, _ => none
  | _, nan => none
  | infinite true, infinite true => some .eq
  | infinite false, infinite false => some .eq
  | infinite true, _ => some .lt
  | infinite false, _ => some .gt
  | _, infinite true => some .gt
  | _, infinite false => some .lt
  | finite n₁ m₁ e₁, finite n₂ m₂ e₂ =>
    some (compare (aligned n₁ m₁ e₁ (min e₁ e₂)) (aligned n₂ m₂ e₂ (min e₁ e₂)))

end BinaryFloat

namespace BinaryFormat

/-- The exact sum, rounded. Opposite infinities have none, and a sum of zero is negative only if both
terms are. -/
def add (f : BinaryFormat) : BinaryFloat → BinaryFloat → BinaryFloat
  | .nan, _ => .nan
  | _, .nan => .nan
  | .infinite n₁, .infinite n₂ => if n₁ = n₂ then .infinite n₁ else .nan
  | .infinite n, _ => .infinite n
  | _, .infinite n => .infinite n
  | .finite n₁ m₁ e₁, .finite n₂ m₂ e₂ =>
    let exponent := min e₁ e₂
    let sum := BinaryFloat.aligned n₁ m₁ e₁ exponent + BinaryFloat.aligned n₂ m₂ e₂ exponent
    if sum = 0 then f.zero (n₁ && n₂) else f.ofScaled (sum < 0) sum.natAbs exponent

/-- The exact product, rounded. Zero times infinity has none. -/
def mul (f : BinaryFormat) : BinaryFloat → BinaryFloat → BinaryFloat
  | .nan, _ => .nan
  | _, .nan => .nan
  | .infinite n₁, .infinite n₂ => .infinite (n₁ != n₂)
  | .infinite n₁, .finite n₂ m₂ _ => if m₂ = 0 then .nan else .infinite (n₁ != n₂)
  | .finite n₁ m₁ _, .infinite n₂ => if m₁ = 0 then .nan else .infinite (n₁ != n₂)
  | .finite n₁ m₁ e₁, .finite n₂ m₂ e₂ => f.ofScaled (n₁ != n₂) (m₁ * m₂) (e₁ + e₂)

end BinaryFormat

end RecordSearch
