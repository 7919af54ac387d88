import RecordSearch.Numeric.BinaryFloat

/-!
# Shortest decimal text

A binary number is written with the fewest decimal digits that read back as it. The numbers that read
back as it form an interval around it; a grid of `n` digits is tried for `n = 1, 2, …`, and on the first
grid with a point in the interval the point nearest to the number is taken, the upper one of two equally
near. A number's own finite decimal expansion is always in its interval, so the search has a last resort.

## Main definitions

* `Decimal` — digits times a power of ten.
* `shortest` — the decimal chosen for a positive binary number.
* `DecimalLayout` — where positional notation ends and how a whole number is marked.
* `DecimalLayout.render` — the text of a number in a layout.
-/

namespace RecordSearch

/-- The number `digits * 10 ^ exponent`. -/
structure Decimal where
  digits : Nat
  exponent : Int
  deriving DecidableEq, Repr

/-- The numbers that read back as a positive binary number, as multiples of `2 ^ scale`. -/
structure ReadingInterval where
  low : Nat
  centre : Nat
  high : Nat
  scale : Int
  /-- Whether the two ends read back as the number too. -/
  closed : Bool
  deriving DecidableEq, Repr

/-- The reading interval of `mantissa * 2 ^ exponent` in double format: half a unit on either side, but
a quarter below the least mantissa, where the numbers beneath lie twice as close. -/
def ReadingInterval.ofDouble (mantissa : Nat) (exponent : Int) : ReadingInterval where
  low := 4 * mantissa - (if mantissa = 1 <<< 52 then 1 else 2)
  centre := 4 * mantissa
  high := 4 * mantissa + 2
  scale := exponent - 2
  closed := mantissa % 2 = 0

/-- How many decimal digits a number has; zero has none. -/
def digitCount (n : Nat) : Nat :=
  if n = 0 then 0 else (Nat.toDigits 10 n).length

/-- The exponent of the greatest power of ten that is at most `num / den`. -/
def floorLog10 (num den : Nat) : Int :=
  if den ≤ num then (digitCount (num / den) : Int) - 1
  else -(digitCount ((den + num - 1) / num - 1) : Int)

namespace ReadingInterval

/-- Numerator and denominator of a multiple of the interval's unit in units of `10 ^ exponent`. -/
def ratio (i : ReadingInterval) (n : Nat) (exponent : Int) : Nat × Nat :=
  ((n <<< i.scale.toNat) * Nat.pow 10 (-exponent).toNat,
    Nat.pow 10 exponent.toNat <<< (-i.scale).toNat)

/-- Whether `digits * 10 ^ exponent` reads back as the interval's number. -/
def holds (i : ReadingInterval) (digits : Nat) (exponent : Int) : Bool :=
  let (low, den) := i.ratio i.low exponent
  let (high, _) := i.ratio i.high exponent
  let point := digits * den
  if i.closed then low ≤ point && point ≤ high else low < point && point < high

/-- The point of the grid of multiples of `10 ^ exponent` that is chosen for the interval, if any. -/
def onGrid? (i : ReadingInterval) (exponent : Int) : Option Decimal :=
  let (num, den) := i.ratio i.centre exponent
  let below := num / den
  let above := below + 1
  match i.holds below exponent, i.holds above exponent with
  | true, true => some ⟨if 2 * (num % den) < den then below else above, exponent⟩
  | true, false => some ⟨below, exponent⟩
  | false, true => some ⟨above, exponent⟩
  | false, false => none

/-- The exact decimal expansion of the interval's number. -/
def exact (i : ReadingInterval) : Decimal where
  digits := (i.centre <<< i.scale.toNat) * Nat.pow 5 (-i.scale).toNat
  exponent := min i.scale 0

end ReadingInterval

/-- The decimal with the fewest digits that reads back as `mantissa * 2 ^ exponent`. -/
def shortest (mantissa : Nat) (exponent : Int) : Decimal :=
  let i := ReadingInterval.ofDouble mantissa exponent
  let (num, den) := i.ratio i.centre 0
  let leading := floorLog10 num den
  ((List.range 17).findSome? fun (n : Nat) => i.onGrid? (leading - n)).getD i.exact

/-- How decimals are laid out. -/
structure DecimalLayout where
  /-- Written after a whole number in positional notation. -/
  wholeSuffix : String
  /-- Leading exponents from the first up to and excluding the second are written positionally; without
  bounds all are. -/
  positional : Option (Int × Int)
  deriving DecidableEq, Repr

namespace DecimalLayout

/-- Positional at every size, with no mark on whole numbers. -/
def plain : DecimalLayout := ⟨"", none⟩

/-- A point in every positional number, and an exponent below `10 ^ -4` and from `10 ^ 16`. -/
def marked : DecimalLayout := ⟨".0", some (-4, 16)⟩

/-- Whether a number whose leading digit counts `10 ^ leading` is written positionally. -/
def isPositional (l : DecimalLayout) (leading : Int) : Bool :=
  match l.positional with
  | none => true
  | some (low, high) => low ≤ leading && leading < high

/-- Digits with the point where it belongs: `point` of them stand before it. -/
def renderPositional (l : DecimalLayout) (digits : List Char) (point : Int) : String :=
  if point ≤ 0 then "0." ++ String.ofList (List.replicate (-point).toNat '0' ++ digits)
  else
    let whole := digits.take point.toNat
    let fraction := digits.drop point.toNat
    let padded := whole ++ List.replicate (point.toNat - whole.length) '0'
    if fraction.isEmpty then String.ofList padded ++ l.wholeSuffix
    else String.ofList (padded ++ '.' :: fraction)

/-- One digit, a point if more follow, and the power of ten. -/
def renderScientific (digits : List Char) (leading : Int) : String :=
  let body := match digits with
    | first :: second :: rest => first :: '.' :: second :: rest
    | short => short
  String.ofList body ++ "e" ++ toString leading

/-- The text of a positive decimal, whose digits are first rid of trailing zeros. -/
def renderDecimal (l : DecimalLayout) (d : Decimal) : String :=
  let written := Nat.toDigits 10 d.digits
  let digits := (written.reverse.dropWhile (· = '0')).reverse
  let point := d.exponent + written.length
  if l.isPositional (point - 1) then l.renderPositional digits point
  else renderScientific digits (point - 1)

/-- The text of a number. -/
def render (l : DecimalLayout) : BinaryFloat → String
  | .nan => "NaN"
  | .infinite negative => if negative then "-inf" else "inf"
  | .finite negative mantissa exponent =>
    (if negative then "-" else "") ++
      (if mantissa = 0 then "0" ++ l.wholeSuffix else l.renderDecimal (shortest mantissa exponent))

end DecimalLayout

end RecordSearch
