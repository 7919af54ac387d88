import RecordSearch.Numeric.BinaryFloat

/-!
# Numbers written as text

Two grammars are read here. A *word* is an optional plus sign and one or more digits, below `2 ^ 64`. A
*decimal* is an optional sign followed by digits with at most one point among them and an optional
exponent, or by one of the names of infinity and not-a-number in any case. Neither admits blanks.

## Main definitions

* `readWord?` — the unsigned 64-bit integer a text writes.
* `BinaryFormat.read?` — the number of a format nearest to the decimal a text writes.
-/

namespace RecordSearch

/-- The number that a run of decimal digits writes. -/
def ofDigits (digits : List Char) : Nat :=
  digits.foldl (fun n c => 10 * n + (c.toNat - '0'.toNat)) 0

/-- A leading sign, and what follows it. -/
def splitSign : List Char → Bool × List Char
  | '-' :: rest => (true, rest)
  | '+' :: rest => (false, rest)
  | rest => (false, rest)

/-- A run of one or more digits and nothing else. -/
def readDigits? (cs : List Char) : Option Nat :=
  if cs.isEmpty || !cs.all Char.isDigit then none else some (ofDigits cs)

/-- The unsigned 64-bit integer that a text writes. -/
def readWord? (text : String) : Option UInt64 :=
  let digits := match text.toList with
    | '+' :: rest => rest
    | cs => cs
  match readDigits? digits with
  | some n => if n < UInt64.size then some (UInt64.ofNat n) else none
  | none => none

/-- The exponent after the digits: nothing, or `e` and a signed run of digits. -/
def readExponent? : List Char → Option Int
  | [] => some 0
  | c :: rest =>
    if c = 'e' ∨ c = 'E' then
      let (negative, digits) := splitSign rest
      (readDigits? digits).map fun n => if negative then -(n : Int) else n
    else none

/-- An unsigned decimal as its digits without the point, and the power of ten they count. -/
def readDecimal? (cs : List Char) : Option (Nat × Int) :=
  let whole := cs.takeWhile Char.isDigit
  let (fraction, rest) := match cs.dropWhile Char.isDigit with
    | '.' :: rest => (rest.takeWhile Char.isDigit, rest.dropWhile Char.isDigit)
    | rest => ([], rest)
  if whole.isEmpty && fraction.isEmpty then none
  else (readExponent? rest).map fun e => (ofDigits (whole ++ fraction), e - fraction.length)

/-- The number of the format nearest to the decimal that a text writes. -/
def BinaryFormat.read? (f : BinaryFormat) (text : String) : Option BinaryFloat :=
  let (negative, body) := splitSign text.toList
  let name := body.map Char.toLower
  if name = "inf".toList ∨ name = "infinity".toList then some (.infinite negative)
  else if name = "nan".toList then some .nan
  else (readDecimal? body).map fun (digits, exponent) => f.ofDecimal negative digits exponent

end RecordSearch
