import RecordSearch.Value

/-!
# Scalars

What a value becomes before it is written into a query: a truth value, a number or a text. Instants and
spans become whole seconds, variants their discriminant. Integers stay exact.

## Main definitions

* `Number`, `Number.render` — numbers and how a query writes them.
* `Scalar`, `Scalar.token` — scalars and their text before escaping.
* `Value.scalar?` — the scalar of a value; null has none.
-/

namespace RecordSearch

/-- A number in a query. -/
inductive Number where
  | integer (n : Int)
  | float (x : BinaryFloat)
  deriving DecidableEq, Repr

/-- How far a strict bound is moved off its value, since ranges are closed. -/
def strictStep : BinaryFloat :=
  BinaryFormat.double.ofDecimal false 1 (-3)

namespace Number

/-- The number in double format. -/
def toDouble : Number → BinaryFloat
  | integer n => BinaryFormat.double.ofInt n
  | float x => x

/-- Whether the number is neither infinite nor not a number. -/
def isFinite : Number → Bool
  | integer _ => true
  | float x => x.isFinite

/-- The number moved by a step, in double format. -/
def offset (n : Number) (step : BinaryFloat) : Number :=
  .float (BinaryFormat.double.add n.toDouble step)

/-- The number as a query writes it; both infinities carry their sign. -/
def render : Number → String
  | integer n => toString n
  | float (.infinite negative) => if negative then "-inf" else "+inf"
  | float x => DecimalLayout.plain.render x

/-- The bound of a range that is open below. -/
def negInfinity : Number := .float (.infinite true)

/-- The bound of a range that is open above. -/
def posInfinity : Number := .float (.infinite false)

end Number

/-- A value ready to be written into a query. -/
inductive Scalar where
  | bool (b : Bool)
  | number (n : Number)
  | text (s : String)
  deriving DecidableEq, Repr

/-- The scalar's text before escaping. -/
def Scalar.token : Scalar → String
  | bool b => if b then "True" else "False"
  | number n => n.render
  | text s => s

/-- The scalar of a value. -/
def Value.scalar? : Value → Option Scalar
  | null => none
  | bool b => some (.bool b)
  | int n => some (.number (.integer n.toInt))
  | uint n => some (.number (.integer n.toNat))
  | float x => some (.number (.float x))
  | text s => some (.text s)
  | enumeration _ discriminant => some (.number (.integer discriminant.toInt))
  | instant t => some (.number (.integer t.seconds))
  | span d => some (.number (.integer d.wholeSeconds))

end RecordSearch
