import RecordSearch.Calendar.Instant
import RecordSearch.Numeric.Shortest
import RecordSearch.Schema.FieldType
import RecordSearch.Text.Quoted

/-!
# Values

The values a field is compared with. `render` is how a value reads in a filter's text, `inspect` the
longer form that names its constructor.

## Main definitions

* `Value` — the values.
* `Value.render`, `Value.inspect` — their two texts.
* `FieldType.holds` — whether a value is one of a declared type.
-/

namespace RecordSearch

/-- A value that a field can be compared with. -/
inductive Value where
  | null
  | bool (b : Bool)
  | int (n : Int64)
  | uint (n : UInt64)
  | float (x : BinaryFloat)
  | text (s : String)
  | enumeration (variant : String) (discriminant : Int64)
  | instant (t : Instant)
  | span (d : Span)
  deriving DecidableEq, Repr, Inhabited

/-- The text of a truth value. -/
def boolText (b : Bool) : String :=
  if b then "true" else "false"

/-- Fields of a record between braces, behind the record's name. -/
def inspectRecord (name : String) (fields : List (String × String)) : String :=
  name ++ " \x7b " ++ ", ".intercalate (fields.map fun f => f.1 ++ ": " ++ f.2) ++ " \x7d"

namespace Value

/-- The value as it reads in the text of a filter. -/
def render : Value → String
  | null => "null"
  | bool b => boolText b
  | int n => toString n.toInt
  | uint n => toString n.toNat
  | float x => DecimalLayout.plain.render x
  | text s => quoted s
  | enumeration variant _ => variant
  | instant t => t.rfc3339
  | span d => toString d.wholeSeconds ++ "s"

/-- The value with its constructor named. -/
def inspect : Value → String
  | null => "Null"
  | bool b => "Bool(" ++ boolText b ++ ")"
  | int n => "Int(" ++ toString n.toInt ++ ")"
  | uint n => "UInt(" ++ toString n.toNat ++ ")"
  | float x => "Float(" ++ DecimalLayout.marked.render x ++ ")"
  | text s => "Text(" ++ quoted s ++ ")"
  | enumeration variant discriminant =>
    inspectRecord "Enum" [("name", quoted variant), ("discriminant", toString discriminant.toInt)]
  | instant t => "DateTime(" ++ t.dateTimeText ++ "Z)"
  | span d =>
    "Duration(" ++
      inspectRecord "TimeDelta" [("secs", toString d.seconds), ("nanos", toString d.nanos)] ++ ")"

end Value

/-- Whether a value is an integer between two bounds. -/
def Value.isIntBetween (low high : Int) : Value → Bool
  | .int n => low ≤ n.toInt && n.toInt ≤ high
  | _ => false

namespace FieldType

/-- Whether a value is one of the declared type. Types without values of their own hold none. -/
def holds : FieldType → Value → Bool
  | int8, v => v.isIntBetween (-0x80) 0x7f
  | int16, v => v.isIntBetween (-0x8000) 0x7fff
  | int32, v => v.isIntBetween (-0x80000000) 0x7fffffff
  | int64, .int _ => true
  | uint8, v => v.isIntBetween 0 0xff
  | uint16, v => v.isIntBetween 0 0xffff
  | uint32, v => v.isIntBetween 0 0xffffffff
  | uint64, .uint _ => true
  | float32, .float x => BinaryFormat.double.convert (BinaryFormat.single.convert x) = x
  | float64, .float _ => true
  | instant, .instant _ => true
  | span, .span _ => true
  | text, .text _ => true
  | bool, .bool _ => true
  | enumeration _, .enumeration .. => true
  | optional t, v => v = .null || t.holds v
  | _, _ => false

/-- Whether the values of a type are ordered, so that it admits range comparisons. -/
def isOrdered : FieldType → Bool
  | int8 | int16 | int32 | int64 | uint8 | uint16 | uint32 | uint64 | float32 | float64 | instant
  | span => true
  | optional t => t.isOrdered
  | _ => false

/-- Whether a type admits text methods: texts, present or optional. -/
def isTextual : FieldType → Bool
  | text => true
  | optional text => true
  | _ => false

end FieldType

end RecordSearch
