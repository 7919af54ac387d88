/-!
# Field types and index kinds

A field declares the type of its values. The index knows three kinds of field only, and a type determines
the kind it is indexed as unless the declaration names one.

## Main definitions

* `FieldType` — declared value types; optional types nest.
* `FieldType.inner` — the type beneath all optional layers.
* `FieldKind` — numeric, text or tag.
* `FieldType.classify` — the kind inferred for a type.
-/

namespace RecordSearch

/-- What the values of a field are. -/
inductive FieldType where
  | int8
  | int16
  | int32
  | int64
  | uint8
  | uint16
  | uint32
  | uint64
  | float32
  | float64
  | decimal
  | instant
  | span
  | text
  | bool
  /-- One of a set of named variants, stored by number. -/
  | enumeration (name : String)
  /-- A composite value, stored as it is. -/
  | composite (name : String)
  | identifier
  | optional (inner : FieldType)
  deriving DecidableEq, Repr, Inhabited

/-- How the index treats a field. -/
inductive FieldKind where
  | numeric
  | text
  | tag
  deriving DecidableEq, Repr, Inhabited

namespace FieldKind

/-- The kind's keyword when an index is created. -/
def keyword : FieldKind → String
  | numeric => "NUMERIC"
  | text => "TEXT"
  | tag => "TAG"

/-- The kind's name in messages and fingerprints. -/
def label : FieldKind → String
  | numeric => "Numeric"
  | text => "Text"
  | tag => "Tag"

end FieldKind

namespace FieldType

/-- The type beneath all optional layers. -/
def inner : FieldType → FieldType
  | optional t => t.inner
  | t => t

/-- Whether the values are truth values, if present. -/
def isBool (t : FieldType) : Bool :=
  t.inner = bool

/-- Whether the values are texts, if present. -/
def isText (t : FieldType) : Bool :=
  t.inner = text

/-- The kind inferred for a type: numbers and times are numeric, texts are text, all else is a tag. -/
def classify (t : FieldType) : FieldKind :=
  match t.inner with
  | int8 | int16 | int32 | int64 | uint8 | uint16 | uint32 | uint64 | float32 | float64 | decimal
  | instant | span => .numeric
  | text => .text
  | _ => .tag

@[simp] theorem inner_optional (t : FieldType) : (optional t).inner = t.inner := rfl

@[simp] theorem classify_optional (t : FieldType) : (optional t).classify = t.classify := rfl

end FieldType

end RecordSearch
