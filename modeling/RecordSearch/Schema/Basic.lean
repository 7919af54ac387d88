import RecordSearch.Schema.FieldType

/-!
# Declared schemas

A schema lists the fields of one kind of record in order. A field may be listed in the index, and may
hold a record of another model, whose fields are then searched together with the record's own. Models
refer to each other, and to themselves, through keys of a type `ι`.

## Main definitions

* `IndexOptions` — how a field is listed in the index.
* `Inclusion` — the model that a field holds a record of.
* `FieldDeclaration`, `Schema` — the declarations.
* `Schema.plain`, `Schema.indexed`, `Schema.nested`, `Schema.linked` — building one field by field.
-/

namespace RecordSearch

/-- How a field is listed in the index; without a kind the field's type decides. -/
structure IndexOptions where
  kind : Option FieldKind := none
  sortable : Bool := false
  deriving DecidableEq, Repr, Inhabited

/-- The kind a field of a type is indexed as. -/
def IndexOptions.resolve (o : IndexOptions) (type : FieldType) : FieldKind :=
  o.kind.getD type.classify

/-- A reference to another model; only an included one has its fields flattened. -/
structure Inclusion (ι : Type) where
  model : ι
  included : Bool
  deriving DecidableEq, Repr

/-- One declared field. -/
structure FieldDeclaration (ι : Type) where
  name : String
  type : FieldType
  index? : Option IndexOptions := none
  inclusion? : Option (Inclusion ι) := none
  deriving DecidableEq, Repr

/-- The fields of a model in declaration order. Two schemas of one type name count as the same model. -/
structure Schema (ι : Type) where
  indexName : String
  typeName : String
  fields : List (FieldDeclaration ι) := []
  deriving DecidableEq, Repr

namespace Schema

variable {ι : Type}

/-- The schema with one more declaration. -/
def declare (s : Schema ι) (f : FieldDeclaration ι) : Schema ι :=
  ⟨s.indexName, s.typeName, s.fields ++ [f]⟩

/-- Declare a field that is stored only. -/
def plain (s : Schema ι) (name : String) (type : FieldType) : Schema ι :=
  s.declare ⟨name, type, none, none⟩

/-- Declare a field that is listed in the index. -/
def indexed (s : Schema ι) (name : String) (type : FieldType) (options : IndexOptions) : Schema ι :=
  s.declare ⟨name, type, some options, none⟩

/-- Declare a field that holds a record whose fields are searched too. -/
def nested (s : Schema ι) (name typeName : String) (model : ι) : Schema ι :=
  s.declare ⟨name, .composite typeName, none, some ⟨model, true⟩⟩

/-- Declare a field that holds a record whose fields are not searched. -/
def linked (s : Schema ι) (name typeName : String) (model : ι) : Schema ι :=
  s.declare ⟨name, .composite typeName, none, some ⟨model, false⟩⟩

end Schema

end RecordSearch
