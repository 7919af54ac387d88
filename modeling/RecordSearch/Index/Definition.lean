import RecordSearch.Digest.Sha256
import RecordSearch.Schema.Descriptor
import RecordSearch.Table

/-!
# Index definitions

An index covers the records under one key prefix and knows the kind of each field. The definition is
derived from a model's descriptor, and its fingerprint tells whether two definitions have one shape.

## Main definitions

* `IndexField`, `IndexDefinition` — what an index is made of.
* `IndexDefinition.ofDescriptor?` — the definition for a model; without indexed fields there is none.
* `IndexDefinition.fingerprint` — the digest of the fields' shapes.
* `IndexDefinition.createArguments` — the arguments that create the index.
* `IndexRegistry` — definitions by index name.
-/

namespace RecordSearch

/-- A field of an index. -/
structure IndexField where
  name : String
  kind : FieldKind
  sortable : Bool
  deriving DecidableEq, Repr

/-- What the field adds to a fingerprint. -/
def IndexField.shape (f : IndexField) : String :=
  f.name ++ ":" ++ f.kind.label ++ (if f.sortable then ":SORTABLE;" else ";")

/-- What the field adds to the arguments that create an index. -/
def IndexField.arguments (f : IndexField) : List String :=
  f.name :: f.kind.keyword :: if f.sortable then ["SORTABLE"] else []

/-- The name of an index on the server, behind a namespace if there is one. -/
def physicalName (indexName : String) (nameSpace? : Option String) : String :=
  nameSpace?.getD "" ++ indexName

/-- What the keys of the records under an index start with. -/
def keyStart (physical : String) : String :=
  physical ++ ":"

/-- What an index is made of. -/
structure IndexDefinition where
  name : String
  /-- What the keys of the records start with. -/
  keyStart : String
  fields : List IndexField := []
  deriving DecidableEq, Repr

namespace IndexDefinition

/-- The definition for a model, which has to have indexed fields. -/
def ofDescriptor? (d : Descriptor) (nameSpace? : Option String) : Option IndexDefinition :=
  if d.isIndexed then
    let name := physicalName d.indexName nameSpace?
    some ⟨name, RecordSearch.keyStart name, d.indexed.map fun f => ⟨f.name, f.kind, f.sortable⟩⟩
  else none

/-- The shapes of all fields in order. -/
def shape (i : IndexDefinition) : String :=
  String.join (i.fields.map IndexField.shape)

/-- The digest of the fields' shapes. -/
def fingerprint (i : IndexDefinition) : String :=
  hexDigest i.shape

/-- The arguments that declare the fields. -/
def schemaArguments (i : IndexDefinition) : List String :=
  i.fields.flatMap IndexField.arguments

/-- The arguments that create the index. -/
def createArguments (i : IndexDefinition) : List String :=
  [i.name, "ON", "HASH", "PREFIX", "1", i.keyStart, "SCHEMA"] ++ i.schemaArguments

end IndexDefinition

/-- Definitions by the names of their indexes. -/
abbrev IndexRegistry := Table IndexDefinition

/-- The registry with a definition, in place of any earlier one of its name. -/
def IndexRegistry.register (r : IndexRegistry) (i : IndexDefinition) : IndexRegistry :=
  r.insert i.name i

end RecordSearch
