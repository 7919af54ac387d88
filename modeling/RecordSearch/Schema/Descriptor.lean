import RecordSearch.Schema.Basic

/-!
# Descriptors

A descriptor is what the index and the compiler know of a model: its fields with resolved kinds, those of
included models flattened in place. Flattening goes one level deep, visits each model type once, and
keeps the first of several fields of one name.

## Main definitions

* `FieldDescriptor`, `Descriptor` — the result.
* `Descriptor.field?`, `Descriptor.indexedField?` — looking a field up.
* `Schema.describe` — the descriptor of a schema.
-/

namespace RecordSearch

/-- A field with its kind resolved. -/
structure FieldDescriptor where
  name : String
  kind : FieldKind
  sortable : Bool
  type : FieldType
  deriving DecidableEq, Repr

/-- What the index and the compiler know of a model. -/
structure Descriptor where
  indexName : String
  /-- Indexed fields in declaration order. -/
  indexed : List FieldDescriptor
  /-- Fields that are declared but not indexed, under the kind inferred from their type. -/
  unindexed : List FieldDescriptor
  deriving DecidableEq, Repr

namespace Descriptor

/-- A descriptor without fields. -/
def empty (indexName : String) : Descriptor := ⟨indexName, [], []⟩

/-- The indexed field of a name. -/
def indexedField? (d : Descriptor) (name : String) : Option FieldDescriptor :=
  d.indexed.find? (·.name = name)

/-- The declared field of a name, an indexed one first. -/
def field? (d : Descriptor) (name : String) : Option FieldDescriptor :=
  (d.indexedField? name).or (d.unindexed.find? (·.name = name))

/-- Whether a name is taken. -/
def declares (d : Descriptor) (name : String) : Bool :=
  (d.field? name).isSome

/-- Whether anything is indexed. -/
def isIndexed (d : Descriptor) : Bool :=
  !d.indexed.isEmpty

end Descriptor

variable {ι : Type}

/-- The descriptor of one declaration. -/
def FieldDeclaration.describe (f : FieldDeclaration ι) : FieldDescriptor :=
  match f.index? with
  | some options => ⟨f.name, options.resolve f.type, options.sortable, f.type⟩
  | none => ⟨f.name, f.type.classify, false, f.type⟩

/-- The descriptor with one more field, unless its name is taken. -/
def Descriptor.add (d : Descriptor) (f : FieldDeclaration ι) : Descriptor :=
  if d.declares f.name then d
  else if f.index?.isSome then ⟨d.indexName, d.indexed ++ [f.describe], d.unindexed⟩
  else ⟨d.indexName, d.indexed, d.unindexed ++ [f.describe]⟩

/-- A descriptor being built, and the model types whose fields are in it. -/
structure Flattening where
  visited : List String
  descriptor : Descriptor
  deriving DecidableEq, Repr

namespace Flattening

/-- Flatten the fields of a model, unless its type has been visited. -/
def absorb (w : Flattening) (child : Schema ι) : Flattening :=
  if w.visited.contains child.typeName then w
  else ⟨child.typeName :: w.visited, child.fields.foldl Descriptor.add w.descriptor⟩

/-- Add a field of the model itself, followed by the fields of the model it includes. A field whose name
is taken adds nothing, its inclusion neither. -/
def addOwn (resolve : ι → Schema ι) (w : Flattening) (f : FieldDeclaration ι) : Flattening :=
  if w.descriptor.declares f.name then w
  else
    let added : Flattening := ⟨w.visited, w.descriptor.add f⟩
    match f.inclusion? with
    | some inclusion => if inclusion.included then added.absorb (resolve inclusion.model) else added
    | none => added

end Flattening

/-- The descriptor of a schema, whose inclusions are looked up by `resolve`. -/
def Schema.describe (resolve : ι → Schema ι) (s : Schema ι) : Descriptor :=
  (s.fields.foldl (Flattening.addOwn resolve) ⟨[s.typeName], .empty s.indexName⟩).descriptor

end RecordSearch
