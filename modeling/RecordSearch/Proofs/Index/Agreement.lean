import RecordSearch.Index.Definition
import RecordSearch.Proofs.Clause.Syntax
import RecordSearch.Proofs.Schema.Names

/-!
# Index and queries agree on kinds

An index lists the fields of a descriptor under the keywords of their kinds, and queries ask for them by
looking their names up. Since no name occurs twice in a descriptor, the field found is the field listed,
so it is queried in the syntax of the kind it is indexed as, and can be sorted by exactly if it is listed.

## Main results

* `IndexDefinition.ofDescriptor?_eq_some_iff` — the definition for a descriptor, if there is one.
* `Descriptor.checkSortField_eq_ok_iff` — what can be sorted by.
* `Schema.queried_as_indexed` — indexed fields are queried in the syntax of their kinds.
-/

namespace RecordSearch

variable {ι : Type}

/-- The field as an index lists it. -/
def FieldDescriptor.toIndexField (f : FieldDescriptor) : IndexField :=
  ⟨f.name, f.kind, f.sortable⟩

namespace IndexDefinition

variable {d : Descriptor} {nameSpace? : Option String} {i : IndexDefinition}

theorem ofDescriptor?_eq_some_iff :
    ofDescriptor? d nameSpace? = some i ↔
      d.indexed ≠ [] ∧ i.name = physicalName d.indexName nameSpace? ∧
        i.keyStart = RecordSearch.keyStart i.name ∧
        i.fields = d.indexed.map FieldDescriptor.toIndexField := by
  obtain ⟨name, keyStart, fields⟩ := i
  unfold ofDescriptor? Descriptor.isIndexed
  cases hindexed : d.indexed with
  | nil => simp
  | cons f fs =>
    simp only [List.isEmpty_cons, Bool.not_false, if_true, Option.some.injEq, mk.injEq, ne_eq,
      reduceCtorEq, not_false_eq_true, true_and]
    constructor
    · rintro ⟨rfl, rfl, rfl⟩
      exact ⟨rfl, rfl, rfl⟩
    · rintro ⟨rfl, rfl, rfl⟩
      exact ⟨rfl, rfl, rfl⟩

theorem isSome_ofDescriptor?_iff : (ofDescriptor? d nameSpace?).isSome = true ↔ d.indexed ≠ [] := by
  unfold ofDescriptor? Descriptor.isIndexed
  cases d.indexed <;> simp

/-- The definition lists the names of the indexed fields. -/
theorem map_name_fields (h : ofDescriptor? d nameSpace? = some i) :
    i.fields.map (·.name) = d.indexed.map (·.name) := by
  rw [(ofDescriptor?_eq_some_iff.1 h).2.2.2, List.map_map]
  rfl

/-- A field is listed as its name with the keyword of its kind. -/
theorem isInfix_createArguments {g : IndexField} (hg : g ∈ i.fields) :
    [g.name, g.kind.keyword] <:+: i.createArguments := by
  obtain ⟨before, after, hfields⟩ := List.append_of_mem hg
  have hhead : [g.name, g.kind.keyword] <+: g.arguments := by
    rw [IndexField.arguments]
    exact ⟨_, rfl⟩
  have hschema : g.arguments <:+: i.schemaArguments := by
    rw [schemaArguments, hfields, List.flatMap_append, List.flatMap_cons, ← List.append_assoc]
    exact ⟨_, _, rfl⟩
  exact (hhead.isInfix.trans hschema).trans (List.suffix_append _ _).isInfix

end IndexDefinition

theorem Descriptor.checkSortField_eq_ok_iff {d : Descriptor} {name : String} :
    d.checkSortField name = .ok () ↔ name ∈ d.indexed.map (·.name) := by
  have hfound : (d.indexedField? name).isSome = true ↔ name ∈ d.indexed.map (·.name) := by
    rw [indexedField?, List.find?_isSome, List.mem_map]
    simp
  unfold checkSortField
  split
  · next h => exact iff_of_true rfl (hfound.1 h)
  · next h => exact iff_of_false nofun (mt hfound.2 h)

namespace Schema

/-- The descriptor of a schema has no name twice. Its index, which exists if a field is indexed, lists the
indexed fields in order, each with its kind and flag. Looking up a listed name finds a field of the
listed kind, what compiles for it is in the syntax of that kind and of no other, and only listed names can
be sorted by. -/
theorem queried_as_indexed (resolve : ι → Schema ι) (s : Schema ι) (nameSpace? : Option String) :
    (s.describe resolve).names.Nodup ∧
    ((IndexDefinition.ofDescriptor? (s.describe resolve) nameSpace?).isSome = true ↔
      (s.describe resolve).indexed ≠ []) ∧
    (∀ i, IndexDefinition.ofDescriptor? (s.describe resolve) nameSpace? = some i →
      i.fields = (s.describe resolve).indexed.map FieldDescriptor.toIndexField ∧
      (i.fields.map (·.name)).Nodup ∧
      ∀ g ∈ i.fields, [g.name, g.kind.keyword] <:+: i.createArguments ∧
        (∃ f, (s.describe resolve).field? g.name = some f ∧ f.toIndexField = g) ∧
        ∀ p : Predicate Value, p.asked? = some g.name → ∀ text, p.compile (s.describe resolve) = .ok text →
          ∀ kind : FieldKind, kind.Asks g.name text ↔ kind = g.kind) ∧
    ∀ name, (s.describe resolve).checkSortField name = .ok () ↔
      ∃ i, IndexDefinition.ofDescriptor? (s.describe resolve) nameSpace? = some i ∧
        name ∈ i.fields.map (·.name) := by
  have hnames := nodup_names_describe resolve s
  refine ⟨hnames, IndexDefinition.isSome_ofDescriptor?_iff, ?_, ?_⟩
  · intro i hi
    obtain ⟨-, -, -, hfields⟩ := IndexDefinition.ofDescriptor?_eq_some_iff.1 hi
    have hnodup := Descriptor.nodup_indexed hnames
    rw [← IndexDefinition.map_name_fields hi] at hnodup
    refine ⟨hfields, hnodup, fun g hg => ⟨IndexDefinition.isInfix_createArguments hg, ?_⟩⟩
    rw [hfields] at hg
    obtain ⟨f, hf, rfl⟩ := List.mem_map.1 hg
    have hfound : (s.describe resolve).field? f.name = some f :=
      (Descriptor.field?_eq_some_iff hnames).2 ⟨List.mem_append_left _ hf, rfl⟩
    refine ⟨⟨f, hfound, rfl⟩, fun p hasked text htext kind => ?_⟩
    obtain ⟨e, he, hasks⟩ := asks_of_compile hasked htext
    obtain rfl : e = f := Option.some.inj (he.symm.trans hfound)
    constructor
    · exact fun h => h.kind_eq hasks
    · rintro rfl
      exact hasks
  · intro name
    rw [Descriptor.checkSortField_eq_ok_iff]
    constructor
    · intro hname
      have hne : (s.describe resolve).indexed ≠ [] := by
        rintro hnil
        rw [hnil] at hname
        contradiction
      have hsome : (IndexDefinition.ofDescriptor? (s.describe resolve) nameSpace?).isSome = true :=
        IndexDefinition.isSome_ofDescriptor?_iff.2 hne
      obtain ⟨i, hi⟩ := Option.isSome_iff_exists.1 hsome
      exact ⟨i, hi, (IndexDefinition.map_name_fields hi).symm ▸ hname⟩
    · rintro ⟨i, hi, hname⟩
      rwa [IndexDefinition.map_name_fields hi] at hname

/-- A note that refers to its parent and names a field twice: the first field of the name is the one that
is listed, queried and sorted by. -/
theorem queried_as_indexed_of_notes :
    ∃ s : Schema Unit, s.fields.map (·.name) = ["tag", "tag", "parent"] ∧
      IndexDefinition.ofDescriptor? (s.describe fun _ => s) none =
        some ⟨"notes", "notes:", [⟨"tag", .tag, true⟩]⟩ ∧
      (Predicate.compare "tag" .eq (.literal (.text "a"))).compile (s.describe fun _ => s) =
        .ok "@tag:\x7ba\x7d" ∧
      (∀ kind : FieldKind, kind.Asks "tag" "@tag:\x7ba\x7d" ↔ kind = .tag) ∧
      (s.describe fun _ => s).checkSortField "tag" = .ok () := by
  let s : Schema Unit := ⟨"notes", "Note", [⟨"tag", .text, some ⟨some .tag, true⟩, none⟩,
    ⟨"tag", .int32, some {}, none⟩, ⟨"parent", .composite "Note", none, some ⟨(), true⟩⟩]⟩
  have hindex : IndexDefinition.ofDescriptor? (s.describe fun _ => s) none =
      some ⟨"notes", "notes:", [⟨"tag", .tag, true⟩]⟩ := by decide
  have hcompile : (Predicate.compare "tag" .eq (.literal (.text "a"))).compile
      (s.describe fun _ => s) = .ok "@tag:\x7ba\x7d" := by decide +kernel
  obtain ⟨-, -, hlisted, hsort⟩ := queried_as_indexed (fun _ => s) s none
  obtain ⟨-, -, hfields⟩ := hlisted _ hindex
  obtain ⟨-, -, hasks⟩ := hfields ⟨"tag", .tag, true⟩ (by decide)
  exact ⟨s, by decide, hindex, hcompile, hasks _ rfl _ hcompile,
    (hsort "tag").2 ⟨_, hindex, by decide⟩⟩

end Schema

end RecordSearch
