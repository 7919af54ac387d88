import Mathlib.Data.List.Nodup
import RecordSearch.Schema.Descriptor

/-!
# Names in descriptors

A descriptor is only ever changed by adding a field whose name is not taken, whether the field is the
model's own or comes from an included model. So no name occurs twice among its fields, indexed or not,
and looking up a name finds the one field that has it.

## Main definitions

* `Descriptor.names` — the names of all declared fields.

## Main results

* `Schema.describe_induction` — what adding a field keeps holds of every descriptor of a schema.
* `Schema.nodup_names_describe` — no name occurs twice.
* `Descriptor.indexedField?_eq_some_iff` — looking up a name among distinct ones.
-/

namespace RecordSearch

variable {ι : Type} {d : Descriptor} {f : FieldDeclaration ι} {name : String}

theorem FieldDeclaration.name_describe (f : FieldDeclaration ι) : f.describe.name = f.name := by
  unfold describe
  split <;> rfl

namespace Descriptor

/-- The names of all declared fields, those of indexed fields first. -/
def names (d : Descriptor) : List String :=
  (d.indexed ++ d.unindexed).map (·.name)

@[simp] theorem names_empty (indexName : String) : (empty indexName).names = [] := rfl

theorem field?_eq_find? : d.field? name = (d.indexed ++ d.unindexed).find? (·.name = name) := by
  rw [List.find?_append]
  rfl

theorem declares_iff : d.declares name = true ↔ name ∈ d.names := by
  rw [declares, field?_eq_find?, List.find?_isSome, names, List.mem_map]
  simp

/-! ## Adding a field -/

/-- A field whose name is taken is left out. -/
theorem add_of_mem (h : f.name ∈ d.names) : d.add f = d :=
  if_pos (declares_iff.2 h)

theorem add_of_isSome (h : f.name ∉ d.names) (hindex : f.index?.isSome = true) :
    d.add f = ⟨d.indexName, d.indexed ++ [f.describe], d.unindexed⟩ := by
  rw [add, if_neg (mt declares_iff.1 h), if_pos hindex]

theorem add_of_isNone (h : f.name ∉ d.names) (hindex : f.index?.isNone = true) :
    d.add f = ⟨d.indexName, d.indexed, d.unindexed ++ [f.describe]⟩ := by
  rw [Option.isNone_iff_eq_none] at hindex
  rw [add, if_neg (mt declares_iff.1 h), hindex]
  rfl

/-- Adding a field takes none away. -/
theorem subset_add (d : Descriptor) (f : FieldDeclaration ι) :
    d.indexed ⊆ (d.add f).indexed ∧ d.unindexed ⊆ (d.add f).unindexed := by
  unfold add
  split
  · exact ⟨List.Subset.refl _, List.Subset.refl _⟩
  · split
    · exact ⟨List.subset_append_left _ _, List.Subset.refl _⟩
    · exact ⟨List.Subset.refl _, List.subset_append_left _ _⟩

/-- A field whose name is free adds its name. -/
theorem names_add_perm (h : f.name ∉ d.names) : (d.add f).names.Perm (f.name :: d.names) := by
  cases hindex : f.index?.isSome with
  | true =>
    rw [add_of_isSome h hindex]
    simp only [names, List.append_assoc, List.singleton_append, List.map_append, List.map_cons,
      FieldDeclaration.name_describe]
    exact List.perm_middle
  | false =>
    rw [add_of_isNone h (by simpa using hindex)]
    simp only [names, ← List.append_assoc, List.map_append, List.map_cons, List.map_nil,
      FieldDeclaration.name_describe]
    exact List.perm_append_singleton _ _

theorem mem_names_add : name ∈ (d.add f).names ↔ name = f.name ∨ name ∈ d.names := by
  by_cases h : f.name ∈ d.names
  · rw [add_of_mem h]
    constructor
    · exact .inr
    · rintro (rfl | hname)
      · exact h
      · exact hname
  · rw [(names_add_perm h).mem_iff, List.mem_cons]

theorem nodup_names_add (hd : d.names.Nodup) : (d.add f).names.Nodup := by
  by_cases h : f.name ∈ d.names
  · rwa [add_of_mem h]
  · rw [(names_add_perm h).nodup_iff]
    exact hd.cons h

theorem mem_names_foldl_add {fs : List (FieldDeclaration ι)} :
    name ∈ (fs.foldl add d).names ↔ name ∈ d.names ∨ name ∈ fs.map (·.name) := by
  induction fs generalizing d with
  | nil => simp
  | cons f fs ih =>
    rw [List.foldl_cons, ih, mem_names_add, List.map_cons, List.mem_cons, or_comm (a := name = f.name),
      or_assoc]

/-! ## Looking a name up -/

theorem nodup_indexed (hd : d.names.Nodup) : (d.indexed.map (·.name)).Nodup := by
  rw [names, List.map_append] at hd
  exact hd.of_append_left

/-- Where names are distinct, no field is both indexed and not. -/
theorem disjoint_indexed_unindexed (hd : d.names.Nodup) : d.indexed.Disjoint d.unindexed := by
  rw [names] at hd
  exact List.disjoint_of_nodup_append hd.of_map

/-- Where names are distinct, the field that is found is the one that has the name. -/
theorem find?_eq_some_iff_mem {fs : List FieldDescriptor} (hfs : (fs.map (·.name)).Nodup)
    {g : FieldDescriptor} : fs.find? (·.name = name) = some g ↔ g ∈ fs ∧ g.name = name := by
  constructor
  · intro h
    exact ⟨List.mem_of_find?_eq_some h, by simpa using List.find?_some h⟩
  · rintro ⟨hg, rfl⟩
    obtain ⟨h, hfind⟩ := Option.isSome_iff_exists.1 <|
      List.find?_isSome (p := (·.name = g.name)).2 ⟨g, hg, by simp⟩
    have hname : h.name = g.name := by simpa using List.find?_some hfind
    rw [hfind, List.inj_on_of_nodup_map hfs (List.mem_of_find?_eq_some hfind) hg hname]

theorem indexedField?_eq_some_iff (hd : d.names.Nodup) {g : FieldDescriptor} :
    d.indexedField? name = some g ↔ g ∈ d.indexed ∧ g.name = name :=
  find?_eq_some_iff_mem (nodup_indexed hd)

theorem field?_eq_some_iff (hd : d.names.Nodup) {g : FieldDescriptor} :
    d.field? name = some g ↔ g ∈ d.indexed ++ d.unindexed ∧ g.name = name := by
  rw [field?_eq_find?]
  exact find?_eq_some_iff_mem hd

end Descriptor

/-! ## Descriptors of schemas -/

section

variable {P : Descriptor → Prop} (hadd : ∀ (d : Descriptor) (f : FieldDeclaration ι), P d → P (d.add f))

include hadd

theorem foldl_add_induction (fs : List (FieldDeclaration ι)) (hd : P d) :
    P (fs.foldl Descriptor.add d) := by
  induction fs generalizing d with
  | nil => exact hd
  | cons f fs ih => exact ih (hadd d f hd)

theorem Flattening.absorb_induction {w : Flattening} (hw : P w.descriptor) (child : Schema ι) :
    P (w.absorb child).descriptor := by
  unfold absorb
  split
  · exact hw
  · exact foldl_add_induction hadd child.fields hw

theorem Flattening.addOwn_induction {resolve : ι → Schema ι} {w : Flattening}
    (hw : P w.descriptor) (f : FieldDeclaration ι) : P (w.addOwn resolve f).descriptor := by
  have hadded : P (w.descriptor.add f) := hadd _ _ hw
  unfold addOwn
  split
  · exact hw
  · dsimp only
    split
    · split
      · exact absorb_induction hadd hadded _
      · exact hadded
    · exact hadded

theorem Flattening.run_induction {resolve : ι → Schema ι} (fs : List (FieldDeclaration ι))
    {w : Flattening} (hw : P w.descriptor) : P (fs.foldl (addOwn resolve) w).descriptor := by
  induction fs generalizing w with
  | nil => exact hw
  | cons f fs ih => exact ih (w.addOwn_induction hadd hw f)

/-- What holds of a descriptor without fields, and stays when a field is added, holds of the descriptor
of every schema. -/
theorem Schema.describe_induction (resolve : ι → Schema ι) (s : Schema ι)
    (hempty : P (.empty s.indexName)) : P (s.describe resolve) :=
  Flattening.run_induction hadd s.fields hempty

end

/-- No name occurs twice in the descriptor of a schema. -/
theorem Schema.nodup_names_describe (resolve : ι → Schema ι) (s : Schema ι) :
    (s.describe resolve).names.Nodup := by
  apply describe_induction (P := fun d => d.names.Nodup)
  · intro d f hd
    exact Descriptor.nodup_names_add hd
  · exact List.nodup_nil

end RecordSearch
