import Mathlib.Data.List.Induction
import RecordSearch.Proofs.Schema.Names

/-!
# Models flattened into another

Which models a schema's fields bring in can be told without building a descriptor: a field brings its
model in unless a model brought in before has the field's name or the model's type. The names in a
descriptor are then those of the schema's own fields and of all fields of these models, whether they are
indexed or not. So a field that is only stored can take the name of a field that the schema itself
indexes, if its model comes first, and the schema's own field is left out.

## Main definitions

* `FieldDeclaration.included?` — the model that a field includes.
* `Schema.broughtIn` — the models that some fields of a schema bring in.
* `Flattening.Reflects` — the invariant of flattening.

## Main results

* `Flattening.reflects_run` — flattening some fields keeps the invariant.
* `Schema.indexedField?_describe_iff` — an indexed field of a schema is indexed by its descriptor exactly
  if no model brought in before it has its name.
-/

namespace RecordSearch

variable {ι : Type} {resolve : ι → Schema ι} {s : Schema ι}

/-- The model whose fields a field includes, if any. -/
def FieldDeclaration.included? (resolve : ι → Schema ι) (f : FieldDeclaration ι) :
    Option (Schema ι) :=
  f.inclusion?.bind fun inclusion =>
    if inclusion.included then some (resolve inclusion.model) else none

namespace Schema

/-- The names of a schema's own fields. -/
def names (s : Schema ι) : List String :=
  s.fields.map (·.name)

/-- The models brought in by one field more. A field brings none in whose name a model before it has, and
a model comes in once, unless it is of the schema's own type. -/
def bringIn (resolve : ι → Schema ι) (s : Schema ι) (models : List (Schema ι))
    (f : FieldDeclaration ι) : List (Schema ι) :=
  match f.included? resolve with
  | none => models
  | some m =>
    if m.typeName = s.typeName ∨ ∃ n ∈ models, n.typeName = m.typeName ∨ f.name ∈ n.names then models
    else models ++ [m]

/-- The models that some fields of a schema bring in, in order. -/
def broughtIn (resolve : ι → Schema ι) (s : Schema ι) (fs : List (FieldDeclaration ι)) :
    List (Schema ι) :=
  fs.foldl (s.bringIn resolve) []

theorem broughtIn_concat (fs : List (FieldDeclaration ι)) (f : FieldDeclaration ι) :
    s.broughtIn resolve (fs ++ [f]) = s.bringIn resolve (s.broughtIn resolve fs) f := by
  rw [broughtIn, List.foldl_append]
  rfl

theorem subset_bringIn (models : List (Schema ι)) (f : FieldDeclaration ι) :
    models ⊆ s.bringIn resolve models f := by
  unfold bringIn
  split
  · exact List.Subset.refl _
  · split
    · exact List.Subset.refl _
    · exact List.subset_append_left _ _

theorem broughtIn_subset_append (fs gs : List (FieldDeclaration ι)) :
    s.broughtIn resolve fs ⊆ s.broughtIn resolve (fs ++ gs) := by
  induction gs using List.reverseRecOn with
  | nil => rw [List.append_nil]; exact List.Subset.refl _
  | append_singleton gs g ih =>
    rw [← List.append_assoc, broughtIn_concat]
    exact List.Subset.trans ih (subset_bringIn _ g)

end Schema

/-! ## The invariant of flattening -/

/-- The state of flattening a schema after some of its fields, with the models that they brought in. -/
structure Flattening.Reflects (w : Flattening) (s : Schema ι) (fs : List (FieldDeclaration ι))
    (models : List (Schema ι)) : Prop where
  visited : ∀ t, t ∈ w.visited ↔ t = s.typeName ∨ ∃ m ∈ models, m.typeName = t
  names : ∀ name, name ∈ w.descriptor.names ↔
    name ∈ fs.map (·.name) ∨ ∃ m ∈ models, name ∈ m.names
  indexed : ∀ g ∈ w.descriptor.indexed, ∃ f : FieldDeclaration ι,
    (f ∈ fs ∨ ∃ m ∈ models, f ∈ m.fields) ∧ f.index?.isSome = true ∧ f.describe = g

/-- An indexed field after adding is a field before it, or the one that was added. -/
theorem mem_indexed_add {d : Descriptor} {f : FieldDeclaration ι} {g : FieldDescriptor}
    (hg : g ∈ (d.add f).indexed) : g ∈ d.indexed ∨ f.index?.isSome = true ∧ f.describe = g := by
  by_cases h : f.name ∈ d.names
  · rw [Descriptor.add_of_mem h] at hg
    exact .inl hg
  · cases hindex : f.index?.isSome with
    | true =>
      rw [Descriptor.add_of_isSome h hindex, List.mem_append, List.mem_singleton] at hg
      exact hg.imp_right fun hg => ⟨rfl, hg.symm⟩
    | false =>
      rw [Descriptor.add_of_isNone h (by simpa using hindex)] at hg
      exact .inl hg

theorem mem_indexed_foldl_add {d : Descriptor} {fs : List (FieldDeclaration ι)}
    {g : FieldDescriptor} (hg : g ∈ (fs.foldl Descriptor.add d).indexed) :
    g ∈ d.indexed ∨ ∃ f ∈ fs, f.index?.isSome = true ∧ f.describe = g := by
  induction fs generalizing d with
  | nil => exact .inl hg
  | cons f fs ih =>
    rcases ih hg with hg | ⟨e, he, hdescribe⟩
    · exact (mem_indexed_add hg).imp_right fun hf => ⟨f, List.mem_cons_self, hf⟩
    · exact .inr ⟨e, List.mem_cons_of_mem _ he, hdescribe⟩

namespace Flattening

variable {w : Flattening} {fs : List (FieldDeclaration ι)} {models : List (Schema ι)}
  {f : FieldDeclaration ι}

theorem addOwn_of_mem (h : f.name ∈ w.descriptor.names) : w.addOwn resolve f = w :=
  if_pos (Descriptor.declares_iff.2 h)

theorem addOwn_of_notMem (h : f.name ∉ w.descriptor.names) :
    w.addOwn resolve f =
      match f.included? resolve with
      | some m => absorb ⟨w.visited, w.descriptor.add f⟩ m
      | none => ⟨w.visited, w.descriptor.add f⟩ := by
  rw [addOwn, if_neg (mt Descriptor.declares_iff.1 h), FieldDeclaration.included?]
  cases f.inclusion? with
  | none => rfl
  | some inclusion => cases hincluded : inclusion.included <;> simp [hincluded]

theorem absorb_of_mem {visited : List String} {d : Descriptor} {m : Schema ι}
    (h : m.typeName ∈ visited) : absorb ⟨visited, d⟩ m = ⟨visited, d⟩ :=
  if_pos (List.contains_iff_mem.2 h)

theorem absorb_of_notMem {visited : List String} {d : Descriptor} {m : Schema ι}
    (h : m.typeName ∉ visited) :
    absorb ⟨visited, d⟩ m = ⟨m.typeName :: visited, m.fields.foldl Descriptor.add d⟩ :=
  if_neg (mt List.contains_iff_mem.1 h)

theorem reflects_start : Reflects ⟨[s.typeName], .empty s.indexName⟩ s [] [] where
  visited := by simp
  names := by simp
  indexed := by simp [Descriptor.empty]

/-- A field of the schema itself, whose name is free. -/
theorem Reflects.add (hw : w.Reflects s fs models) (f : FieldDeclaration ι) :
    Reflects ⟨w.visited, w.descriptor.add f⟩ s (fs ++ [f]) models where
  visited := hw.visited
  names name := by
    rw [Descriptor.mem_names_add, hw.names, List.map_append, List.mem_append, List.map_singleton,
      List.mem_singleton, or_left_comm, or_assoc, or_left_comm]
  indexed g hg := by
    rcases mem_indexed_add hg with hg | ⟨hindex, hdescribe⟩
    · obtain ⟨e, he, hrest⟩ := hw.indexed g hg
      exact ⟨e, he.imp_left (List.mem_append_left _), hrest⟩
    · exact ⟨f, .inl (by simp), hindex, hdescribe⟩

/-- A model whose type is new. -/
theorem Reflects.absorb (hw : w.Reflects s fs models) (m : Schema ι) :
    Reflects ⟨m.typeName :: w.visited, m.fields.foldl Descriptor.add w.descriptor⟩ s fs
      (models ++ [m]) where
  visited t := by
    rw [List.mem_cons, hw.visited]
    simp only [List.mem_append, List.mem_singleton, or_and_right, exists_or, exists_eq_left]
    rw [or_left_comm, or_comm (a := t = m.typeName), eq_comm (a := t) (b := m.typeName)]
  names name := by
    rw [Descriptor.mem_names_foldl_add, hw.names]
    simp only [List.mem_append, List.mem_singleton, or_and_right, exists_or, exists_eq_left, or_assoc]
    rfl
  indexed g hg := by
    rcases mem_indexed_foldl_add hg with hg | ⟨e, he, hrest⟩
    · obtain ⟨e, he, hrest⟩ := hw.indexed g hg
      refine ⟨e, he.imp_right ?_, hrest⟩
      rintro ⟨n, hn, hen⟩
      exact ⟨n, List.mem_append_left _ hn, hen⟩
    · exact ⟨e, .inr ⟨m, by simp, he⟩, hrest⟩

/-- Flattening one field more keeps the invariant, if the field has a name of its own. -/
theorem Reflects.addOwn (hw : w.Reflects s fs models) (hf : f.name ∉ fs.map (·.name)) :
    (w.addOwn resolve f).Reflects s (fs ++ [f]) (s.bringIn resolve models f) := by
  by_cases htaken : ∃ n ∈ models, f.name ∈ n.names
  · -- A model has the name already, so the field is left out and brings nothing in.
    have hsame : s.bringIn resolve models f = models := by
      obtain ⟨n, hn, hname⟩ := htaken
      unfold Schema.bringIn
      split
      · rfl
      · exact if_pos (.inr ⟨n, hn, .inr hname⟩)
    have hmem : f.name ∈ w.descriptor.names := (hw.names _).2 (.inr htaken)
    have hadded := hw.add f
    rw [Descriptor.add_of_mem hmem] at hadded
    rw [addOwn_of_mem hmem, hsame]
    exact hadded
  · have hfree : f.name ∉ w.descriptor.names := by
      rw [hw.names]
      exact not_or_intro hf htaken
    rw [addOwn_of_notMem hfree, Schema.bringIn]
    cases f.included? resolve with
    | none => exact hw.add f
    | some m =>
      -- The model is new to the state exactly if its type is new to the models.
      have hvisited : (m.typeName = s.typeName ∨
          ∃ n ∈ models, n.typeName = m.typeName ∨ f.name ∈ n.names) ↔ m.typeName ∈ w.visited := by
        rw [hw.visited]
        refine or_congr_right (exists_congr fun n => and_congr_right fun hn => ?_)
        exact or_iff_left fun hname => htaken ⟨n, hn, hname⟩
      by_cases hnew : m.typeName ∈ w.visited
      · dsimp only
        rw [if_pos (hvisited.2 hnew), absorb_of_mem hnew]
        exact hw.add f
      · dsimp only
        rw [if_neg (mt hvisited.1 hnew), absorb_of_notMem hnew]
        exact (hw.add f).absorb m

/-- Flattening some fields of distinct names keeps the invariant. -/
theorem reflects_run (hfs : (fs.map (·.name)).Nodup) :
    (fs.foldl (addOwn resolve) ⟨[s.typeName], .empty s.indexName⟩).Reflects s fs
      (s.broughtIn resolve fs) := by
  induction fs using List.reverseRecOn with
  | nil => exact reflects_start
  | append_singleton fs f ih =>
    rw [List.map_append, List.map_singleton, List.nodup_append] at hfs
    obtain ⟨hinit, -, hfresh⟩ := hfs
    rw [List.foldl_append, Schema.broughtIn_concat]
    apply (ih hinit).addOwn
    intro hmem
    exact hfresh _ hmem _ (List.mem_singleton_self _) rfl

/-- An indexed field whose name is free is indexed from then on. -/
theorem mem_indexed_addOwn (h : f.name ∉ w.descriptor.names) (hindex : f.index?.isSome = true) :
    f.describe ∈ (w.addOwn resolve f).descriptor.indexed := by
  have hadded : f.describe ∈ (w.descriptor.add f).indexed := by
    rw [Descriptor.add_of_isSome h hindex]
    exact List.mem_append_right _ (List.mem_singleton_self _)
  rw [addOwn_of_notMem h]
  split
  · exact absorb_induction (P := fun d => f.describe ∈ d.indexed)
      (fun d e hd => (d.subset_add e).1 hd) hadded _
  · exact hadded

/-- A name that no indexed field has, but some field, is the name of a stored one. -/
theorem Reflects.mem_unindexed (hw : w.Reflects s fs models) {name : String}
    (hname : name ∈ w.descriptor.names) (hown : name ∉ fs.map (·.name))
    (hother : ∀ m ∈ models, ∀ g ∈ m.fields, g.index?.isSome = true → g.name ≠ name) :
    ∃ g ∈ w.descriptor.unindexed, g.name = name := by
  obtain ⟨g, hg, rfl⟩ := List.mem_map.1 hname
  rcases List.mem_append.1 hg with hg | hg
  · -- Were it indexed, it would stem from an indexed field of the schema or of a model.
    obtain ⟨e, he, hindex, rfl⟩ := hw.indexed g hg
    rw [e.name_describe] at hown hother
    rcases he with he | ⟨m, hm, he⟩
    · exact absurd (List.mem_map_of_mem he) hown
    · exact absurd rfl (hother m hm e he hindex)
  · exact ⟨g, hg, rfl⟩

end Flattening

/-! ## Fields of the schema itself -/

namespace Schema

variable {before after : List (FieldDeclaration ι)} {f : FieldDeclaration ι} {options : IndexOptions}

/-- A field that the schema indexes is in its descriptor with the kind and the flag declared, unless a
model brought in before the field has its name. -/
theorem indexedField?_describe_iff (hdistinct : s.names.Nodup)
    (hfields : s.fields = before ++ f :: after) (hindex : f.index? = some options)
    (hother : ∀ m ∈ s.broughtIn resolve s.fields, ∀ g ∈ m.fields,
      g.index?.isSome = true → g.name ≠ f.name) :
    (∃ g, (s.describe resolve).indexedField? f.name = some g ∧
        g.kind = options.resolve f.type ∧ g.sortable = options.sortable) ↔
      ∀ m ∈ s.broughtIn resolve before, f.name ∉ m.names := by
  rw [names, hfields, List.map_append, List.map_cons, List.nodup_append, List.nodup_cons] at hdistinct
  obtain ⟨hbefore, -, hapart⟩ := hdistinct
  have hown : f.name ∉ before.map (·.name) :=
    fun hmem => hapart _ hmem _ List.mem_cons_self rfl
  have hrun : (before.foldl (Flattening.addOwn resolve)
      ⟨[s.typeName], .empty s.indexName⟩).Reflects s before (s.broughtIn resolve before) :=
    Flattening.reflects_run hbefore
  have hnodup := nodup_names_describe resolve s
  -- What is in the descriptor once the field's turn has passed stays in it.
  have hdescribe : s.describe resolve = (after.foldl (Flattening.addOwn resolve)
      ((before.foldl (Flattening.addOwn resolve) ⟨[s.typeName], .empty s.indexName⟩).addOwn
        resolve f)).descriptor := by
    rw [describe, hfields, List.foldl_append, List.foldl_cons]
  constructor
  · rintro ⟨g, hg, -⟩ m hm hname
    have htaken := (hrun.names f.name).2 (.inr ⟨m, hm, hname⟩)
    obtain ⟨e, he, hename⟩ := hrun.mem_unindexed htaken hown fun n hn =>
      hother n (hfields ▸ broughtIn_subset_append before (f :: after) hn)
    have hkept : e ∈ (s.describe resolve).unindexed := by
      rw [hdescribe, Flattening.addOwn_of_mem htaken]
      exact Flattening.run_induction (P := fun d => e ∈ d.unindexed)
        (fun d e he => (d.subset_add e).2 he) after he
    obtain ⟨hg, hgname⟩ := (Descriptor.indexedField?_eq_some_iff hnodup).1 hg
    rw [Descriptor.names, List.map_append, List.nodup_append] at hnodup
    exact hnodup.2.2 _ (List.mem_map_of_mem hg) _ (List.mem_map_of_mem hkept)
      (hgname.trans hename.symm)
  · intro hfree
    have hnew : f.name ∉ (before.foldl (Flattening.addOwn resolve)
        ⟨[s.typeName], .empty s.indexName⟩).descriptor.names := by
      rw [hrun.names]
      rintro (hname | ⟨m, hm, hname⟩)
      · exact hown hname
      · exact hfree m hm hname
    have hmem : f.describe ∈ (s.describe resolve).indexed := by
      rw [hdescribe]
      exact Flattening.run_induction (P := fun d => f.describe ∈ d.indexed)
        (fun d e hd => (d.subset_add e).1 hd) after
        (Flattening.mem_indexed_addOwn hnew (by rw [hindex]; rfl))
    refine ⟨f.describe, (Descriptor.indexedField?_eq_some_iff hnodup).2 ⟨hmem, f.name_describe⟩, ?_⟩
    rw [FieldDeclaration.describe, hindex]
    exact ⟨rfl, rfl⟩

/-- A model that comes first, with a stored field of another name, leaves the schema's own field
alone. -/
theorem indexedField?_describe_of_pets :
    ∃ g, (describe
        (fun _ => ⟨"pets", "Pet", [⟨"Age", .int32, some {}, none⟩, ⟨"Chip", .text, none, none⟩]⟩)
        (⟨"owners", "Owner", [⟨"Pet", .composite "Pet", none, some ⟨(), true⟩⟩,
          ⟨"Name", .text, some ⟨some .tag, true⟩, none⟩]⟩ : Schema Unit)).indexedField? "Name" = some g ∧
      g.kind = .tag ∧ g.sortable = true := by
  have hfields : (⟨"owners", "Owner", [⟨"Pet", .composite "Pet", none, some ⟨(), true⟩⟩,
      ⟨"Name", .text, some ⟨some .tag, true⟩, none⟩]⟩ : Schema Unit).fields =
      [⟨"Pet", .composite "Pet", none, some ⟨(), true⟩⟩] ++
        ⟨"Name", .text, some ⟨some .tag, true⟩, none⟩ :: [] := rfl
  exact (indexedField?_describe_iff (by decide) hfields rfl (by decide)).2 (by decide)

/-- A model that comes first, with a stored field of the same name, hides the schema's own field,
although it indexes no field of that name. -/
theorem indexedField?_describe_of_namesake :
    (⟨"owners", "Owner", [⟨"Pet", .composite "Pet", none, some ⟨(), true⟩⟩,
        ⟨"Name", .text, some {}, none⟩]⟩ : Schema Unit).names.Nodup ∧
      (∀ g ∈ (⟨"pets", "Pet", [⟨"Name", .text, none, none⟩]⟩ : Schema Unit).fields,
        g.index?.isSome = true → g.name ≠ "Name") ∧
      (describe (fun _ => ⟨"pets", "Pet", [⟨"Name", .text, none, none⟩]⟩)
        (⟨"owners", "Owner", [⟨"Pet", .composite "Pet", none, some ⟨(), true⟩⟩,
          ⟨"Name", .text, some {}, none⟩]⟩ : Schema Unit)).indexedField? "Name" = none := by
  decide

end Schema

end RecordSearch
