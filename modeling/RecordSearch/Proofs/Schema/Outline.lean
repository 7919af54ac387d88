import RecordSearch.Proofs.Schema.Flattening

/-!
# Descriptors, one level deep

The descriptor of a schema can be read off an outline: the fields of the schema in order, and behind each the
fields of the model that it brings in. A field brings in the model that it includes, unless the field's own name
is taken by then, or a model of that type is in the outline already, the schema itself counting as one. Of
several fields of one name the first is listed, among the indexed fields or among the others.

Models can be visited down to any number of levels, and a descriptor is what a visit of one level adds. So
nothing is in it that neither the schema nor a model that it includes declares, however the models include each
other, and every name of the schema itself is in it.

## Main definitions

* `Section`, `Schema.sections` — a field with the model that it brings in, and the outline of a schema.
* `firstOfNames`, `Schema.listed` — the fields whose names are new, and those of an outline.
* `Flattening.visit` — adding the fields of models down to any number of levels.
* `FieldDescriptor.StemsFrom` — what a declaration says of a field of a descriptor.
* `Schema.Reaches` — the declarations of a schema and of the models that it includes.

## Main results

* `foldl_add_eq` — adding fields one by one lists the first of each name.
* `Flattening.follows_run` — flattening follows the outline.
* `Schema.describe_eq_visit` — a descriptor is a visit that goes one level down.
* `Schema.describe_outline` — the descriptor of a schema, read off its outline.
-/

namespace RecordSearch

variable {ι : Type} {resolve : ι → Schema ι} {s : Schema ι}

/-! ## The first of each name -/

/-- The fields whose names are neither taken nor those of fields in front of them. -/
def firstOfNames (taken : List String) : List (FieldDeclaration ι) → List (FieldDeclaration ι)
  | [] => []
  | f :: fs =>
    if f.name ∈ taken then firstOfNames taken fs else f :: firstOfNames (f.name :: taken) fs

theorem firstOfNames_congr {a b : List String} (h : ∀ name, name ∈ a ↔ name ∈ b)
    (fs : List (FieldDeclaration ι)) : firstOfNames a fs = firstOfNames b fs := by
  induction fs generalizing a b with
  | nil => rfl
  | cons f fs ih =>
    have hcons : ∀ name, name ∈ f.name :: a ↔ name ∈ f.name :: b := by simp [h]
    simp only [firstOfNames, h, ih h, ih hcons]

theorem firstOfNames_sublist (taken : List String) (fs : List (FieldDeclaration ι)) :
    (firstOfNames taken fs).Sublist fs := by
  induction fs generalizing taken with
  | nil => exact .slnil
  | cons f fs ih =>
    unfold firstOfNames
    split
    · exact .cons _ (ih taken)
    · exact .cons_cons _ (ih _)

/-- Adding fields one by one lists the first of each name, indexed ones apart from the others. -/
theorem foldl_add_eq (d : Descriptor) (fs : List (FieldDeclaration ι)) :
    fs.foldl Descriptor.add d =
      ⟨d.indexName,
        d.indexed ++ ((firstOfNames d.names fs).filter (·.index?.isSome)).map (·.describe),
        d.unindexed ++ ((firstOfNames d.names fs).filter (·.index?.isNone)).map (·.describe)⟩ := by
  induction fs generalizing d with
  | nil => simp [firstOfNames]
  | cons f fs ih =>
    rw [List.foldl_cons, ih, firstOfNames]
    by_cases h : f.name ∈ d.names
    · rw [Descriptor.add_of_mem h, if_pos h]
    · have hnames : firstOfNames (d.add f).names fs = firstOfNames (f.name :: d.names) fs :=
        firstOfNames_congr (fun name => by rw [Descriptor.mem_names_add, List.mem_cons]) fs
      rw [if_neg h, hnames]
      cases hindex : f.index?.isSome with
      | true =>
        have hnone : f.index?.isNone = false := by simpa using hindex
        rw [Descriptor.add_of_isSome h hindex]
        simp [hindex, hnone]
      | false =>
        have hnone : f.index?.isNone = true := by simpa using hindex
        rw [Descriptor.add_of_isNone h hnone]
        simp [hindex, hnone]

/-! ## Outlines -/

/-- A field of a schema, and the model that it brings in, if any. -/
structure Section (ι : Type) where
  field : FieldDeclaration ι
  model? : Option (Schema ι)

/-- The field itself, and behind it the fields of its model. -/
def Section.fields (x : Section ι) : List (FieldDeclaration ι) :=
  x.field :: x.model?.elim [] (·.fields)

/-- The types of the models that are brought in. -/
def modelTypes (sections : List (Section ι)) : List String :=
  sections.filterMap fun x => x.model?.map (·.typeName)

theorem modelTypes_concat_none (sections : List (Section ι)) (f : FieldDeclaration ι) :
    modelTypes (sections ++ [⟨f, none⟩]) = modelTypes sections := by
  rw [modelTypes, List.filterMap_append]
  exact List.append_nil _

theorem modelTypes_concat_some (sections : List (Section ι)) (f : FieldDeclaration ι) (m : Schema ι) :
    modelTypes (sections ++ [⟨f, some m⟩]) = modelTypes sections ++ [m.typeName] := by
  rw [modelTypes, List.filterMap_append]
  rfl

namespace Schema

/-- The model that a field brings in behind some sections: the one it includes, unless its name stands in them,
or the model's type is that of a model in them or the schema's own. -/
def newModel? (resolve : ι → Schema ι) (s : Schema ι) (sections : List (Section ι))
    (f : FieldDeclaration ι) : Option (Schema ι) :=
  (f.included? resolve).filter fun m =>
    f.name ∉ (sections.flatMap Section.fields).map (·.name) ∧ m.typeName ∉ s.typeName :: modelTypes sections

/-- The sections that some fields of a schema make, in order. -/
def sectionsOf (resolve : ι → Schema ι) (s : Schema ι) (fs : List (FieldDeclaration ι)) :
    List (Section ι) :=
  fs.foldl (fun sections f => sections ++ [⟨f, s.newModel? resolve sections f⟩]) []

/-- The outline of a schema. -/
def sections (resolve : ι → Schema ι) (s : Schema ι) : List (Section ι) :=
  s.sectionsOf resolve s.fields

theorem sectionsOf_concat (fs : List (FieldDeclaration ι)) (f : FieldDeclaration ι) :
    s.sectionsOf resolve (fs ++ [f]) =
      s.sectionsOf resolve fs ++ [⟨f, s.newModel? resolve (s.sectionsOf resolve fs) f⟩] := by
  rw [sectionsOf, List.foldl_append]
  rfl

theorem map_field_sectionsOf (resolve : ι → Schema ι) (s : Schema ι) (fs : List (FieldDeclaration ι)) :
    (s.sectionsOf resolve fs).map (·.field) = fs := by
  induction fs using List.reverseRecOn with
  | nil => rfl
  | append_singleton fs f ih => rw [sectionsOf_concat, List.map_append, ih, List.map_singleton]

theorem newModel?_eq_some_iff {sections : List (Section ι)} {f : FieldDeclaration ι} {m : Schema ι} :
    s.newModel? resolve sections f = some m ↔
      f.included? resolve = some m ∧ f.name ∉ (sections.flatMap Section.fields).map (·.name) ∧
        m.typeName ∉ s.typeName :: modelTypes sections := by
  rw [newModel?, Option.filter_eq_some_iff, decide_eq_true_eq]

/-- A model that is brought in is included by the field that brings it in. -/
theorem included?_of_mem_sectionsOf {fs : List (FieldDeclaration ι)} {x : Section ι}
    (hx : x ∈ s.sectionsOf resolve fs) {m : Schema ι} (hm : x.model? = some m) :
    x.field.included? resolve = some m := by
  induction fs using List.reverseRecOn with
  | nil => contradiction
  | append_singleton fs f ih =>
    rw [sectionsOf_concat, List.mem_append, List.mem_singleton] at hx
    rcases hx with hx | rfl
    · exact ih hx
    · exact (newModel?_eq_some_iff.1 hm).1

/-- A model type comes in once at most, and the schema's own never. -/
theorem nodup_modelTypes_sectionsOf (fs : List (FieldDeclaration ι)) :
    (s.typeName :: modelTypes (s.sectionsOf resolve fs)).Nodup := by
  induction fs using List.reverseRecOn with
  | nil => exact List.nodup_singleton _
  | append_singleton fs f ih =>
    rw [sectionsOf_concat]
    cases hnew : s.newModel? resolve (s.sectionsOf resolve fs) f with
    | none => rwa [modelTypes_concat_none]
    | some m =>
      obtain ⟨-, -, hfresh⟩ := newModel?_eq_some_iff.1 hnew
      rw [modelTypes_concat_some, ← List.cons_append, List.nodup_append_comm]
      exact ih.cons hfresh

end Schema

/-! ## Flattening follows the outline -/

/-- The state of flattening that the sections of an outline lead to. -/
structure Flattening.Follows (w : Flattening) (s : Schema ι) (sections : List (Section ι)) : Prop where
  visited : ∀ t, t ∈ w.visited ↔ t ∈ s.typeName :: modelTypes sections
  descriptor : w.descriptor = (sections.flatMap Section.fields).foldl Descriptor.add (.empty s.indexName)

namespace Flattening

variable {w : Flattening} {sections : List (Section ι)} {f : FieldDeclaration ι}

theorem Follows.mem_names (hw : w.Follows s sections) (name : String) :
    name ∈ w.descriptor.names ↔ name ∈ (sections.flatMap Section.fields).map (·.name) := by
  rw [hw.descriptor, Descriptor.mem_names_foldl_add]
  simp

/-- A section without a model adds its field only. -/
theorem Follows.alone (hw : w.Follows s sections) (f : FieldDeclaration ι) :
    Follows ⟨w.visited, w.descriptor.add f⟩ s (sections ++ [⟨f, none⟩]) where
  visited := by rw [modelTypes_concat_none]; exact hw.visited
  descriptor := by simp [Section.fields, hw.descriptor]

/-- A section with a model adds the fields of the model too. -/
theorem Follows.withModel (hw : w.Follows s sections) (f : FieldDeclaration ι) (m : Schema ι) :
    Follows ⟨m.typeName :: w.visited, m.fields.foldl Descriptor.add (w.descriptor.add f)⟩ s
      (sections ++ [⟨f, some m⟩]) where
  visited t := by
    rw [List.mem_cons, hw.visited, modelTypes_concat_some, ← List.cons_append, List.mem_append,
      List.mem_singleton, or_comm]
  descriptor := by simp [Section.fields, hw.descriptor]

/-- Flattening one field more follows one section more. -/
theorem Follows.addOwn (hw : w.Follows s sections) (f : FieldDeclaration ι) :
    (w.addOwn resolve f).Follows s (sections ++ [⟨f, s.newModel? resolve sections f⟩]) := by
  have halone := hw.alone f
  by_cases hname : f.name ∈ w.descriptor.names
  · -- The name is taken, so that neither the field nor its model adds anything.
    have hnew : s.newModel? resolve sections f = none := by
      refine Option.eq_none_iff_forall_ne_some.2 fun m hm => ?_
      obtain ⟨-, hfree, -⟩ := Schema.newModel?_eq_some_iff.1 hm
      exact hfree ((hw.mem_names _).1 hname)
    rw [Descriptor.add_of_mem hname] at halone
    rw [addOwn_of_mem hname, hnew]
    exact halone
  · rw [addOwn_of_notMem hname]
    cases hincluded : f.included? resolve with
    | none =>
      have hnew : s.newModel? resolve sections f = none := by rw [Schema.newModel?, hincluded]; rfl
      rw [hnew]
      exact halone
    | some m =>
      dsimp only
      by_cases htype : m.typeName ∈ w.visited
      · have hnew : s.newModel? resolve sections f = none := by
          refine Option.eq_none_iff_forall_ne_some.2 fun n hn => ?_
          obtain ⟨hn, -, hfresh⟩ := Schema.newModel?_eq_some_iff.1 hn
          cases hincluded.symm.trans hn
          exact hfresh ((hw.visited _).1 htype)
        rw [absorb_of_mem htype, hnew]
        exact halone
      · have hnew : s.newModel? resolve sections f = some m :=
          Schema.newModel?_eq_some_iff.2
            ⟨hincluded, mt (hw.mem_names _).2 hname, mt (hw.visited _).2 htype⟩
        rw [absorb_of_notMem htype, hnew]
        exact hw.withModel f m

theorem follows_start : Follows ⟨[s.typeName], .empty s.indexName⟩ s [] where
  visited t := by simp [modelTypes]
  descriptor := rfl

/-- Flattening some fields follows the sections that they make. -/
theorem follows_run (fs : List (FieldDeclaration ι)) :
    (fs.foldl (addOwn resolve) ⟨[s.typeName], .empty s.indexName⟩).Follows s (s.sectionsOf resolve fs) := by
  induction fs using List.reverseRecOn with
  | nil => exact follows_start
  | append_singleton fs f ih =>
    rw [List.foldl_append, Schema.sectionsOf_concat]
    exact ih.addOwn f

/-! ## Visiting models level by level -/

/-- Add a field whose name is free, and descend into the model that it includes. -/
def visitField (resolve : ι → Schema ι) (descend : Flattening → Schema ι → Flattening) (w : Flattening)
    (f : FieldDeclaration ι) : Flattening :=
  if w.descriptor.declares f.name then w
  else
    match f.included? resolve with
    | some m => descend ⟨w.visited, w.descriptor.add f⟩ m
    | none => ⟨w.visited, w.descriptor.add f⟩

/-- Add the fields of a model, unless its type has been visited. -/
def visitFields (resolve : ι → Schema ι) (descend : Flattening → Schema ι → Flattening) (w : Flattening)
    (m : Schema ι) : Flattening :=
  if w.visited.contains m.typeName then w
  else m.fields.foldl (visitField resolve descend) ⟨m.typeName :: w.visited, w.descriptor⟩

/-- Add the fields of a model, and those of the models it includes, down to a number of levels. -/
def visit (resolve : ι → Schema ι) : Nat → Flattening → Schema ι → Flattening
  | 0 => visitFields resolve fun w _ => w
  | levels + 1 => visitFields resolve (visit resolve levels)

/-- Without a model to descend into, a visited field is added. -/
theorem visitField_stay (resolve : ι → Schema ι) (w : Flattening) (f : FieldDeclaration ι) :
    visitField resolve (fun w _ => w) w f = ⟨w.visited, w.descriptor.add f⟩ := by
  by_cases h : w.descriptor.declares f.name = true
  · rw [visitField, if_pos h, Descriptor.add, if_pos h]
  · rw [visitField, if_neg h]
    cases f.included? resolve <;> rfl

theorem foldl_visitField_stay (fs : List (FieldDeclaration ι)) (visited : List String) (d : Descriptor) :
    fs.foldl (visitField resolve fun w _ => w) ⟨visited, d⟩ = ⟨visited, fs.foldl Descriptor.add d⟩ := by
  induction fs generalizing d with
  | nil => rfl
  | cons f fs ih => rw [List.foldl_cons, visitField_stay, ih, List.foldl_cons]

/-- At the last level a model adds its own fields only. -/
theorem visit_zero (resolve : ι → Schema ι) : visit resolve 0 = absorb := by
  funext w m
  rw [visit, visitFields, absorb, foldl_visitField_stay]

theorem addOwn_eq_visitField : addOwn resolve = visitField resolve absorb := by
  funext w f
  by_cases h : f.name ∈ w.descriptor.names
  · rw [addOwn_of_mem h, visitField, if_pos (Descriptor.declares_iff.2 h)]
  · have hfree := mt Descriptor.declares_iff.1 h
    cases hincluded : f.included? resolve <;>
      simp only [addOwn_of_notMem h, visitField, if_neg hfree, hincluded]

end Flattening

/-- A descriptor is what a visit of the schema adds with one level beneath it. -/
theorem Schema.describe_eq_visit (resolve : ι → Schema ι) (s : Schema ι) :
    s.describe resolve = (Flattening.visit resolve 1 ⟨[], .empty s.indexName⟩ s).descriptor := by
  rw [describe, Flattening.addOwn_eq_visitField, ← Flattening.visit_zero]
  rfl

/-! ## What a descriptor lists -/

namespace FieldType

theorem inner_inner (t : FieldType) : t.inner.inner = t.inner := by
  induction t with
  | optional t ih => exact ih
  | _ => rfl

@[simp] theorem classify_inner (t : FieldType) : t.inner.classify = t.classify := by
  rw [classify, inner_inner, classify]

end FieldType

/-- What a field of a descriptor has from a declaration. -/
structure FieldDescriptor.StemsFrom (g : FieldDescriptor) (f : FieldDeclaration ι) : Prop where
  name : g.name = f.name
  type : g.type = f.type
  kind : g.kind = (f.index?.bind (·.kind)).getD f.type.inner.classify
  sortable : g.sortable = (f.index?.map (·.sortable)).getD false

theorem FieldDeclaration.stemsFrom_describe (f : FieldDeclaration ι) : f.describe.StemsFrom f where
  name := f.name_describe
  type := by unfold describe; split <;> rfl
  kind := by
    rw [FieldType.classify_inner]
    unfold describe
    split <;> rename_i h <;> rw [h] <;> rfl
  sortable := by
    unfold describe
    split <;> rename_i h <;> rw [h] <;> rfl

namespace Schema

/-- The declarations of a schema and of the models that its fields include. -/
def Reaches (resolve : ι → Schema ι) (s : Schema ι) (f : FieldDeclaration ι) : Prop :=
  f ∈ s.fields ∨ ∃ own ∈ s.fields, ∃ m, own.included? resolve = some m ∧ f ∈ m.fields

/-- The declarations that a descriptor lists: of those in the outline, the first of each name. -/
def listed (resolve : ι → Schema ι) (s : Schema ι) : List (FieldDeclaration ι) :=
  firstOfNames [] ((s.sections resolve).flatMap Section.fields)

theorem describe_eq_listed (resolve : ι → Schema ι) (s : Schema ι) :
    s.describe resolve =
      ⟨s.indexName, ((s.listed resolve).filter (·.index?.isSome)).map (·.describe),
        ((s.listed resolve).filter (·.index?.isNone)).map (·.describe)⟩ := by
  rw [describe, (Flattening.follows_run s.fields).descriptor, foldl_add_eq]
  rfl

theorem reaches_of_mem_listed {f : FieldDeclaration ι} (hf : f ∈ s.listed resolve) :
    s.Reaches resolve f := by
  obtain ⟨x, hx, hf⟩ := List.mem_flatMap.1 ((firstOfNames_sublist _ _).subset hf)
  have hown : x.field ∈ s.fields := by
    rw [← map_field_sectionsOf resolve s s.fields]
    exact List.mem_map_of_mem hx
  rcases List.mem_cons.1 hf with rfl | hf
  · exact .inl hown
  · cases hm : x.model? with
    | none => rw [hm] at hf; contradiction
    | some m =>
      rw [hm] at hf
      exact .inr ⟨x.field, hown, m, included?_of_mem_sectionsOf hx hm, hf⟩

theorem mem_indexed_describe_iff {g : FieldDescriptor} :
    g ∈ (s.describe resolve).indexed ↔ ∃ f ∈ s.listed resolve, f.index?.isSome = true ∧ f.describe = g := by
  rw [describe_eq_listed, List.mem_map]
  simp only [List.mem_filter, and_assoc]

theorem mem_unindexed_describe_iff {g : FieldDescriptor} :
    g ∈ (s.describe resolve).unindexed ↔ ∃ f ∈ s.listed resolve, f.index?.isNone = true ∧ f.describe = g := by
  rw [describe_eq_listed, List.mem_map]
  simp only [List.mem_filter, and_assoc]

/-- Every field of a descriptor stems from a declaration within reach, and is indexed exactly if the
declaration is. -/
theorem exists_stemsFrom {g : FieldDescriptor}
    (hg : g ∈ (s.describe resolve).indexed ++ (s.describe resolve).unindexed) :
    ∃ f, s.Reaches resolve f ∧ g.StemsFrom f ∧
      (g ∈ (s.describe resolve).indexed ↔ f.index?.isSome = true) ∧
      (g ∈ (s.describe resolve).unindexed ↔ f.index?.isNone = true) := by
  have hdisjoint := Descriptor.disjoint_indexed_unindexed (nodup_names_describe resolve s)
  rcases List.mem_append.1 hg with hg | hg
  · obtain ⟨f, hf, hindex, rfl⟩ := mem_indexed_describe_iff.1 hg
    have hnone : ¬ f.index?.isNone = true := by simpa [Option.isSome_iff_ne_none] using hindex
    exact ⟨f, reaches_of_mem_listed hf, f.stemsFrom_describe, iff_of_true hg hindex,
      iff_of_false (hdisjoint hg) hnone⟩
  · obtain ⟨f, hf, hindex, rfl⟩ := mem_unindexed_describe_iff.1 hg
    have hsome : ¬ f.index?.isSome = true := by simpa using hindex
    exact ⟨f, reaches_of_mem_listed hf, f.stemsFrom_describe,
      iff_of_false (fun hindexed => hdisjoint hindexed hg) hsome, iff_of_true hg hindex⟩

/-- A name that no declaration within reach has is not found. -/
theorem field?_describe_eq_none {name : String} (h : ∀ f, s.Reaches resolve f → f.name ≠ name) :
    (s.describe resolve).field? name = none := by
  rw [Descriptor.field?_eq_find?, List.find?_eq_none]
  intro g hg
  obtain ⟨f, hf, hstems, -⟩ := exists_stemsFrom hg
  simpa [hstems.name] using h f hf

/-- Every name of the schema itself is found. -/
theorem exists_field?_describe {f : FieldDeclaration ι} (hf : f ∈ s.fields) :
    ∃ g, (s.describe resolve).field? f.name = some g := by
  have hmem : f.name ∈ (s.describe resolve).names := by
    rw [describe, (Flattening.follows_run s.fields).mem_names]
    rw [← map_field_sectionsOf resolve s s.fields] at hf
    obtain ⟨x, hx, rfl⟩ := List.mem_map.1 hf
    exact List.mem_map_of_mem (List.mem_flatMap.2 ⟨x, hx, List.mem_cons_self⟩)
  exact Option.isSome_iff_exists.1 (Descriptor.declares_iff.2 hmem)

/-- The descriptor of a schema is what a visit adds that goes one level beneath the schema, however its models
nest. It lists the declarations of the outline in order, the first of each name, indexed ones apart from the
others, where a field's model stands right behind the field, is one that the field includes, and comes in once,
the schema itself never. So every field stems from a declaration of the schema or of a model that it includes,
is indexed exactly if that declaration is, a name that none of these declares is not found, and every name of
the schema itself is. -/
theorem describe_outline (resolve : ι → Schema ι) (s : Schema ι) :
    s.describe resolve = (Flattening.visit resolve 1 ⟨[], .empty s.indexName⟩ s).descriptor ∧
      s.describe resolve =
        ⟨s.indexName, ((s.listed resolve).filter (·.index?.isSome)).map (·.describe),
          ((s.listed resolve).filter (·.index?.isNone)).map (·.describe)⟩ ∧
      (s.sections resolve).map (·.field) = s.fields ∧
      (∀ x ∈ s.sections resolve, ∀ m, x.model? = some m → x.field.included? resolve = some m) ∧
      (s.typeName :: modelTypes (s.sections resolve)).Nodup ∧
      (∀ g ∈ (s.describe resolve).indexed ++ (s.describe resolve).unindexed,
        ∃ f, s.Reaches resolve f ∧ g.StemsFrom f ∧
          (g ∈ (s.describe resolve).indexed ↔ f.index?.isSome = true) ∧
          (g ∈ (s.describe resolve).unindexed ↔ f.index?.isNone = true)) ∧
      (∀ name, (∀ f, s.Reaches resolve f → f.name ≠ name) → (s.describe resolve).field? name = none) ∧
      ∀ f ∈ s.fields, ∃ g, (s.describe resolve).field? f.name = some g := by
  refine ⟨describe_eq_visit resolve s, describe_eq_listed resolve s, map_field_sectionsOf resolve s s.fields, ?_,
    nodup_modelTypes_sectionsOf s.fields, fun g hg => exists_stemsFrom hg,
    fun name h => field?_describe_eq_none h, fun f hf => exists_field?_describe hf⟩
  intro x hx m hm
  exact included?_of_mem_sectionsOf hx hm

/-- Two pets of one model come in once, and what their chips hold does not. -/
example :
    (describe
        (fun
          | true => ⟨"pets", "Pet", [⟨"PetName", .text, some {}, none⟩,
              ⟨"Chip", .composite "Chip", none, some ⟨false, true⟩⟩]⟩
          | false => ⟨"chips", "Chip", [⟨"Code", .text, some {}, none⟩]⟩)
        (⟨"households", "Household", [⟨"Cat", .composite "Pet", none, some ⟨true, true⟩⟩,
          ⟨"Dog", .composite "Pet", none, some ⟨true, true⟩⟩,
          ⟨"Size", .int32, some {}, none⟩]⟩ : Schema Bool)).indexed.map (·.name) =
      ["PetName", "Size"] := by
  decide

end Schema

end RecordSearch
