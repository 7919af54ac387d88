import Mathlib.Data.List.Basic
import Mathlib.Data.List.Infix
import RecordSearch.Index.Definition

/-!
# What a fingerprint text says about a schema

The text behind a fingerprint puts the shapes of the fields one after another, with no escape for what a
name may hold. Schema arguments have no such trouble: the last of them tells whether the last field is
sortable, so they are read from the right and determine the fields.

A name that holds the end of a shape can pose as several fields. Names that hold none are told apart, and
every other definition shares its text with one whose schema differs.

## Main definitions

* `IndexField.ending` — what follows the name in a shape.
* `IndexField.IsSealed`, `IndexDefinition.IsSealed` — no name holds such an end.

## Main results

* `fields_eq_of_schemaArguments_eq` — schema arguments determine the fields.
* `createArguments_determine` — the arguments that create an index determine its definition.
* `fields_eq_of_shape_eq` — so does the text, where names are sealed.
* `shape_identifies_schema` — equal texts mean equal schemas among sealed definitions, and only there.
-/

namespace RecordSearch

/-! ## Schema arguments read from the right -/

namespace IndexField

theorem keyword_ne_sortable (kind : FieldKind) : kind.keyword ≠ "SORTABLE" := by
  cases kind <;> decide

theorem keyword_injective {k l : FieldKind} (h : k.keyword = l.keyword) : k = l := by
  revert h
  cases k <;> cases l <;> decide

/-- The arguments of the last field are determined by what they end in. -/
theorem eq_of_append_arguments_eq {xs ys : List String} {f g : IndexField}
    (h : xs ++ f.arguments = ys ++ g.arguments) : xs = ys ∧ f = g := by
  obtain ⟨name, kind, sortable⟩ := f
  obtain ⟨name', kind', sortable'⟩ := g
  have hlast := congrArg List.getLast? h
  cases sortable <;> cases sortable'
  case false.true => simp [arguments, keyword_ne_sortable] at hlast
  case true.false => simp [arguments, (keyword_ne_sortable _).symm] at hlast
  case false.false | true.true =>
    obtain ⟨hxs, hargs⟩ := List.append_inj' h (by simp [arguments])
    simp only [arguments, List.cons.injEq] at hargs
    exact ⟨hxs, by rw [hargs.1, keyword_injective hargs.2.1]⟩

theorem arguments_ne_nil (f : IndexField) : f.arguments ≠ [] := by
  simp [arguments]

end IndexField

theorem fields_eq_of_flatMap_arguments_eq {fs gs : List IndexField}
    (h : fs.flatMap IndexField.arguments = gs.flatMap IndexField.arguments) : fs = gs := by
  induction fs using List.reverseRecOn generalizing gs with
  | nil =>
    cases gs with
    | nil => rfl
    | cons g gs => simp [IndexField.arguments] at h
  | append_singleton fs f ih =>
    rcases List.eq_nil_or_concat gs with rfl | ⟨gs, g, rfl⟩
    · simp [IndexField.arguments_ne_nil] at h
    · simp only [List.concat_eq_append, List.flatMap_append, List.flatMap_singleton] at h ⊢
      obtain ⟨hinit, rfl⟩ := IndexField.eq_of_append_arguments_eq h
      rw [ih hinit]

namespace IndexDefinition

/-- Schema arguments determine the fields. -/
theorem fields_eq_of_schemaArguments_eq {i j : IndexDefinition}
    (h : i.schemaArguments = j.schemaArguments) : i.fields = j.fields :=
  fields_eq_of_flatMap_arguments_eq h

theorem shape_eq_of_schemaArguments_eq {i j : IndexDefinition}
    (h : i.schemaArguments = j.schemaArguments) : i.shape = j.shape := by
  rw [shape, shape, fields_eq_of_schemaArguments_eq h]

/-- The arguments that create an index determine its definition, whatever its fields are called. -/
theorem createArguments_determine (i j : IndexDefinition) :
    i.createArguments = j.createArguments ↔
      i.name = j.name ∧ i.keyStart = j.keyStart ∧ i.fields = j.fields := by
  constructor
  · intro h
    obtain ⟨hfront, hschema⟩ := List.append_inj h rfl
    simp only [List.cons.injEq, true_and, and_true] at hfront
    exact ⟨hfront.1, hfront.2, fields_eq_of_schemaArguments_eq hschema⟩
  · rintro ⟨hname, hstart, hfields⟩
    rw [createArguments, createArguments, schemaArguments, schemaArguments, hname, hstart, hfields]

/-- Read from the left, a flag and a field named like one may agree up to the last argument. -/
example :
    (⟨"x", "x:", [⟨"a", .tag, true⟩, ⟨"TAG", .tag, false⟩]⟩ : IndexDefinition).createArguments.dropLast =
      (⟨"x", "x:", [⟨"a", .tag, false⟩, ⟨"SORTABLE", .tag, false⟩]⟩ :
        IndexDefinition).createArguments := by
  decide

end IndexDefinition

/-! ## Shapes read from the left -/

namespace IndexField

/-- What follows the name in the shape of a field of this kind. -/
def ending (kind : FieldKind) (sortable : Bool) : List Char :=
  (":" ++ kind.label ++ (if sortable then ":SORTABLE;" else ";")).toList

/-- The name holds nothing that ends a shape. -/
def IsSealed (f : IndexField) : Prop :=
  ∀ kind sortable, ¬ ending kind sortable <:+: f.name.toList

/-- The shape as characters. -/
def shapeChars (f : IndexField) : List Char :=
  f.name.toList ++ ending f.kind f.sortable

theorem toList_shape (f : IndexField) : f.shape.toList = f.shapeChars := by
  simp [shape, shapeChars, ending, List.append_assoc]

/-- A semicolon closes an ending, and none stands before it. -/
theorem ending_eq_append_semicolon (kind : FieldKind) (sortable : Bool) :
    ∃ body, ending kind sortable = body ++ [';'] ∧ ';' ∉ body := by
  refine ⟨(ending kind sortable).dropLast, ?_⟩
  cases kind <;> cases sortable <;> decide

/-- No ending is the tail of another one. -/
theorem ending_injective_of_isSuffix {k l : FieldKind} {a b : Bool}
    (h : ending k a <:+ ending l b) : k = l ∧ a = b := by
  revert h
  cases k <;> cases l <;> cases a <;> cases b <;> decide

theorem ending_ne_nil (kind : FieldKind) (sortable : Bool) : ending kind sortable ≠ [] := by
  cases kind <;> cases sortable <;> decide

/-- An ending met before the end of another shape lies within that shape's name. -/
theorem isInfix_name_of_shape_eq {name rest : List Char} {kind : FieldKind} {sortable : Bool}
    {f : IndexField} (hrest : rest ≠ [])
    (h : name ++ ending kind sortable ++ rest = f.shapeChars) :
    ending kind sortable <:+: f.name.toList := by
  obtain ⟨body, hbody, -⟩ := ending_eq_append_semicolon kind sortable
  obtain ⟨body', hbody', hfree⟩ := ending_eq_append_semicolon f.kind f.sortable
  -- Either the ending stops within the name, or a piece of it reaches past the name.
  rcases List.append_eq_append_iff.1 h with ⟨inside, hname, -⟩ | ⟨past, hpast, htail⟩
  · exact ⟨name, inside, hname.symm⟩
  · rcases List.eq_nil_or_concat past with rfl | ⟨front, c, rfl⟩
    · exact ⟨name, [], by simpa using hpast⟩
    · -- The piece that reaches past the name ends in a semicolon, but is not all of the ending.
      exfalso
      rw [List.concat_eq_append] at hpast htail
      have hc : c = ';' := by
        have hlast := congrArg List.getLast? hpast
        simpa [hbody] using hlast.symm
      obtain ⟨rest', d, rfl⟩ := List.eq_nil_or_concat rest |>.resolve_left hrest
      rw [hbody', hc, List.concat_eq_append, ← List.append_assoc] at htail
      have hmem := (List.append_inj' htail rfl).1
      exact hfree (by simp [hmem])

/-- Of two sealed shapes at the front of one text neither is longer. -/
theorem shapeChars_eq_of_append_eq {f g : IndexField} (hf : f.IsSealed) (hg : g.IsSealed)
    {xs ys : List Char} (h : f.shapeChars ++ xs = g.shapeChars ++ ys) :
    f.shapeChars = g.shapeChars := by
  rcases List.append_eq_append_iff.1 h with ⟨more, hmore, -⟩ | ⟨more, hmore, -⟩
  · by_cases hnil : more = []
    · simpa [hnil] using hmore.symm
    · exact absurd (isInfix_name_of_shape_eq hnil hmore.symm) (hg _ _)
  · by_cases hnil : more = []
    · simpa [hnil] using hmore
    · exact absurd (isInfix_name_of_shape_eq hnil hmore.symm) (hf _ _)

/-- A shape determines its field, whatever the name holds. -/
theorem eq_of_shapeChars_eq {f g : IndexField} (h : f.shapeChars = g.shapeChars) : f = g := by
  obtain ⟨name, kind, sortable⟩ := f
  obtain ⟨name', kind', sortable'⟩ := g
  have hends : kind = kind' ∧ sortable = sortable' := by
    have hsuffix : ending kind sortable <:+ name'.toList ++ ending kind' sortable' :=
      ⟨name.toList, h⟩
    rcases List.suffix_or_suffix_of_suffix hsuffix (List.suffix_append _ _) with hs | hs
    · exact ending_injective_of_isSuffix hs
    · exact (ending_injective_of_isSuffix hs).imp Eq.symm Eq.symm
  obtain ⟨rfl, rfl⟩ := hends
  have hname : name = name' := String.toList_injective (List.append_cancel_right h)
  rw [hname]

end IndexField

theorem fields_eq_of_flatMap_shapeChars_eq {fs gs : List IndexField}
    (hf : ∀ f ∈ fs, f.IsSealed) (hg : ∀ g ∈ gs, g.IsSealed)
    (h : fs.flatMap IndexField.shapeChars = gs.flatMap IndexField.shapeChars) : fs = gs := by
  induction fs generalizing gs with
  | nil =>
    cases gs with
    | nil => rfl
    | cons g gs => simp [IndexField.shapeChars, IndexField.ending_ne_nil] at h
  | cons f fs ih =>
    cases gs with
    | nil => simp [IndexField.shapeChars, IndexField.ending_ne_nil] at h
    | cons g gs =>
      rw [List.flatMap_cons, List.flatMap_cons] at h
      have hhead := IndexField.shapeChars_eq_of_append_eq (hf f (by simp)) (hg g (by simp)) h
      rw [hhead] at h
      have htail := ih (fun x hx => hf x (by simp [hx])) (fun x hx => hg x (by simp [hx]))
        (List.append_cancel_left h)
      rw [IndexField.eq_of_shapeChars_eq hhead, htail]

/-! ## Splitting a name at an ending -/

namespace IndexField

/-- A name that holds an ending poses as two fields. -/
theorem exists_pair_of_not_isSealed {f : IndexField} (h : ¬ f.IsSealed) :
    ∃ a b : IndexField, a.shapeChars ++ b.shapeChars = f.shapeChars ∧
      a.name.length < f.name.length ∧ b.name.length < f.name.length := by
  simp only [IsSealed, not_forall, not_not] at h
  obtain ⟨kind, sortable, before, after, hname⟩ := h
  refine ⟨⟨String.ofList before, kind, sortable⟩, ⟨String.ofList after, f.kind, f.sortable⟩,
    ?_, ?_⟩
  · simp [shapeChars, ← hname]
  · have hpos := List.length_pos_iff.2 (ending_ne_nil kind sortable)
    have hlen := congrArg List.length hname
    simp only [List.length_append, String.length_toList] at hlen
    simp only [String.length_ofList]
    omega

/-- Every field has the shape of some sealed fields in a row. -/
theorem exists_sealed_of_shape (f : IndexField) :
    ∃ fs : List IndexField, (∀ g ∈ fs, g.IsSealed) ∧
      fs.flatMap shapeChars = f.shapeChars := by
  -- A name is split at an ending until no piece holds one; the pieces get shorter.
  induction hn : f.name.length using Nat.strong_induction_on generalizing f with
  | _ n ih =>
    by_cases hsealed : f.IsSealed
    · exact ⟨[f], by simpa using hsealed, by simp⟩
    · obtain ⟨a, b, hshape, ha, hb⟩ := exists_pair_of_not_isSealed hsealed
      obtain ⟨as, has, hasShape⟩ := ih _ (hn ▸ ha) a rfl
      obtain ⟨bs, hbs, hbsShape⟩ := ih _ (hn ▸ hb) b rfl
      refine ⟨as ++ bs, ?_, by rw [List.flatMap_append, hasShape, hbsShape, hshape]⟩
      intro g hg
      exact (List.mem_append.1 hg).elim (has g) (hbs g)

end IndexField

theorem exists_sealed_of_shapes (fs : List IndexField) :
    ∃ gs : List IndexField, (∀ g ∈ gs, g.IsSealed) ∧
      gs.flatMap IndexField.shapeChars = fs.flatMap IndexField.shapeChars := by
  induction fs with
  | nil => exact ⟨[], by simp, rfl⟩
  | cons f fs ih =>
    obtain ⟨as, has, hshape⟩ := f.exists_sealed_of_shape
    obtain ⟨bs, hbs, hshapes⟩ := ih
    refine ⟨as ++ bs, ?_, by rw [List.flatMap_append, hshape, hshapes, List.flatMap_cons]⟩
    intro g hg
    exact (List.mem_append.1 hg).elim (has g) (hbs g)

/-! ## Definitions -/

namespace IndexDefinition

/-- No name of a field holds what ends a shape. -/
def IsSealed (i : IndexDefinition) : Prop :=
  ∀ f ∈ i.fields, f.IsSealed

theorem toList_shape (i : IndexDefinition) :
    i.shape.toList = i.fields.flatMap IndexField.shapeChars := by
  rw [shape]
  induction i.fields with
  | nil => rfl
  | cons f fs ih => simp [ih, IndexField.toList_shape]

theorem shape_eq_iff {i j : IndexDefinition} :
    i.shape = j.shape ↔
      i.fields.flatMap IndexField.shapeChars = j.fields.flatMap IndexField.shapeChars := by
  rw [← toList_shape, ← toList_shape, String.toList_inj]

/-- Sealed definitions of one text have the same fields. -/
theorem fields_eq_of_shape_eq {i j : IndexDefinition} (hi : i.IsSealed) (hj : j.IsSealed)
    (h : i.shape = j.shape) : i.fields = j.fields :=
  fields_eq_of_flatMap_shapeChars_eq hi hj (shape_eq_iff.1 h)

/-- A definition has the text of every one of its schema. Whether it has another schema's text as well
depends on its names: a sealed definition is told from all sealed ones, and one that is not has the text
of a sealed definition whose schema differs. -/
theorem shape_identifies_schema (i : IndexDefinition) :
    (∀ j : IndexDefinition, j.schemaArguments = i.schemaArguments → j.shape = i.shape) ∧
      (i.IsSealed ↔ ∀ j : IndexDefinition, j.IsSealed →
        (j.shape = i.shape ↔ j.schemaArguments = i.schemaArguments)) := by
  refine ⟨fun _ => shape_eq_of_schemaArguments_eq, ?_, ?_⟩
  · intro hi j hj
    refine ⟨fun hshape => ?_, shape_eq_of_schemaArguments_eq⟩
    rw [schemaArguments, schemaArguments, fields_eq_of_shape_eq hj hi hshape]
  · -- A definition that agrees with its own sealed form has the fields of that form.
    intro hagree
    obtain ⟨fields, hsealed, hshape⟩ := exists_sealed_of_shapes i.fields
    have hschema := (hagree ⟨i.name, i.keyStart, fields⟩ hsealed).1 (shape_eq_iff.2 hshape)
    have hfields := fields_eq_of_schemaArguments_eq hschema
    rw [IsSealed, ← hfields]
    exact hsealed

/-- Colons and semicolons alone do not unseal a name, and neither does a keyword. -/
theorem isSealed_separators (name keyStart : String) :
    (⟨name, keyStart, [⟨"a:b;", .tag, true⟩, ⟨"SORTABLE", .text, false⟩]⟩ :
      IndexDefinition).IsSealed := by
  intro f hf kind sortable
  rcases List.mem_cons.1 hf with rfl | hf
  · cases kind <;> cases sortable <;> decide
  · obtain rfl := List.mem_singleton.1 hf
    cases kind <;> cases sortable <;> decide

/-- Two definitions of other names but one text, and so of one schema. -/
theorem shape_identifies_schema_of_separators :
    (⟨"x", "x:", [⟨"a:b;", .tag, true⟩, ⟨"SORTABLE", .text, false⟩]⟩ :
        IndexDefinition).schemaArguments =
      (⟨"y", "y:", [⟨"a:b;", .tag, true⟩, ⟨"SORTABLE", .text, false⟩]⟩ :
        IndexDefinition).schemaArguments :=
  (((shape_identifies_schema _).2.1 (isSealed_separators _ _)) _ (isSealed_separators _ _)).1 rfl

/-- One field whose name holds an ending has the text of two fields, but not their schema. -/
theorem shape_of_name_with_ending :
    (⟨"x", "x:", [⟨"a:Tag;b", .tag, false⟩]⟩ : IndexDefinition).shape =
        (⟨"x", "x:", [⟨"a", .tag, false⟩, ⟨"b", .tag, false⟩]⟩ : IndexDefinition).shape ∧
      (⟨"x", "x:", [⟨"a:Tag;b", .tag, false⟩]⟩ : IndexDefinition).schemaArguments ≠
        (⟨"x", "x:", [⟨"a", .tag, false⟩, ⟨"b", .tag, false⟩]⟩ :
          IndexDefinition).schemaArguments := by
  decide

end IndexDefinition

end RecordSearch
