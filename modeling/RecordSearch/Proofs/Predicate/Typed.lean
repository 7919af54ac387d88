import RecordSearch.Predicate.Handle
import RecordSearch.Proofs.Clause.Offence

/-!
# Well-typed filters

Three tables have to agree for a typed filter to compile: which values a type holds and which comparisons
and methods it admits, which kind a type is indexed as, and what a field of each kind can be asked. They
do. If every name in a filter is that of a field of the handle's type, of the kind inferred from it, then
the filter compiles unless one of its arguments is null, the empty text or a number that is not finite, and
such an argument is all that the error can be about.

## Main definitions

* `Value.IsUnusable` — the arguments that no field can be matched with.
* `CompileError.Blames` — an error that is about such an argument.
* `TypedFilter.uses`, `TypedFilter.arguments` — the names in a filter with their types, and its arguments.
* `TypedFilter.Fits` — the names are those of fields of these types.

## Main results

* `TypedFilter.isWellFormed_iff` — a filter that fits is well formed unless an argument is unusable.
* `TypedFilter.exists_blames` — whatever is wrong with it is about an argument.
* `TypedFilter.compile_of_fits` — so it compiles, or the error is about an argument.
-/

namespace RecordSearch

/-- A value that no field can be matched with. -/
def Value.IsUnusable (v : Value) : Prop :=
  v = .null ∨ v = .text "" ∨ ∃ x, v = .float x ∧ x.isFinite = false

/-- An error that a value explains, as it is missing or cannot be matched. -/
def CompileError.Blames (e : CompileError) (v : Value) : Prop :=
  match e with
  | nullValue _ => v = .null
  | unsupportedValue .. => v = .text "" ∨ ∃ x, v = .float x ∧ x.isFinite = false
  | _ => False

/-- A field of a name that has a type, and is indexed as the type alone decides. -/
def Descriptor.HasField (d : Descriptor) (name : String) (type : FieldType) : Prop :=
  ∃ f, d.field? name = some f ∧ f.type = type ∧ f.kind = type.classify

namespace TypedFilter

/-- The names in a filter with the types of their handles, from left to right. -/
def uses : TypedFilter → List (String × FieldType)
  | equality type h _ _ _ => [(h.name, type)]
  | inequality type h _ _ _ _ => [(h.name, type)]
  | method type h _ _ _ => [(h.name, type)]
  | isTrue h => [(h.name, .bool)]
  | isFalse h => [(h.name, .bool)]
  | conj left right => left.uses ++ right.uses
  | disj left right => left.uses ++ right.uses
  | neg operand => operand.uses

/-- What a filter compares with, from left to right. -/
def arguments : TypedFilter → List Value
  | equality _ _ _ _ v => [v.val]
  | inequality _ _ _ _ v _ => [v.val]
  | method _ _ _ s _ => [.text s]
  | isTrue _ => []
  | isFalse _ => []
  | conj left right => left.arguments ++ right.arguments
  | disj left right => left.arguments ++ right.arguments
  | neg operand => operand.arguments

/-- Every name in a filter is that of a field of the handle's type. -/
def Fits (p : TypedFilter) (d : Descriptor) : Prop :=
  ∀ use ∈ p.uses, d.HasField use.1 use.2

end TypedFilter

/-! ## Types against kinds -/

namespace FieldType

variable {t : FieldType}

/-- Only a type indexed as text holds texts. -/
theorem classify_of_holds_text {s : String} (h : t.holds (.text s) = true) : t.classify = .text := by
  induction t with
  | text => rfl
  | optional t ih =>
    apply ih
    simpa [holds] using h
  | _ => simp [holds, Value.isIntBetween] at h

/-- Only a numeric type holds floating-point numbers. -/
theorem classify_of_holds_float {x : BinaryFloat} (h : t.holds (.float x) = true) :
    t.classify = .numeric := by
  induction t with
  | float32 | float64 => rfl
  | optional t ih =>
    apply ih
    simpa [holds] using h
  | _ => simp [holds, Value.isIntBetween] at h

/-- Only numeric types are ordered. -/
theorem classify_of_isOrdered (h : t.isOrdered = true) : t.classify = .numeric := by
  induction t with
  | optional t ih => exact ih h
  | int8 | int16 | int32 | int64 | uint8 | uint16 | uint32 | uint64 | float32 | float64 | instant
  | span => rfl
  | _ => contradiction

/-- Beneath a type with text methods are texts. -/
theorem inner_of_isTextual (h : t.isTextual = true) : t.inner = .text := by
  unfold isTextual at h
  split at h
  · rfl
  · rfl
  · contradiction

theorem classify_of_isTextual (h : t.isTextual = true) : t.classify = .text := by
  rw [classify, inner_of_isTextual h]

/-- What a type that is not numeric is compared for is equality. -/
theorem eq_or_ne_of_classify {op : Comparison} (hop : op = .eq ∨ op = .ne ∨ t.isOrdered = true)
    (hkind : t.classify ≠ .numeric) : op = .eq ∨ op = .ne := by
  rcases hop with h | h | h
  · exact .inl h
  · exact .inr h
  · exact absurd (classify_of_isOrdered h) hkind

end FieldType

/-- A field of a type with text methods is indexed as one. -/
theorem Descriptor.HasField.exists_textual {d : Descriptor} {name : String} {type : FieldType}
    (h : d.HasField name type) (htextual : type.isTextual = true) :
    ∃ f, d.field? name = some f ∧ f.type.inner = .text ∧ f.kind ≠ .numeric := by
  obtain ⟨f, hf, htype, hkind⟩ := h
  refine ⟨f, hf, ?_, ?_⟩
  · rw [htype]
    exact FieldType.inner_of_isTextual htextual
  · rw [hkind, FieldType.classify_of_isTextual htextual]
    decide

/-! ## Leaves -/

section Leaves

variable {d : Descriptor} {name : String} {type : FieldType} {op : Comparison} {o : Operand Value}
  {v : Value}

/-- A comparison that the type admits is well formed unless its argument is unusable. -/
theorem isWellFormed_compare_iff (hfield : d.HasField name type) (hv : o.value? = some v)
    (hholds : type.holds v = true) (hop : op = .eq ∨ op = .ne ∨ type.isOrdered = true) :
    (Predicate.compare name op o).IsWellFormed d ↔ ¬ v.IsUnusable := by
  obtain ⟨f, hf, -, hkind⟩ := hfield
  -- What the kind does not ask about is ruled out by the type.
  cases hclassify : type.classify with
  | numeric =>
    have htext (s : String) : v ≠ .text s := by
      rintro rfl
      rw [FieldType.classify_of_holds_text hholds] at hclassify
      contradiction
    simp [Predicate.IsWellFormed, Value.IsUnusable, hf, hv, hkind, hclassify, htext]
  | text | tag =>
    have hequality : op = .eq ∨ op = .ne :=
      FieldType.eq_or_ne_of_classify hop (by rw [hclassify]; decide)
    have hfloat (x : BinaryFloat) : v ≠ .float x := by
      rintro rfl
      rw [FieldType.classify_of_holds_float hholds] at hclassify
      contradiction
    simp [Predicate.IsWellFormed, Value.IsUnusable, hf, hv, hkind, hclassify, hequality, hfloat]

theorem isWellFormed_call_iff (hfield : d.HasField name type) (htextual : type.isTextual = true)
    (m : TextMethod) (s : String) :
    (Predicate.call name m (.literal (.text s))).IsWellFormed d ↔ ¬ (Value.text s).IsUnusable := by
  obtain ⟨f, hf, hinner, hnumeric⟩ := hfield.exists_textual htextual
  simp [Predicate.IsWellFormed, Value.IsUnusable, Operand.value?, hf, hinner, hnumeric]

theorem isWellFormed_member (hfield : d.HasField name .bool) :
    (Predicate.member name).IsWellFormed d := by
  obtain ⟨f, hf, htype, -⟩ := hfield
  exact ⟨f, hf, by rw [htype]; rfl⟩

theorem nameOffences_of_field? {f : FieldDescriptor} (hf : d.field? name = some f)
    (fragment : String) : d.nameOffences name fragment = [] :=
  nameOffences_eq_nil_iff.2 ⟨f, hf⟩

/-- An operand that is no field is at fault only if it is null. -/
theorem Operand.blames_of_mem_offences (hv : o.value? = some v) {fragment : String} {e : CompileError}
    (he : e ∈ o.offences fragment) : e.Blames v := by
  cases o with
  | field other => contradiction
  | literal u | deferred u =>
    obtain rfl := Option.some.inj hv
    have hnull := not_not.1 (not_of_mem_require he)
    obtain rfl := eq_of_mem_require he
    exact hnull

/-- Only the empty text is wrong with a token. -/
theorem FieldDescriptor.blames_of_mem_tokenOffences {f : FieldDescriptor} {fragment : String}
    {e : CompileError} (he : e ∈ f.tokenOffences fragment v) : e.Blames v := by
  have hempty := not_not.1 (not_of_mem_require he)
  obtain rfl := eq_of_mem_require he
  exact .inl hempty

/-- A type holds no text where a number is asked for, and admits no order where a text or a tag is. -/
theorem FieldDescriptor.blames_of_mem_compareOffences {f : FieldDescriptor}
    (hkind : f.kind = type.classify) (hv : o.value? = some v) (hholds : type.holds v = true)
    (hop : op = .eq ∨ op = .ne ∨ type.isOrdered = true) {fragment : String} {e : CompileError}
    (he : e ∈ f.compareOffences fragment op o) : e.Blames v := by
  rw [compareOffences, hkind, hv, Option.toList_some, List.flatMap_singleton,
    List.flatMap_singleton] at he
  cases hclassify : type.classify with
  | numeric =>
    simp only [hclassify] at he
    cases v with
    | text s =>
      rw [FieldType.classify_of_holds_text hholds] at hclassify
      contradiction
    | float x =>
      have hinfinite := not_of_mem_require he
      obtain rfl := eq_of_mem_require he
      exact .inr ⟨x, rfl, Bool.not_eq_true _ ▸ hinfinite⟩
    | _ => exact absurd he List.not_mem_nil
  | text | tag =>
    simp only [hclassify] at he
    have hequality : op = .eq ∨ op = .ne :=
      FieldType.eq_or_ne_of_classify hop (by rw [hclassify]; decide)
    rw [require_of hequality, List.nil_append] at he
    exact blames_of_mem_tokenOffences he

/-- Whatever is wrong with a comparison that the type admits is about its argument. -/
theorem blames_of_mem_offences_compare (hfield : d.HasField name type) (hv : o.value? = some v)
    (hholds : type.holds v = true) (hop : op = .eq ∨ op = .ne ∨ type.isOrdered = true)
    {e : CompileError} (he : e ∈ (Predicate.compare name op o).offences d) : e.Blames v := by
  obtain ⟨f, hf, -, hkind⟩ := hfield
  rw [Predicate.offences, nameOffences_of_field? hf, hf, List.nil_append, Option.toList_some,
    List.flatMap_singleton] at he
  rcases List.mem_append.1 he with he | he
  · exact Operand.blames_of_mem_offences hv he
  · exact FieldDescriptor.blames_of_mem_compareOffences hkind hv hholds hop he

/-- Whatever is wrong with a method that the type admits is about its argument. -/
theorem blames_of_mem_offences_call (hfield : d.HasField name type)
    (htextual : type.isTextual = true) {m : TextMethod} {s : String} {e : CompileError}
    (he : e ∈ (Predicate.call name m (.literal (.text s))).offences d) : e.Blames (.text s) := by
  obtain ⟨f, hf, hinner, hnumeric⟩ := hfield.exists_textual htextual
  rw [Predicate.offences, nameOffences_of_field? hf, hf, List.nil_append, Option.toList_some,
    List.flatMap_singleton] at he
  rcases List.mem_append.1 he with he | he
  · exact Operand.blames_of_mem_offences rfl he
  · rw [FieldDescriptor.callOffences, require_of hinner, require_of hnumeric, List.nil_append,
      List.append_nil, Operand.value?, Option.toList_some, List.flatMap_singleton] at he
    exact FieldDescriptor.blames_of_mem_tokenOffences he

end Leaves

/-! ## Filters -/

namespace TypedFilter

/-- An equality is a comparison with its argument, given or deferred. -/
theorem exists_predicate_equality (type : FieldType) (h : Handle type) (op : Equality)
    (deferred : Bool) (v : type.Literal) :
    ∃ op' o, (equality type h op deferred v).predicate = .compare h.name op' o ∧
      o.value? = some v.val ∧ (op' = .eq ∨ op' = .ne ∨ type.isOrdered = true) := by
  cases op <;> cases deferred <;> exact ⟨_, _, rfl, rfl, by simp⟩

theorem exists_predicate_inequality (type : FieldType) (h : Handle type) (op : Inequality)
    (deferred : Bool) (v : type.Literal) (ordered : type.isOrdered = true) :
    ∃ op' o, (inequality type h op deferred v ordered).predicate = .compare h.name op' o ∧
      o.value? = some v.val ∧ (op' = .eq ∨ op' = .ne ∨ type.isOrdered = true) := by
  cases op <;> cases deferred <;> exact ⟨_, _, rfl, rfl, .inr (.inr ordered)⟩

theorem predicate_method (type : FieldType) (h : Handle type) (m : TextMethod) (s : String)
    (textual : type.isTextual = true) :
    (method type h m s textual).predicate = .call h.name m (.literal (.text s)) := by
  cases m <;> rfl

variable {d : Descriptor} {p : TypedFilter}

/-- A filter that fits is well formed unless an argument is unusable. -/
theorem isWellFormed_iff (h : p.Fits d) :
    p.predicate.IsWellFormed d ↔ ∀ v ∈ p.arguments, ¬ v.IsUnusable := by
  induction p with
  | equality type h' op deferred v =>
    obtain ⟨op', o, hpredicate, hv, hop⟩ := exists_predicate_equality type h' op deferred v
    rw [hpredicate, arguments, List.forall_mem_singleton]
    exact isWellFormed_compare_iff (h _ (List.mem_singleton_self _)) hv v.property hop
  | inequality type h' op deferred v ordered =>
    obtain ⟨op', o, hpredicate, hv, hop⟩ :=
      exists_predicate_inequality type h' op deferred v ordered
    rw [hpredicate, arguments, List.forall_mem_singleton]
    exact isWellFormed_compare_iff (h _ (List.mem_singleton_self _)) hv v.property hop
  | method type h' m s textual =>
    rw [predicate_method, arguments, List.forall_mem_singleton]
    exact isWellFormed_call_iff (h _ (List.mem_singleton_self _)) textual m s
  | isTrue h' | isFalse h' =>
    exact iff_of_true (isWellFormed_member (h _ (List.mem_singleton_self _))) nofun
  | conj left right ihl ihr | disj left right ihl ihr =>
    obtain ⟨hl, hr⟩ := List.forall_mem_append.1 h
    rw [predicate, Predicate.IsWellFormed, ihl hl, ihr hr, arguments, List.forall_mem_append]
  | neg operand ih => exact ih h

/-- Whatever is wrong with a filter that fits is about one of its arguments. -/
theorem exists_blames (h : p.Fits d) {e : CompileError} (he : e ∈ p.predicate.offences d) :
    ∃ v ∈ p.arguments, e.Blames v := by
  induction p with
  | equality type h' op deferred v =>
    obtain ⟨op', o, hpredicate, hv, hop⟩ := exists_predicate_equality type h' op deferred v
    rw [hpredicate] at he
    exact ⟨v, List.mem_singleton_self _,
      blames_of_mem_offences_compare (h _ (List.mem_singleton_self _)) hv v.property hop he⟩
  | inequality type h' op deferred v ordered =>
    obtain ⟨op', o, hpredicate, hv, hop⟩ :=
      exists_predicate_inequality type h' op deferred v ordered
    rw [hpredicate] at he
    exact ⟨v, List.mem_singleton_self _,
      blames_of_mem_offences_compare (h _ (List.mem_singleton_self _)) hv v.property hop he⟩
  | method type h' m s textual =>
    rw [predicate_method] at he
    exact ⟨.text s, List.mem_singleton_self _,
      blames_of_mem_offences_call (h _ (List.mem_singleton_self _)) textual he⟩
  | isTrue h' | isFalse h' =>
    have hnone := offences_eq_nil_iff.2 (isWellFormed_member (h _ (List.mem_singleton_self _)))
    exact absurd (hnone ▸ he) List.not_mem_nil
  | conj left right ihl ihr | disj left right ihl ihr =>
    obtain ⟨hl, hr⟩ := List.forall_mem_append.1 h
    rcases List.mem_append.1 he with he | he
    · obtain ⟨v, hv, hblames⟩ := ihl hl he
      exact ⟨v, List.mem_append_left _ hv, hblames⟩
    · obtain ⟨v, hv, hblames⟩ := ihr hr he
      exact ⟨v, List.mem_append_right _ hv, hblames⟩
  | neg operand ih => exact ih h he

/-- A filter that fits compiles exactly if none of its arguments is unusable, and otherwise the error is
that an argument is null, or that an argument is empty or not finite: names, comparisons, methods and
expressions are never at fault. -/
theorem compile_of_fits (h : p.Fits d) :
    ((∃ text, p.predicate.compile d = .ok text) ↔ ∀ v ∈ p.arguments, ¬ v.IsUnusable) ∧
    ∀ e, p.predicate.compile d = .error e → ∃ v ∈ p.arguments, e.Blames v := by
  constructor
  · rw [← isWellFormed_iff h, ← offences_eq_nil_iff, ← failure?_eq_none_iff, failure?_compile,
      List.head?_eq_none_iff]
  · intro e he
    rw [← failure?_eq_some_iff, failure?_compile] at he
    exact exists_blames h (List.mem_of_mem_head? he)

/-- A model with indexed and other fields, one of them optional. -/
def stocks : Descriptor :=
  ⟨"stocks", [⟨"count", .numeric, true, .optional .int32⟩, ⟨"name", .text, false, .text⟩],
    [⟨"grade", .tag, false, .enumeration "Grade"⟩, ⟨"open", .tag, false, .bool⟩]⟩

/-- Many of a grade, under some name or closed. -/
def manyStocks (part : String) : TypedFilter :=
  .conj (.inequality (.optional .int32) ⟨"count"⟩ .gt true ⟨.int 3, rfl⟩ rfl)
    (.conj (.equality (.enumeration "Grade") ⟨"grade"⟩ .ne false ⟨.enumeration "B" 1, rfl⟩)
      (.disj (.method .text ⟨"name"⟩ .contains part rfl) (.neg (.isTrue ⟨"open"⟩))))

theorem fits_manyStocks (part : String) : (manyStocks part).Fits stocks := by
  intro use huse
  simp only [manyStocks, uses, List.mem_append, List.mem_singleton] at huse
  rcases huse with rfl | rfl | rfl | rfl <;> exact ⟨_, rfl, rfl, rfl⟩

/-- With a part of a name the filter compiles, and with an empty one that part is at fault. -/
theorem compile_of_fits_of_stocks :
    (∀ part, (manyStocks part).Fits stocks) ∧
    (∃ text, (manyStocks "ore").predicate.compile stocks = .ok text) ∧
    ∃ e, (manyStocks "").predicate.compile stocks = .error e ∧
      ∃ v ∈ (manyStocks "").arguments, e.Blames v := by
  refine ⟨fits_manyStocks, (compile_of_fits (fits_manyStocks "ore")).1.2 ?_, ?_⟩
  · intro v hv
    simp only [manyStocks, arguments, List.mem_append, List.mem_singleton] at hv
    rcases hv with rfl | rfl | rfl | hv
    · simp [Value.IsUnusable]
    · simp [Value.IsUnusable]
    · simp [Value.IsUnusable]
    · exact absurd hv List.not_mem_nil
  · refine ⟨.unsupportedValue "\"\"" .text "name" "name.Contains(\"\")", by decide +kernel, ?_⟩
    exact (compile_of_fits (fits_manyStocks "")).2 _ (by decide +kernel)

end TypedFilter

end RecordSearch
