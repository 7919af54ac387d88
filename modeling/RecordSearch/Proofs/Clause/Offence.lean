import RecordSearch.Proofs.Clause.Compile
import RecordSearch.Proofs.Numeric.Numeral

/-!
# What is wrong with a predicate

A predicate compiles if every leaf of it is well formed. Where leaves are not, each has a list of offences,
in the order in which they are looked for, and the error that is reported is the first offence of the first
such leaf. The nodes between the leaves have no part in this, and the error names the leaf alone.

## Main definitions

* `Predicate.IsWellFormed` — what a predicate has to be to compile.
* `Predicate.offences` — what is wrong with a predicate, in order.
* `CompileError.fragment?` — the part of a predicate that an error names.
* `Query.offences` — what is wrong with a query: with its filters, its order, and what it returns.

## Main results

* `failure?_toClause` — compiling fails with the first offence.
* `offences_eq_nil_iff` — nothing is wrong exactly with what is well formed.
* `compile_reports_first_offence` — the two together, leaf by leaf.
-/

namespace RecordSearch

/-! ## Well-formed predicates -/

/-- The field a leaf asks is declared, and its value fits the field's kind; a constant has a text. -/
def Predicate.IsWellFormed (d : Descriptor) : Predicate Value → Prop
  | compare name op operand =>
    ∃ f, d.field? name = some f ∧ ∃ v, operand.value? = some v ∧ v ≠ .null ∧
      match f.kind with
      | .numeric => (∀ t, v ≠ .text t) ∧ ∀ x, v = .float x → x.isFinite = true
      | .text | .tag => (op = .eq ∨ op = .ne) ∧ v ≠ .text ""
  | call name _ operand =>
    ∃ f, d.field? name = some f ∧ f.type.inner = .text ∧ f.kind ≠ .numeric ∧
      ∃ v, operand.value? = some v ∧ v ≠ .null ∧ v ≠ .text ""
  | member name => ∃ f, d.field? name = some f ∧ f.type.inner = .bool
  | constant v => v ≠ .null ∧ v ≠ .text ""
  | conj left right => left.IsWellFormed d ∧ right.IsWellFormed d
  | disj left right => left.IsWellFormed d ∧ right.IsWellFormed d
  | neg operand => operand.IsWellFormed d

/-! ## Offences -/

/-- The error of a requirement that is not met. -/
def require (p : Prop) [Decidable p] (e : CompileError) : List CompileError :=
  if p then [] else [e]

/-- A right-hand side that is a field, or null. -/
def Operand.offences (fragment : String) : Operand Value → List CompileError
  | field name => [.unsupportedExpression fragment (.fieldReference name)]
  | literal v => require (v ≠ .null) (.nullValue fragment)
  | deferred v => require (v ≠ .null) (.nullValue fragment)

namespace FieldDescriptor

variable (f : FieldDescriptor) (fragment : String)

/-- A value that is no finite number. -/
def numberOffences : Value → List CompileError
  | .text t => [.unsupportedValue (quoted t) f.kind f.name fragment]
  | .float x =>
    require (x.isFinite = true) (.unsupportedValue (Number.float x).render f.kind f.name fragment)
  | _ => []

/-- An empty text. -/
def tokenOffences (v : Value) : List CompileError :=
  require (v ≠ .text "") (.unsupportedValue "\"\"" f.kind f.name fragment)

/-- A comparison that the field's kind does not know, then a value that it cannot match. -/
def compareOffences (op : Comparison) (operand : Operand Value) : List CompileError :=
  match f.kind with
  | .numeric => operand.value?.toList.flatMap (f.numberOffences fragment)
  | .text | .tag =>
    require (op = .eq ∨ op = .ne) (.unsupportedOperator op f.kind f.name fragment) ++
      operand.value?.toList.flatMap (f.tokenOffences fragment)

/-- A type without text methods, then an empty text, then a kind without text methods. -/
def callOffences (method : TextMethod) (operand : Operand Value) : List CompileError :=
  require (f.type.inner = .text) (.unsupportedMethod method f.kind f.name fragment) ++
    operand.value?.toList.flatMap (f.tokenOffences fragment) ++
    require (f.kind ≠ .numeric) (.unsupportedMethod method f.kind f.name fragment)

end FieldDescriptor

/-- A name that no field has. -/
def Descriptor.nameOffences (d : Descriptor) (name fragment : String) : List CompileError :=
  require (d.field? name ≠ none) (.unknownField d.indexName name fragment)

/-- All that is wrong with a predicate, leaf by leaf. A leaf is examined for its field's name, then for its
right-hand side, then for what the field's kind and type admit. -/
def Predicate.offences (d : Descriptor) : Predicate Value → List CompileError
  | p@(compare name op operand) =>
    d.nameOffences name p.render ++ operand.offences p.render ++
      (d.field? name).toList.flatMap fun f => f.compareOffences p.render op operand
  | p@(call name method operand) =>
    d.nameOffences name p.render ++ operand.offences p.render ++
      (d.field? name).toList.flatMap fun f => f.callOffences p.render method operand
  | p@(member name) =>
    d.nameOffences name p.render ++ (d.field? name).toList.flatMap fun f =>
      require (f.type.inner = .bool) (.unsupportedExpression p.render .bareMember)
  | p@(constant v) =>
    require (v ≠ .null) (.nullValue p.render) ++
      require (v ≠ .text "") (.unsupportedExpression p.render .emptyConstant)
  | conj left right => left.offences d ++ right.offences d
  | disj left right => left.offences d ++ right.offences d
  | neg operand => operand.offences d

/-- The part of a predicate that an error names; an order is no part of one. -/
def CompileError.fragment? : CompileError → Option String
  | unknownField _ _ fragment => some fragment
  | unsupportedOperator _ _ _ fragment => some fragment
  | unsupportedMethod _ _ _ fragment => some fragment
  | unsupportedValue _ _ _ fragment => some fragment
  | nullValue fragment => some fragment
  | unsupportedExpression fragment _ => some fragment
  | unindexedSortField _ _ => none

section

variable {p : Prop} [Decidable p] {e : CompileError}

@[simp] theorem require_eq_nil_iff : require p e = [] ↔ p := by
  unfold require
  split <;> simp_all

theorem require_of (h : p) : require p e = [] := if_pos h

theorem require_of_not (h : ¬ p) : require p e = [e] := if_neg h

theorem eq_of_mem_require {e' : CompileError} (h : e' ∈ require p e) : e' = e := by
  unfold require at h
  split at h <;> simp_all

theorem not_of_mem_require {e' : CompileError} (h : e' ∈ require p e) : ¬ p := by
  intro hp
  rw [require_of hp] at h
  exact List.not_mem_nil h

end

/-! ## Scalars of values -/

theorem scalar?_eq_none_iff {v : Value} : v.scalar? = none ↔ v = .null := by
  cases v <;> simp [Value.scalar?]

/-- Only the empty text has an empty token. -/
theorem token_eq_empty_iff {v : Value} {s : Scalar} (h : v.scalar? = some s) :
    s.token = "" ↔ v = .text "" := by
  cases v with
  | null => simp [Value.scalar?] at h
  | bool b =>
    obtain rfl := Option.some.inj h
    cases b <;> simp [Scalar.token]
  | text t =>
    obtain rfl := Option.some.inj h
    simp [Scalar.token]
  | int | uint | float | enumeration | instant | span =>
    obtain rfl := Option.some.inj h
    simp [Scalar.token, Number.render_ne_empty]

theorem Operand.exists_value_of_resolve {o : Operand Value} {fragment : String} {s : Scalar}
    (h : o.resolve fragment = .ok s) : ∃ v, o.value? = some v ∧ v.scalar? = some s := by
  rw [resolve_eq_ok_iff, scalar?, Option.bind_eq_some_iff] at h
  exact h

/-! ## Compiling fails with the first offence -/

theorem failure?_resolve_field (d : Descriptor) (name fragment : String) :
    failure? (d.resolve name fragment) = (d.nameOffences name fragment).head? := by
  unfold Descriptor.resolve Descriptor.nameOffences
  cases d.field? name with
  | none => rfl
  | some f => rfl

theorem Operand.failure?_resolve (o : Operand Value) (fragment : String) :
    failure? (o.resolve fragment) = (o.offences fragment).head? := by
  cases o with
  | field name => rfl
  | literal v | deferred v =>
    unfold Operand.resolve Operand.offences
    dsimp only
    cases hv : v.scalar? with
    | none =>
      rw [require_of_not (not_not.2 (scalar?_eq_none_iff.1 hv))]
      rfl
    | some s =>
      have hne : v ≠ .null := by
        rintro rfl
        contradiction
      rw [require_of hne]
      rfl

namespace FieldDescriptor

variable {f : FieldDescriptor} {o : Operand Value} {v : Value} {s : Scalar} {fragment : String}

theorem failure?_numberFor (hs : v.scalar? = some s) :
    failure? (f.numberFor s fragment) = (f.numberOffences fragment v).head? := by
  cases v with
  | null => contradiction
  | text t =>
    obtain rfl := Option.some.inj hs
    rfl
  | float x =>
    obtain rfl := Option.some.inj hs
    unfold numberFor numberOffences require
    cases hfinite : x.isFinite <;> simp [Number.isFinite, hfinite, valueError]
  | bool | int | uint | enumeration | instant | span =>
    obtain rfl := Option.some.inj hs
    rfl

theorem failure?_tokenFor (hs : v.scalar? = some s) :
    failure? (f.tokenFor s fragment) = (f.tokenOffences fragment v).head? := by
  unfold tokenFor tokenOffences
  by_cases h : s.token = ""
  · rw [if_pos h, require_of_not (not_not.2 ((token_eq_empty_iff hs).1 h))]
    rfl
  · rw [if_neg h, require_of (mt (token_eq_empty_iff hs).2 h)]
    rfl

theorem failure?_compare {op : Comparison} (hv : o.value? = some v) (hs : v.scalar? = some s) :
    failure? (f.compare op s fragment) = (f.compareOffences fragment op o).head? := by
  have hvalue : o.value?.toList = [v] := by rw [hv]; rfl
  have hequality : op.isEquality = true ↔ op = .eq ∨ op = .ne := by cases op <;> decide
  unfold compare compareOffences
  cases f.kind with
  | numeric =>
    rw [hvalue, List.flatMap_singleton, ← failure?_numberFor hs]
    exact failure?_bind_pure _ _
  | text | tag =>
    dsimp only
    rw [hvalue, List.flatMap_singleton, List.head?_append, ← failure?_tokenFor hs]
    by_cases h : op.isEquality = true
    · rw [if_pos h, require_of (hequality.1 h)]
      exact failure?_bind_pure _ _
    · rw [if_neg h, require_of_not (mt hequality.2 h)]
      rfl

theorem failure?_call {method : TextMethod} (hv : o.value? = some v) (hs : v.scalar? = some s) :
    failure? (f.call method s fragment) = (f.callOffences fragment method o).head? := by
  have hvalue : o.value?.toList = [v] := by rw [hv]; rfl
  have htext : f.type.isText = true ↔ f.type.inner = .text := by simp [FieldType.isText]
  unfold call callOffences
  rw [hvalue, List.flatMap_singleton, List.head?_append, List.head?_append, ← failure?_tokenFor hs]
  by_cases h : f.type.isText = true
  · rw [require_of (htext.1 h), h]
    refine failure?_bind fun token _ => ?_
    cases f.kind <;> rfl
  · rw [require_of_not (mt htext.2 h), Bool.not_eq_true] at *
    rw [h]
    rfl

end FieldDescriptor

/-- Compiling fails with the first offence, if there is any. -/
theorem failure?_toClause (d : Descriptor) (p : Predicate Value) :
    failure? (p.toClause d) = (p.offences d).head? := by
  induction p with
  | compare name op o =>
    unfold Predicate.toClause Predicate.offences
    rw [List.append_assoc, List.head?_append, ← failure?_resolve_field]
    refine failure?_bind fun f hf => ?_
    rw [resolve_eq_ok_iff] at hf
    rw [List.head?_append, ← Operand.failure?_resolve, hf]
    refine failure?_bind fun s hs => ?_
    obtain ⟨v, hv, hs⟩ := Operand.exists_value_of_resolve hs
    simpa using FieldDescriptor.failure?_compare hv hs
  | call name method o =>
    unfold Predicate.toClause Predicate.offences
    rw [List.append_assoc, List.head?_append, ← failure?_resolve_field]
    refine failure?_bind fun f hf => ?_
    rw [resolve_eq_ok_iff] at hf
    rw [List.head?_append, ← Operand.failure?_resolve, hf]
    refine failure?_bind fun s hs => ?_
    obtain ⟨v, hv, hs⟩ := Operand.exists_value_of_resolve hs
    simpa using FieldDescriptor.failure?_call hv hs
  | member name =>
    unfold Predicate.toClause Predicate.offences
    rw [List.head?_append, ← failure?_resolve_field]
    refine failure?_bind fun f hf => ?_
    rw [resolve_eq_ok_iff] at hf
    rw [hf, Option.toList_some, List.flatMap_singleton]
    unfold require
    have hbool : f.type.isBool = true ↔ f.type.inner = .bool := by simp [FieldType.isBool]
    by_cases h : f.type.isBool = true
    · -- Truth compares with any kind: as the number one, or as a word.
      rw [if_pos h, if_pos (hbool.1 h)]
      have hcompare (fragment : String) : failure? (f.compare .eq (.bool true) fragment) =
          (f.compareOffences fragment .eq (.literal (.bool true))).head? :=
        FieldDescriptor.failure?_compare rfl rfl
      rw [hcompare]
      unfold FieldDescriptor.compareOffences
      cases f.kind <;> rfl
    · rw [if_neg h, if_neg (mt hbool.2 h)]
      rfl
  | constant v =>
    unfold Predicate.toClause Predicate.offences Value.toClause
    cases hv : v.scalar? with
    | none =>
      rw [scalar?_eq_none_iff.1 hv]
      rfl
    | some s =>
      have hne : v ≠ .null := by
        rintro rfl
        contradiction
      rw [require_of hne, List.nil_append]
      dsimp only
      by_cases h : s.token = ""
      · rw [if_pos h, require_of_not (not_not.2 ((token_eq_empty_iff hv).1 h))]
        rfl
      · rw [if_neg h, require_of (mt (token_eq_empty_iff hv).2 h)]
        rfl
  | conj left right ihl ihr | disj left right ihl ihr =>
    unfold Predicate.toClause Predicate.offences
    rw [List.head?_append, ← ihl, ← ihr]
    refine failure?_bind fun l _ => ?_
    exact failure?_bind_pure _ _
  | neg operand ih =>
    rw [Predicate.toClause_neg, failure?_map, ih]
    rfl

/-! ## Nothing is wrong with what is well formed -/

theorem nameOffences_eq_nil_iff {d : Descriptor} {name fragment : String} :
    d.nameOffences name fragment = [] ↔ ∃ f, d.field? name = some f := by
  rw [Descriptor.nameOffences, require_eq_nil_iff, Option.ne_none_iff_exists']

theorem Operand.offences_eq_nil_iff {o : Operand Value} {fragment : String} :
    o.offences fragment = [] ↔ ∃ v, o.value? = some v ∧ v ≠ .null := by
  cases o <;> simp [Operand.offences, Operand.value?]

namespace FieldDescriptor

variable {f : FieldDescriptor} {fragment : String}

theorem numberOffences_eq_nil_iff {v : Value} :
    f.numberOffences fragment v = [] ↔
      (∀ t, v ≠ .text t) ∧ ∀ x, v = .float x → x.isFinite = true := by
  cases v <;> simp [numberOffences]

theorem compareOffences_eq_nil_iff {op : Comparison} {o : Operand Value} {v : Value}
    (hv : o.value? = some v) :
    f.compareOffences fragment op o = [] ↔
      match f.kind with
      | .numeric => (∀ t, v ≠ .text t) ∧ ∀ x, v = .float x → x.isFinite = true
      | .text | .tag => (op = .eq ∨ op = .ne) ∧ v ≠ .text "" := by
  unfold compareOffences
  rw [hv, Option.toList_some, List.flatMap_singleton]
  cases f.kind with
  | numeric => exact numberOffences_eq_nil_iff
  | text | tag =>
    dsimp only
    rw [List.flatMap_singleton, List.append_eq_nil_iff, require_eq_nil_iff, tokenOffences,
      require_eq_nil_iff]

theorem callOffences_eq_nil_iff {method : TextMethod} {o : Operand Value} {v : Value}
    (hv : o.value? = some v) :
    f.callOffences fragment method o = [] ↔
      f.type.inner = .text ∧ v ≠ .text "" ∧ f.kind ≠ .numeric := by
  rw [callOffences, hv, Option.toList_some, List.flatMap_singleton, tokenOffences,
    List.append_eq_nil_iff, List.append_eq_nil_iff, require_eq_nil_iff, require_eq_nil_iff,
    require_eq_nil_iff, and_assoc]

end FieldDescriptor

/-- Nothing is wrong exactly with what is well formed. -/
theorem offences_eq_nil_iff {d : Descriptor} {p : Predicate Value} :
    p.offences d = [] ↔ p.IsWellFormed d := by
  induction p with
  | compare name op o =>
    rw [Predicate.offences, Predicate.IsWellFormed, List.append_eq_nil_iff, List.append_eq_nil_iff,
      nameOffences_eq_nil_iff, Operand.offences_eq_nil_iff]
    constructor
    · rintro ⟨⟨⟨f, hf⟩, v, hv, hnull⟩, hoffences⟩
      rw [hf, Option.toList_some, List.flatMap_singleton,
        FieldDescriptor.compareOffences_eq_nil_iff hv] at hoffences
      exact ⟨f, hf, v, hv, hnull, hoffences⟩
    · rintro ⟨f, hf, v, hv, hnull, hfits⟩
      rw [hf, Option.toList_some, List.flatMap_singleton,
        FieldDescriptor.compareOffences_eq_nil_iff hv]
      exact ⟨⟨⟨f, rfl⟩, v, hv, hnull⟩, hfits⟩
  | call name method o =>
    rw [Predicate.offences, Predicate.IsWellFormed, List.append_eq_nil_iff, List.append_eq_nil_iff,
      nameOffences_eq_nil_iff, Operand.offences_eq_nil_iff]
    constructor
    · rintro ⟨⟨⟨f, hf⟩, v, hv, hnull⟩, hoffences⟩
      rw [hf, Option.toList_some, List.flatMap_singleton,
        FieldDescriptor.callOffences_eq_nil_iff hv] at hoffences
      obtain ⟨htype, hempty, hkind⟩ := hoffences
      exact ⟨f, hf, htype, hkind, v, hv, hnull, hempty⟩
    · rintro ⟨f, hf, htype, hkind, v, hv, hnull, hempty⟩
      rw [hf, Option.toList_some, List.flatMap_singleton,
        FieldDescriptor.callOffences_eq_nil_iff hv]
      exact ⟨⟨⟨f, rfl⟩, v, hv, hnull⟩, htype, hempty, hkind⟩
  | member name =>
    rw [Predicate.offences, Predicate.IsWellFormed, List.append_eq_nil_iff, nameOffences_eq_nil_iff]
    constructor
    · rintro ⟨⟨f, hf⟩, hoffences⟩
      rw [hf, Option.toList_some, List.flatMap_singleton, require_eq_nil_iff] at hoffences
      exact ⟨f, hf, hoffences⟩
    · rintro ⟨f, hf, htype⟩
      rw [hf, Option.toList_some, List.flatMap_singleton, require_eq_nil_iff]
      exact ⟨⟨f, rfl⟩, htype⟩
  | constant v =>
    rw [Predicate.offences, Predicate.IsWellFormed, List.append_eq_nil_iff, require_eq_nil_iff,
      require_eq_nil_iff]
  | conj left right ihl ihr | disj left right ihl ihr =>
    rw [Predicate.offences, Predicate.IsWellFormed, List.append_eq_nil_iff, ihl, ihr]
  | neg operand ih => rw [Predicate.offences, Predicate.IsWellFormed, ih]

/-! ## Leaf by leaf -/

/-- A predicate without connectives. -/
def Predicate.IsLeaf : Predicate Value → Prop
  | conj _ _ => False
  | disj _ _ => False
  | neg _ => False
  | _ => True

theorem Predicate.isLeaf_of_mem_leaves {p leaf : Predicate Value} (h : leaf ∈ p.leaves) :
    leaf.IsLeaf := by
  induction p with
  | conj left right ihl ihr | disj left right ihl ihr => exact (List.mem_append.1 h).elim ihl ihr
  | neg operand ih => exact ih h
  | _ =>
    rw [List.mem_singleton.1 h]
    trivial

/-- The offences of a predicate are those of its leaves in order. -/
theorem offences_eq_flatMap_leaves (d : Descriptor) (p : Predicate Value) :
    p.offences d = p.leaves.flatMap (·.offences d) := by
  induction p with
  | conj left right ihl ihr | disj left right ihl ihr =>
    rw [Predicate.offences, Predicate.leaves, List.flatMap_append, ihl, ihr]
  | neg operand ih => rw [Predicate.offences, Predicate.leaves, ih]
  | _ => exact (List.flatMap_singleton _ _).symm

/-! ## The part that an error names -/

theorem fragment?_of_mem_nameOffences {d : Descriptor} {name fragment : String} {e : CompileError}
    (h : e ∈ d.nameOffences name fragment) : e.fragment? = some fragment := by
  rw [eq_of_mem_require h]
  rfl

theorem Operand.fragment?_of_mem_offences {o : Operand Value} {fragment : String} {e : CompileError}
    (h : e ∈ o.offences fragment) : e.fragment? = some fragment := by
  cases o with
  | field name =>
    rw [List.mem_singleton.1 h]
    rfl
  | literal v | deferred v =>
    rw [eq_of_mem_require h]
    rfl

namespace FieldDescriptor

variable {f : FieldDescriptor} {fragment : String} {e : CompileError} {o : Operand Value}

theorem fragment?_of_mem_numberOffences {v : Value} (h : e ∈ f.numberOffences fragment v) :
    e.fragment? = some fragment := by
  cases v with
  | text t =>
    rw [List.mem_singleton.1 h]
    rfl
  | float x =>
    rw [eq_of_mem_require h]
    rfl
  | _ => exact absurd h List.not_mem_nil

theorem fragment?_of_mem_tokenOffences
    (h : e ∈ o.value?.toList.flatMap (f.tokenOffences fragment)) : e.fragment? = some fragment := by
  obtain ⟨v, -, h⟩ := List.mem_flatMap.1 h
  rw [eq_of_mem_require h]
  rfl

theorem fragment?_of_mem_compareOffences {op : Comparison}
    (h : e ∈ f.compareOffences fragment op o) : e.fragment? = some fragment := by
  unfold compareOffences at h
  cases hkind : f.kind <;> simp only [hkind] at h
  case numeric =>
    obtain ⟨v, -, h⟩ := List.mem_flatMap.1 h
    exact fragment?_of_mem_numberOffences h
  case text | tag =>
    rcases List.mem_append.1 h with h | h
    · rw [eq_of_mem_require h]
      rfl
    · exact fragment?_of_mem_tokenOffences h

theorem fragment?_of_mem_callOffences {method : TextMethod}
    (h : e ∈ f.callOffences fragment method o) : e.fragment? = some fragment := by
  rw [callOffences, List.mem_append, List.mem_append] at h
  rcases h with (h | h) | h
  · rw [eq_of_mem_require h]
    rfl
  · exact fragment?_of_mem_tokenOffences h
  · rw [eq_of_mem_require h]
    rfl

end FieldDescriptor

/-- An offence of a leaf names the leaf and nothing else. -/
theorem fragment?_of_mem_offences {d : Descriptor} {leaf : Predicate Value} (hleaf : leaf.IsLeaf)
    {e : CompileError} (h : e ∈ leaf.offences d) : e.fragment? = some leaf.render := by
  cases leaf with
  | compare name op o =>
    rw [Predicate.offences, List.mem_append, List.mem_append, List.mem_flatMap] at h
    rcases h with (h | h) | ⟨f, -, h⟩
    · exact fragment?_of_mem_nameOffences h
    · exact Operand.fragment?_of_mem_offences h
    · exact FieldDescriptor.fragment?_of_mem_compareOffences h
  | call name method o =>
    rw [Predicate.offences, List.mem_append, List.mem_append, List.mem_flatMap] at h
    rcases h with (h | h) | ⟨f, -, h⟩
    · exact fragment?_of_mem_nameOffences h
    · exact Operand.fragment?_of_mem_offences h
    · exact FieldDescriptor.fragment?_of_mem_callOffences h
  | member name =>
    rw [Predicate.offences, List.mem_append, List.mem_flatMap] at h
    rcases h with h | ⟨f, -, h⟩
    · exact fragment?_of_mem_nameOffences h
    · rw [eq_of_mem_require h]
      rfl
  | constant v =>
    rw [Predicate.offences, List.mem_append] at h
    rcases h with h | h <;>
    · rw [eq_of_mem_require h]
      rfl
  | conj | disj | neg => exact hleaf.elim

/-! ## Queries -/

/-- All that is wrong with a query: its filters in order, then the field it is sorted by, then the fields
it returns. -/
def Query.offences (q : Query Value) (d : Descriptor) : List CompileError :=
  q.filters.flatMap (·.offences d) ++
    (q.sorting?.toList.flatMap fun s =>
      require ((d.indexedField? s.field).isSome = true) (.unindexedSortField d.indexName s.field)) ++
    q.returnFields.flatMap fun name => d.nameOffences name ("RETURN " ++ name)

theorem failure?_compile (d : Descriptor) (p : Predicate Value) :
    failure? (p.compile d) = (p.offences d).head? := by
  rw [Predicate.compile, failure?_map, failure?_toClause]

theorem failure?_checkSortField (d : Descriptor) (name : String) :
    failure? (d.checkSortField name) =
      (require ((d.indexedField? name).isSome = true)
        (.unindexedSortField d.indexName name)).head? := by
  unfold Descriptor.checkSortField require
  split <;> rfl

theorem failure?_checkReturnField (d : Descriptor) (name : String) :
    failure? (d.checkReturnField name) = (d.nameOffences name ("RETURN " ++ name)).head? := by
  rw [Descriptor.checkReturnField, failure?_map, failure?_resolve_field]

/-- Compiling a query fails with the first offence, if there is any. -/
theorem Query.failure?_compile (q : Query Value) (d : Descriptor) :
    failure? (q.compile d) = (q.offences d).head? := by
  obtain ⟨filters, sorting?, withContent, returnFields⟩ := q
  have hfilters : failure? (filters.mapM (·.compile d)) =
      (filters.flatMap (·.offences d)).head? := by
    rw [failure?_mapM, List.head?_flatMap]
    simp only [RecordSearch.failure?_compile]
  have hreturn : failure? (returnFields.forM d.checkReturnField) =
      (returnFields.flatMap fun name => d.nameOffences name ("RETURN " ++ name)).head? := by
    rw [failure?_forM, List.head?_flatMap]
    simp only [failure?_checkReturnField]
  unfold Query.compile Query.offences
  rw [List.append_assoc, List.head?_append, ← hfilters]
  refine failure?_bind fun texts _ => ?_
  rw [List.head?_append, ← hreturn]
  cases sorting? with
  | none => exact failure?_bind_pure _ _
  | some s =>
    rw [Option.toList_some, List.flatMap_singleton, ← failure?_checkSortField]
    exact failure?_bind fun _ _ => failure?_bind_pure _ _

/-! ## The first offence -/

/-- A predicate compiles exactly if its leaves are well formed. Otherwise the error is the first offence of
the first leaf that is not, and names this leaf. A query reports its filters' offences in order, and what
else is wrong with it only after them. -/
theorem compile_reports_first_offence (d : Descriptor) :
    (∀ p : Predicate Value,
      ((∃ text, p.compile d = .ok text) ↔ ∀ leaf ∈ p.leaves, leaf.IsWellFormed d) ∧
      ∀ e, p.compile d = .error e ↔
        ∃ before leaf after, p.leaves = before ++ leaf :: after ∧
          (∀ other ∈ before, other.IsWellFormed d) ∧ ¬ leaf.IsWellFormed d ∧
          (leaf.offences d).head? = some e ∧ e.fragment? = some leaf.render) ∧
    ∀ (q : Query Value) (e : CompileError), q.compile d = .error e ↔ (q.offences d).head? = some e := by
  refine ⟨fun p => ⟨?_, fun e => ?_⟩, fun q e => ?_⟩
  · rw [← failure?_eq_none_iff, failure?_compile, List.head?_eq_none_iff, offences_eq_flatMap_leaves,
      List.flatMap_eq_nil_iff]
    exact forall₂_congr fun leaf _ => offences_eq_nil_iff
  · rw [← failure?_eq_some_iff, failure?_compile, offences_eq_flatMap_leaves, List.head?_flatMap,
      List.findSome?_eq_some_iff]
    constructor
    · rintro ⟨before, leaf, after, hleaves, hhead, hbefore⟩
      have hleaf : leaf ∈ p.leaves := by simp [hleaves]
      have hmem := List.mem_of_mem_head? hhead
      refine ⟨before, leaf, after, hleaves, fun other hother => ?_, ?_, hhead,
        fragment?_of_mem_offences (Predicate.isLeaf_of_mem_leaves hleaf) hmem⟩
      · exact offences_eq_nil_iff.1 (List.head?_eq_none_iff.1 (hbefore other hother))
      · rw [← offences_eq_nil_iff]
        exact List.ne_nil_of_mem hmem
    · rintro ⟨before, leaf, after, hleaves, hbefore, -, hhead, -⟩
      refine ⟨before, leaf, after, hleaves, hhead, fun other hother => ?_⟩
      rw [offences_eq_nil_iff.2 (hbefore other hother)]
      rfl
  · rw [← failure?_eq_some_iff, Query.failure?_compile]

/-- Null is looked for before the method, and the leaf on the left before that on the right. -/
example :
    ((Predicate.member "open").conj ((Predicate.call "count" .contains (.literal .null)).disj
        (.constant (.text "")))).compile
      ⟨"stocks", [⟨"count", .numeric, false, .int64⟩, ⟨"open", .tag, false, .bool⟩], []⟩ =
      .error (.nullValue "count.Contains(null)") := by
  decide +kernel

end RecordSearch
