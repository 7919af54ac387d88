import RecordSearch.Proofs.Clause.Compile

/-!
# Compiling does not depend on the index's name

A descriptor whose index has another name compiles every query to the same clauses, and refuses it for the
same reason. The name is seen only where an error says on which index a field is missing.

## Main definitions

* `Descriptor.inNamespace` — the descriptor with its index's name behind a namespace.
* `CompileError.inNamespace` — the error with the name of the index behind a namespace.

## Main results

* `Query.compile_inNamespace` — the two agree.
-/

namespace RecordSearch

/-- The descriptor with its index's name behind a namespace. -/
def Descriptor.inNamespace (ns : String) (d : Descriptor) : Descriptor :=
  { d with indexName := ns ++ d.indexName }

/-- The error with the name of the index behind a namespace. -/
def CompileError.inNamespace (ns : String) : CompileError → CompileError
  | .unknownField index field fragment => .unknownField (ns ++ index) field fragment
  | .unindexedSortField index field => .unindexedSortField (ns ++ index) field
  | e => e

variable (ns : String)

theorem Descriptor.resolve_inNamespace (d : Descriptor) (name fragment : String) :
    (d.inNamespace ns).resolve name fragment =
      (d.resolve name fragment).mapError (·.inNamespace ns) := by
  have hfield : (d.inNamespace ns).field? name = d.field? name := rfl
  unfold resolve
  rw [hfield]
  cases d.field? name <;> rfl

theorem Operand.mapError_resolve (o : Operand Value) (fragment : String) :
    (o.resolve fragment).mapError (·.inNamespace ns) = o.resolve fragment :=
  o.mapError_resolve_eq rfl fun _ => rfl

theorem FieldDescriptor.mapError_compare (f : FieldDescriptor) (op : Comparison) (s : Scalar)
    (fragment : String) :
    (f.compare op s fragment).mapError (·.inNamespace ns) = f.compare op s fragment :=
  mapError_compare_eq (fun _ => rfl) op s rfl

theorem FieldDescriptor.mapError_call (f : FieldDescriptor) (method : TextMethod) (s : Scalar)
    (fragment : String) :
    (f.call method s fragment).mapError (·.inNamespace ns) = f.call method s fragment :=
  mapError_call_eq (fun _ => rfl) method s rfl

theorem Value.mapError_toClause (v : Value) :
    v.toClause.mapError (·.inNamespace ns) = v.toClause := by
  unfold toClause
  cases v.scalar? with
  | none => rfl
  | some s =>
    dsimp only
    split <;> rfl

/-- A predicate has the same clause, or the same fault, whatever the index is called. -/
theorem Predicate.toClause_inNamespace (d : Descriptor) (p : Predicate Value) :
    p.toClause (d.inNamespace ns) = (p.toClause d).mapError (·.inNamespace ns) := by
  induction p with
  | compare field op operand =>
    simp only [toClause, mapError_bind, Descriptor.resolve_inNamespace, Operand.mapError_resolve,
      FieldDescriptor.mapError_compare]
  | call field method operand =>
    simp only [toClause, mapError_bind, Descriptor.resolve_inNamespace, Operand.mapError_resolve,
      FieldDescriptor.mapError_call]
  | member field =>
    simp only [toClause, mapError_bind, Descriptor.resolve_inNamespace]
    congr 1
    funext f
    split
    · rw [FieldDescriptor.mapError_compare]
    · rfl
  | constant v => exact (v.mapError_toClause ns).symm
  | conj left right ihl ihr | disj left right ihl ihr =>
    simp only [toClause, mapError_bind, ihl, ihr]
    rfl
  | neg operand ih => rw [toClause_neg, toClause_neg, mapError_map, ih]

theorem Predicate.compile_inNamespace (d : Descriptor) (p : Predicate Value) :
    p.compile (d.inNamespace ns) = (p.compile d).mapError (·.inNamespace ns) := by
  rw [compile, toClause_inNamespace, compile, mapError_map]

theorem Descriptor.checkSortField_inNamespace (d : Descriptor) (name : String) :
    (d.inNamespace ns).checkSortField name =
      (d.checkSortField name).mapError (·.inNamespace ns) := by
  have hfield : (d.inNamespace ns).indexedField? name = d.indexedField? name := rfl
  unfold checkSortField
  rw [hfield]
  split <;> rfl

theorem Descriptor.checkReturnField_inNamespace (d : Descriptor) (name : String) :
    (d.inNamespace ns).checkReturnField name =
      (d.checkReturnField name).mapError (·.inNamespace ns) := by
  rw [checkReturnField, resolve_inNamespace, checkReturnField, mapError_map]

/-- A query compiles to the same, or is refused for the same reason, whatever the index is called. -/
theorem Query.compile_inNamespace (d : Descriptor) (q : Query Value) :
    q.compile (d.inNamespace ns) = (q.compile d).mapError (·.inNamespace ns) := by
  obtain ⟨filters, sorting?, withContent, returnFields⟩ := q
  have hfilters := mapError_mapM (fun p => Predicate.compile_inNamespace ns d p) filters
  have hreturn := mapError_forM (d.checkReturnField_inNamespace ns) returnFields
  unfold compile
  cases sorting? with
  | none =>
    simp only [mapError_bind, hfilters, hreturn]
    rfl
  | some s =>
    simp only [mapError_bind, hfilters, hreturn, Descriptor.checkSortField_inNamespace]
    rfl

end RecordSearch
