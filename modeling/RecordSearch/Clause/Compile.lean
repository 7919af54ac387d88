import RecordSearch.Clause.Basic
import RecordSearch.Clause.Error
import RecordSearch.Schema.Descriptor

/-!
# From predicates to clauses

A predicate is compiled leaf by leaf, from left to right, and the first leaf at fault decides the error.
The kind that a leaf's field is indexed as decides the syntax: numeric fields take closed ranges, whose
strict bounds are moved by `strictStep`; text and tag fields take patterns and know equality only.

## Main definitions

* `Operand.resolve` — the scalar of a right-hand side.
* `FieldDescriptor.compare`, `FieldDescriptor.call` — the clause of a leaf.
* `Predicate.toClause` — the clause of a predicate.
* `Predicate.compile` — its text.
-/

namespace RecordSearch

/-- The declared field of a name. -/
def Descriptor.resolve (d : Descriptor) (name fragment : String) :
    Except CompileError FieldDescriptor :=
  match d.field? name with
  | some f => .ok f
  | none => .error (.unknownField d.indexName name fragment)

/-- The scalar of a right-hand side, which may be neither a field nor null. -/
def Operand.resolve (operand : Operand Value) (fragment : String) : Except CompileError Scalar :=
  let ofValue (v : Value) : Except CompileError Scalar :=
    match v.scalar? with
    | some s => .ok s
    | none => .error (.nullValue fragment)
  match operand with
  | .literal v => ofValue v
  | .deferred v => ofValue v
  | .field name => .error (.unsupportedExpression fragment (.fieldReference name))

namespace FieldDescriptor

/-- The error of a value that the field's kind cannot match. -/
def valueError (f : FieldDescriptor) (value fragment : String) : CompileError :=
  .unsupportedValue value f.kind f.name fragment

/-- The finite number that a numeric field is compared with; truth values count as `0` and `1`. -/
def numberFor (f : FieldDescriptor) (s : Scalar) (fragment : String) : Except CompileError Number :=
  let checked (n : Number) : Except CompileError Number :=
    if n.isFinite then .ok n else .error (f.valueError n.render fragment)
  match s with
  | .number n => checked n
  | .bool b => checked (.integer (if b then 1 else 0))
  | .text t => .error (f.valueError (quoted t) fragment)

/-- The token that a text or tag field is matched with. -/
def tokenFor (f : FieldDescriptor) (s : Scalar) (fragment : String) : Except CompileError String :=
  if s.token = "" then .error (f.valueError (quoted "") fragment) else .ok s.token

end FieldDescriptor

/-- The closed range of a comparison; inequality has that of equality. -/
def Comparison.range (op : Comparison) (n : Number) : Demand :=
  match op with
  | .eq | .ne => .within n n
  | .gt => .within (n.offset strictStep) .posInfinity
  | .ge => .within n .posInfinity
  | .lt => .within .negInfinity (n.offset (-strictStep))
  | .le => .within .negInfinity n

/-- Whether the comparison is equality or its negation. -/
def Comparison.isEquality : Comparison → Bool
  | .eq | .ne => true
  | _ => false

/-- The pattern that a method looks for. -/
def TextMethod.pattern (method : TextMethod) (literal : String) : Pattern :=
  match method with
  | .contains => ⟨true, literal, true⟩
  | .startsWith => ⟨false, literal, true⟩
  | .endsWith => ⟨true, literal, false⟩

namespace FieldDescriptor

/-- The clause of a comparison with a field. -/
def compare (f : FieldDescriptor) (op : Comparison) (s : Scalar) (fragment : String) :
    Except CompileError Clause :=
  let leaf (demand : Demand) : Clause := .field (op = .ne) f.name demand
  let matching (shape : Pattern → Demand) : Except CompileError Clause :=
    if op.isEquality then return leaf (shape (.exact (← f.tokenFor s fragment)))
    else .error (.unsupportedOperator op f.kind f.name fragment)
  match f.kind with
  | .numeric => return leaf (op.range (← f.numberFor s fragment))
  | .text => matching .word
  | .tag => matching .tag

/-- The clause of a text method on a field, whose values have to be texts. -/
def call (f : FieldDescriptor) (method : TextMethod) (s : Scalar) (fragment : String) :
    Except CompileError Clause := do
  let unsupported : CompileError := .unsupportedMethod method f.kind f.name fragment
  if !f.type.isText then throw unsupported
  let pattern := method.pattern (← f.tokenFor s fragment)
  match f.kind with
  | .text => return .field false f.name (.word pattern)
  | .tag => return .field false f.name (.tag pattern)
  | .numeric => throw unsupported

end FieldDescriptor

/-- The clause of a bare constant. -/
def Value.toClause (v : Value) : Except CompileError Clause :=
  match v.scalar? with
  | none => .error (.nullValue v.render)
  | some s =>
    if s.token = "" then .error (.unsupportedExpression v.render .emptyConstant)
    else .ok (.literal s.token)

/-- The clause of a predicate over the fields of a descriptor. -/
def Predicate.toClause (d : Descriptor) : Predicate Value → Except CompileError Clause
  | p@(.compare field op operand) => do
    let f ← d.resolve field p.render
    f.compare op (← operand.resolve p.render) p.render
  | p@(.call field method operand) => do
    let f ← d.resolve field p.render
    f.call method (← operand.resolve p.render) p.render
  | p@(.member field) => do
    let f ← d.resolve field p.render
    if f.type.isBool then f.compare .eq (.bool true) p.render
    else throw (.unsupportedExpression p.render .bareMember)
  | .constant v => v.toClause
  | .conj left right => return .conj (← left.toClause d) (← right.toClause d)
  | .disj left right => return .disj (← left.toClause d) (← right.toClause d)
  | .neg operand => return (← operand.toClause d).negated

theorem Predicate.toClause_neg (d : Descriptor) (operand : Predicate Value) :
    (neg operand).toClause d = (operand.toClause d).map Clause.negated := by
  rw [toClause]
  cases operand.toClause d <;> rfl

/-- The text of the clause of a predicate. -/
def Predicate.compile (d : Descriptor) (p : Predicate Value) : Except CompileError String :=
  (p.toClause d).map Clause.render

/-- Sorting needs an indexed field. -/
def Descriptor.checkSortField (d : Descriptor) (name : String) : Except CompileError Unit :=
  if (d.indexedField? name).isSome then .ok () else .error (.unindexedSortField d.indexName name)

/-- Returning needs a declared field. -/
def Descriptor.checkReturnField (d : Descriptor) (name : String) : Except CompileError Unit :=
  (d.resolve name ("RETURN " ++ name)).map fun _ => ()

end RecordSearch
