import RecordSearch.Proofs.Except
import RecordSearch.Query.Basic

/-!
# What compiled predicates and queries are made of

Each step of compiling comes to a result under a condition that can be said without the messages of the
other outcomes. Proofs about compiled clauses go through these conditions.

## Main definitions

* `Operand.scalar?` — the scalar of a right-hand side, if it has one.
* `Scalar.number?` — the number a scalar counts as.

## Main results

* `FieldDescriptor.compare_eq_ok_iff`, `FieldDescriptor.call_eq_ok_iff` — the clauses of leaves.
* `FieldDescriptor.exists_field_of_compare`, `FieldDescriptor.exists_field_of_call` — both are leaves.
* `toClause_compare_eq_ok_iff` and its likes — one for each kind of predicate.
* `Query.compile_eq_ok_iff` — the conditions of a query and its checks.
* `FieldDescriptor.mapError_compare_eq`, `FieldDescriptor.mapError_call_eq` — what else a leaf could name.
-/

namespace RecordSearch

/-- The value of a right-hand side that is no field. -/
def Operand.value? : Operand Value → Option Value
  | literal v => some v
  | deferred v => some v
  | field _ => none

/-- The scalar of a right-hand side that is neither a field nor null. -/
def Operand.scalar? (o : Operand Value) : Option Scalar :=
  o.value?.bind Value.scalar?

/-- The number that a scalar counts as; a text counts as none. -/
def Scalar.number? : Scalar → Option Number
  | bool b => some (.integer (if b then 1 else 0))
  | number n => some n
  | text _ => none

theorem name_of_field? {d : Descriptor} {name : String} {f : FieldDescriptor}
    (h : d.field? name = some f) : f.name = name := by
  rw [Descriptor.field?, Option.or_eq_some_iff] at h
  rcases h with h | ⟨-, h⟩ <;> simpa using List.find?_some h

theorem resolve_eq_ok_iff {d : Descriptor} {name fragment : String} {f : FieldDescriptor} :
    d.resolve name fragment = .ok f ↔ d.field? name = some f := by
  unfold Descriptor.resolve
  cases d.field? name <;> simp

theorem Operand.resolve_eq_ok_iff {o : Operand Value} {fragment : String} {s : Scalar} :
    o.resolve fragment = .ok s ↔ o.scalar? = some s := by
  cases o with
  | literal v | deferred v =>
    simp only [resolve, scalar?, value?, Option.bind_some]
    cases v.scalar? <;> simp
  | field name => simp [resolve, scalar?, value?]

namespace FieldDescriptor

theorem numberFor_eq_ok_iff {f : FieldDescriptor} {s : Scalar} {fragment : String} {n : Number} :
    f.numberFor s fragment = .ok n ↔ s.number? = some n ∧ n.isFinite = true := by
  cases s with
  | text t => simp [numberFor, Scalar.number?]
  | bool b =>
    simp only [numberFor, Scalar.number?, Option.some.injEq]
    rw [if_pos (by rfl), Except.ok.injEq]
    exact ⟨fun h => ⟨h, h ▸ rfl⟩, And.left⟩
  | number m =>
    simp only [numberFor, Scalar.number?, Option.some.injEq]
    by_cases hfinite : m.isFinite = true
    · rw [if_pos hfinite, Except.ok.injEq]
      exact ⟨fun h => ⟨h, h ▸ hfinite⟩, And.left⟩
    · rw [if_neg hfinite]
      exact ⟨nofun, fun h => absurd (h.1 ▸ h.2) hfinite⟩

theorem tokenFor_eq_ok_iff {f : FieldDescriptor} {s : Scalar} {fragment token : String} :
    f.tokenFor s fragment = .ok token ↔ s.token ≠ "" ∧ s.token = token := by
  unfold tokenFor
  split <;> simp_all

/-- The clause of a comparison: a range of a number, or equality with a token. -/
theorem compare_eq_ok_iff {f : FieldDescriptor} {op : Comparison} {s : Scalar} {fragment : String}
    {c : Clause} :
    f.compare op s fragment = .ok c ↔
      match f.kind with
      | .numeric => ∃ n, s.number? = some n ∧ n.isFinite = true ∧
          .field (op = .ne) f.name (op.range n) = c
      | .text => op.isEquality = true ∧ s.token ≠ "" ∧
          .field (op = .ne) f.name (.word (.exact s.token)) = c
      | .tag => op.isEquality = true ∧ s.token ≠ "" ∧
          .field (op = .ne) f.name (.tag (.exact s.token)) = c := by
  unfold compare
  cases f.kind with
  | numeric =>
    simp only [bind_eq_ok_iff, pure_eq_ok_iff, numberFor_eq_ok_iff, and_assoc]
  | text | tag =>
    cases op.isEquality with
    | false => simp
    | true =>
      simp only [if_true, bind_eq_ok_iff, pure_eq_ok_iff, tokenFor_eq_ok_iff, and_assoc,
        true_and]
      constructor
      · rintro ⟨token, hne, rfl, hc⟩
        exact ⟨hne, hc⟩
      · rintro ⟨hne, hc⟩
        exact ⟨s.token, hne, rfl, hc⟩

/-- The clause of a text method, which numeric fields have none of. -/
theorem call_eq_ok_iff {f : FieldDescriptor} {method : TextMethod} {s : Scalar} {fragment : String}
    {c : Clause} :
    f.call method s fragment = .ok c ↔
      f.type.isText = true ∧ s.token ≠ "" ∧
        match f.kind with
        | .numeric => False
        | .text => .field false f.name (.word (method.pattern s.token)) = c
        | .tag => .field false f.name (.tag (method.pattern s.token)) = c := by
  unfold call
  cases f.type.isText with
  | false => simp [bind, Except.bind, throw, throwThe, MonadExceptOf.throw]
  | true =>
    simp only [Bool.not_true, Bool.false_eq_true, if_false, bind_eq_ok_iff, tokenFor_eq_ok_iff,
      true_and]
    -- The token is checked before the kind, so its condition holds whatever the kind.
    constructor
    · rintro ⟨token, ⟨hne, rfl⟩, hc⟩
      refine ⟨hne, ?_⟩
      cases hkind : f.kind <;>
        simp_all [pure_eq_ok_iff, throw, throwThe, MonadExceptOf.throw]
    · rintro ⟨hne, hc⟩
      refine ⟨s.token, ⟨hne, rfl⟩, ?_⟩
      cases hkind : f.kind <;> simp_all [pure_eq_ok_iff]

/-- The leaf of a comparison carries the name of the field. -/
theorem exists_field_of_compare {f : FieldDescriptor} {op : Comparison} {s : Scalar}
    {fragment : String} {c : Clause} (h : f.compare op s fragment = .ok c) :
    ∃ negated demand, c = .field negated f.name demand := by
  rw [compare_eq_ok_iff] at h
  cases hkind : f.kind <;> simp only [hkind] at h
  case numeric =>
    obtain ⟨n, -, -, rfl⟩ := h
    exact ⟨_, _, rfl⟩
  case text | tag =>
    obtain ⟨-, -, rfl⟩ := h
    exact ⟨_, _, rfl⟩

/-- The leaf of a text method carries the name of the field. -/
theorem exists_field_of_call {f : FieldDescriptor} {method : TextMethod} {s : Scalar}
    {fragment : String} {c : Clause} (h : f.call method s fragment = .ok c) :
    ∃ demand, c = .field false f.name demand := by
  obtain ⟨-, -, h⟩ := call_eq_ok_iff.1 h
  cases hkind : f.kind <;> simp only [hkind] at h
  case text | tag => exact ⟨_, h.symm⟩

end FieldDescriptor

/-! ## One lemma for each kind of predicate -/

theorem toClause_constant_eq_ok_iff {d : Descriptor} {v : Value} {c : Clause} :
    (Predicate.constant v).toClause d = .ok c ↔
      ∃ s, v.scalar? = some s ∧ s.token ≠ "" ∧ .literal s.token = c := by
  simp only [Predicate.toClause, Value.toClause]
  cases v.scalar? with
  | none => simp
  | some s => by_cases h : s.token = "" <;> simp [h]

theorem toClause_compare_eq_ok_iff {d : Descriptor} {name : String} {op : Comparison} {o : Operand Value}
    {c : Clause} :
    (Predicate.compare name op o).toClause d = .ok c ↔
      ∃ f, d.field? name = some f ∧ ∃ s, o.scalar? = some s ∧
        f.compare op s (Predicate.compare name op o).render = .ok c := by
  simp only [Predicate.toClause, bind_eq_ok_iff, resolve_eq_ok_iff, Operand.resolve_eq_ok_iff]

theorem toClause_call_eq_ok_iff {d : Descriptor} {name : String} {method : TextMethod}
    {o : Operand Value} {c : Clause} :
    (Predicate.call name method o).toClause d = .ok c ↔
      ∃ f, d.field? name = some f ∧ ∃ s, o.scalar? = some s ∧
        f.call method s (Predicate.call name method o).render = .ok c := by
  simp only [Predicate.toClause, bind_eq_ok_iff, resolve_eq_ok_iff, Operand.resolve_eq_ok_iff]

theorem toClause_member_eq_ok_iff {d : Descriptor} {name : String} {c : Clause} :
    (Predicate.member name).toClause d = .ok c ↔
      ∃ f, d.field? name = some f ∧ f.type.isBool = true ∧
        f.compare .eq (.bool true) (Predicate.member name : Predicate Value).render = .ok c := by
  simp only [Predicate.toClause, bind_eq_ok_iff, resolve_eq_ok_iff]
  refine exists_congr fun f => and_congr_right fun _ => ?_
  cases f.type.isBool <;> simp [throw, throwThe, MonadExceptOf.throw]

theorem toClause_conj_eq_ok_iff {d : Descriptor} {left right : Predicate Value} {c : Clause} :
    (Predicate.conj left right).toClause d = .ok c ↔
      ∃ l, left.toClause d = .ok l ∧ ∃ r, right.toClause d = .ok r ∧ .conj l r = c := by
  simp only [Predicate.toClause, bind_eq_ok_iff, pure_eq_ok_iff]

theorem toClause_disj_eq_ok_iff {d : Descriptor} {left right : Predicate Value} {c : Clause} :
    (Predicate.disj left right).toClause d = .ok c ↔
      ∃ l, left.toClause d = .ok l ∧ ∃ r, right.toClause d = .ok r ∧ .disj l r = c := by
  simp only [Predicate.toClause, bind_eq_ok_iff, pure_eq_ok_iff]

theorem toClause_neg_eq_ok_iff {d : Descriptor} {operand : Predicate Value} {c : Clause} :
    (Predicate.neg operand).toClause d = .ok c ↔
      ∃ inner, operand.toClause d = .ok inner ∧ inner.negated = c := by
  rw [Predicate.toClause_neg, map_eq_ok_iff]

theorem compile_eq_ok_iff {d : Descriptor} {p : Predicate Value} {text : String} :
    p.compile d = .ok text ↔ ∃ c, p.toClause d = .ok c ∧ c.render = text :=
  map_eq_ok_iff

/-- A query compiles if its filters do, and if the fields it sorts by and returns are there. -/
theorem Query.compile_eq_ok_iff {q : Query Value} {d : Descriptor} {compiled : CompiledQuery} :
    q.compile d = .ok compiled ↔
      ∃ texts, q.filters.mapM (·.compile d) = .ok texts ∧
        (∀ s ∈ q.sorting?, d.checkSortField s.field = .ok ()) ∧
        (∀ name ∈ q.returnFields, d.checkReturnField name = .ok ()) ∧
        ⟨texts, q.sorting?, q.withContent, q.returnFields⟩ = compiled := by
  obtain ⟨filters, sorting?, withContent, returnFields⟩ := q
  unfold Query.compile
  rw [bind_eq_ok_iff]
  refine exists_congr fun texts => and_congr_right fun _ => ?_
  cases sorting? with
  | none =>
    rw [check_bind_eq_ok_iff, forM_eq_ok_iff, pure_eq_ok_iff]
    simp
  | some s =>
    simp only [check_bind_eq_ok_iff, forM_eq_ok_iff, pure_eq_ok_iff, Option.mem_some_iff, forall_eq']

/-! ## Errors in other words

A step that names another part of the predicate in its errors comes to the same otherwise. So it does under
any map of errors that turns those about the one part into those about the other. -/

section Rewording

variable {g : CompileError → CompileError} {a b : String}

theorem Operand.mapError_resolve_eq (o : Operand Value) (hnull : g (.nullValue a) = .nullValue b)
    (hfield : ∀ name, g (.unsupportedExpression a (.fieldReference name)) =
      .unsupportedExpression b (.fieldReference name)) :
    (o.resolve a).mapError g = o.resolve b := by
  cases o with
  | literal v | deferred v =>
    unfold resolve
    dsimp only
    cases v.scalar? with
    | none => exact congrArg Except.error hnull
    | some s => rfl
  | field name => exact congrArg Except.error (hfield name)

namespace FieldDescriptor

variable {f : FieldDescriptor} (hvalue : ∀ value, g (f.valueError value a) = f.valueError value b)

include hvalue

theorem mapError_tokenFor_eq (s : Scalar) : (f.tokenFor s a).mapError g = f.tokenFor s b := by
  unfold tokenFor
  split
  · exact congrArg Except.error (hvalue _)
  · rfl

theorem mapError_numberFor_eq (s : Scalar) : (f.numberFor s a).mapError g = f.numberFor s b := by
  cases s with
  | text t => exact congrArg Except.error (hvalue _)
  | bool x => cases x <;> rfl
  | number n =>
    unfold numberFor
    dsimp only
    split
    · rfl
    · exact congrArg Except.error (hvalue _)

theorem mapError_compare_eq (op : Comparison) (s : Scalar)
    (hop : g (.unsupportedOperator op f.kind f.name a) = .unsupportedOperator op f.kind f.name b) :
    (f.compare op s a).mapError g = f.compare op s b := by
  unfold compare
  cases hkind : f.kind with
  | numeric =>
    simp only [mapError_bind, mapError_numberFor_eq hvalue]
    rfl
  | text | tag =>
    rw [hkind] at hop
    cases op.isEquality with
    | false => exact congrArg Except.error hop
    | true =>
      simp only [if_true, mapError_bind, mapError_tokenFor_eq hvalue]
      rfl

theorem mapError_call_eq (method : TextMethod) (s : Scalar)
    (hmethod : g (.unsupportedMethod method f.kind f.name a) =
      .unsupportedMethod method f.kind f.name b) :
    (f.call method s a).mapError g = f.call method s b := by
  unfold call
  cases f.type.isText with
  | false => exact congrArg Except.error hmethod
  | true =>
    simp only [Bool.not_true, Bool.false_eq_true, if_false, mapError_bind, mapError_tokenFor_eq hvalue]
    congr 1
    funext token
    cases hkind : f.kind with
    | numeric =>
      rw [hkind] at hmethod
      exact congrArg Except.error hmethod
    | text | tag => rfl

end FieldDescriptor

end Rewording

end RecordSearch
