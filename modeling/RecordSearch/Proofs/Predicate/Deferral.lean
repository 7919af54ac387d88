import RecordSearch.Predicate.Handle
import RecordSearch.Proofs.Clause.Compile

/-!
# Values settled late

A right-hand side can be given at once or settled when the predicate is compiled. Which of the two it is shows
in the text of the predicate, and so in the part of it that an error names, but nowhere else: not in the clause
and not in what is wrong. So the two families of comparisons that a typed handle has do the same, each
comparison like its namesake.

## Main definitions

* `Predicate.Defers` — a predicate, and the same one with some values settled later.
* `CompileError.about` — an error with another part of the predicate in it.
* `SameOutcome` — two outcomes of compiling that differ at most in the part that the error names.
* `TypedFilter.eager` — a typed filter with every argument given at once.

## Main results

* `Predicate.Defers.toClause_eq` — settling values later changes no more of the outcome than that part.
* `TypedFilter.predicate_eager_defers` — typed filters with arguments settled later, as predicates.
* `compile_of_defers` — what both say about the text of a clause.
-/

namespace RecordSearch

/-- The same predicate, with some of the values in it deferred, which are settled as they were. -/
inductive Predicate.Defers {δ : Type} (settle : δ → Value) : Predicate δ → Predicate δ → Prop
  | refl (p : Predicate δ) : Defers settle p p
  | compare (field : String) (op : Comparison) (v : δ) :
      Defers settle (.compare field op (.literal (settle v))) (.compare field op (.deferred v))
  | call (field : String) (method : TextMethod) (v : δ) :
      Defers settle (.call field method (.literal (settle v))) (.call field method (.deferred v))
  | conj {l l' r r' : Predicate δ} (hl : Defers settle l l') (hr : Defers settle r r') :
      Defers settle (.conj l r) (.conj l' r')
  | disj {l l' r r' : Predicate δ} (hl : Defers settle l l') (hr : Defers settle r r') :
      Defers settle (.disj l r) (.disj l' r')
  | neg {p p' : Predicate δ} (h : Defers settle p p') : Defers settle (.neg p) (.neg p')

namespace CompileError

/-- The error with another part of the predicate in it. -/
def about (fragment : String) : CompileError → CompileError
  | unknownField index field _ => unknownField index field fragment
  | unsupportedOperator op kind field _ => unsupportedOperator op kind field fragment
  | unsupportedMethod method kind field _ => unsupportedMethod method kind field fragment
  | unsupportedValue value kind field _ => unsupportedValue value kind field fragment
  | nullValue _ => nullValue fragment
  | unsupportedExpression _ misuse => unsupportedExpression fragment misuse
  | unindexedSortField index field => unindexedSortField index field

theorem about_about (e : CompileError) (a b : String) : (e.about a).about b = e.about b := by
  cases e <;> rfl

theorem exists_about_eq_self (e : CompileError) : ∃ fragment, e.about fragment = e := by
  cases e with
  | unindexedSortField index field => exact ⟨"", rfl⟩
  | _ => exact ⟨_, rfl⟩

end CompileError

/-- The same text, or errors that differ at most in the part of the predicate that they name. -/
def SameOutcome : Except CompileError String → Except CompileError String → Prop
  | .ok text, .ok text' => text' = text
  | .error e, .error e' => ∃ fragment, e' = e.about fragment
  | _, _ => False

/-- Outcomes are the same if they are equal once all errors name one part. -/
theorem sameOutcome_of_mapError_eq {x y : Except CompileError String} (fragment : String)
    (h : y.mapError (·.about fragment) = x.mapError (·.about fragment)) : SameOutcome x y := by
  cases x with
  | ok text =>
    cases y with
    | ok text' => exact Except.ok.inj h
    | error e' => contradiction
  | error e =>
    cases y with
    | ok text' => contradiction
    | error e' =>
      have habout : e'.about fragment = e.about fragment := Except.error.inj h
      obtain ⟨own, hown⟩ := e'.exists_about_eq_self
      refine ⟨own, ?_⟩
      calc e' = (e'.about fragment).about own := by rw [e'.about_about, hown]
        _ = e.about own := by rw [habout, e.about_about]

/-! ## Predicates -/

section

variable (a b : String)

theorem Descriptor.mapError_resolve_about (d : Descriptor) (name : String) :
    (d.resolve name a).mapError (·.about b) = d.resolve name b := by
  unfold resolve
  cases d.field? name <;> rfl

theorem Operand.mapError_resolve_about (o : Operand Value) :
    (o.resolve a).mapError (·.about b) = o.resolve b :=
  o.mapError_resolve_eq rfl fun _ => rfl

theorem FieldDescriptor.mapError_compare_about (f : FieldDescriptor) (op : Comparison) (s : Scalar) :
    (f.compare op s a).mapError (·.about b) = f.compare op s b :=
  mapError_compare_eq (fun _ => rfl) op s rfl

theorem FieldDescriptor.mapError_call_about (f : FieldDescriptor) (method : TextMethod) (s : Scalar) :
    (f.call method s a).mapError (·.about b) = f.call method s b :=
  mapError_call_eq (fun _ => rfl) method s rfl

end

/-- Late or at once, a value has the same scalar. -/
theorem Operand.resolve_deferred (v : Value) (fragment : String) :
    (deferred v).resolve fragment = (literal v).resolve fragment := rfl

namespace Predicate.Defers

variable {δ : Type} {settle : δ → Value} {p q : Predicate δ}

/-- Settling values later changes at most the part of the predicate that the error names. -/
theorem toClause_eq (h : p.Defers settle q) (d : Descriptor) (fragment : String) :
    ((q.map settle).toClause d).mapError (·.about fragment) =
      ((p.map settle).toClause d).mapError (·.about fragment) := by
  induction h with
  | refl p => rfl
  | compare field op v =>
    -- Once all errors name the same part, the leaves differ in their right-hand sides only.
    simp only [map, Operand.map, toClause, mapError_bind, Descriptor.mapError_resolve_about,
      Operand.mapError_resolve_about, FieldDescriptor.mapError_compare_about, Operand.resolve_deferred]
  | call field method v =>
    simp only [map, Operand.map, toClause, mapError_bind, Descriptor.mapError_resolve_about,
      Operand.mapError_resolve_about, FieldDescriptor.mapError_call_about, Operand.resolve_deferred]
  | conj _ _ ihl ihr | disj _ _ ihl ihr => simp only [map, toClause, mapError_bind, ihl, ihr]
  | neg _ ih => rw [map, map, toClause_neg, toClause_neg, mapError_map, mapError_map, ih]

theorem sameOutcome (h : p.Defers settle q) (d : Descriptor) :
    SameOutcome ((p.map settle).compile d) ((q.map settle).compile d) := by
  apply sameOutcome_of_mapError_eq ""
  rw [compile, compile, mapError_map, mapError_map, h.toClause_eq]

end Predicate.Defers

/-! ## Typed filters -/

/-- The comparison that an equality is. -/
def Equality.comparison : Equality → Comparison
  | eq => .eq
  | ne => .ne

/-- The comparison that an inequality is. -/
def Inequality.comparison : Inequality → Comparison
  | lt => .lt
  | le => .le
  | gt => .gt
  | ge => .ge

/-- A value that is settled later, or given at once. -/
def Value.operand (deferred : Bool) (v : Value) : Operand Value :=
  if deferred then .deferred v else .literal v

namespace TypedFilter

/-- The filter with every argument given at once. -/
def eager : TypedFilter → TypedFilter
  | equality type h op _ v => equality type h op false v
  | inequality type h op _ v ordered => inequality type h op false v ordered
  | conj left right => conj left.eager right.eager
  | disj left right => disj left.eager right.eager
  | neg operand => neg operand.eager
  | leaf => leaf

variable {type : FieldType} (h : Handle type) (deferred : Bool) (v : type.Literal)

theorem predicate_equality (op : Equality) :
    (equality type h op deferred v).predicate =
      .compare h.name op.comparison (v.val.operand deferred) := by
  cases op <;> cases deferred <;> rfl

theorem predicate_inequality (op : Inequality) (ordered : type.isOrdered = true) :
    (inequality type h op deferred v ordered).predicate =
      .compare h.name op.comparison (v.val.operand deferred) := by
  cases op <;> cases deferred <;> rfl

theorem defers_operand (field : String) (op : Comparison) (v : Value) :
    (Predicate.compare field op (v.operand false)).Defers id (.compare field op (v.operand deferred)) := by
  cases deferred with
  | false => exact .refl _
  | true => exact .compare field op v

/-- A typed filter is, as a predicate, the one with every argument given at once, but for the values that it
settles later. -/
theorem predicate_eager_defers (f : TypedFilter) : f.eager.predicate.Defers id f.predicate := by
  induction f with
  | equality type h op deferred v =>
    rw [eager, predicate_equality, predicate_equality]
    exact defers_operand deferred _ _ _
  | inequality type h op deferred v ordered =>
    rw [eager, predicate_inequality, predicate_inequality]
    exact defers_operand deferred _ _ _
  | method | isTrue | isFalse => exact .refl _
  | conj _ _ ihl ihr => exact .conj ihl ihr
  | disj _ _ ihl ihr => exact .disj ihl ihr
  | neg _ ih => exact .neg ih

theorem sameOutcome_eager (f : TypedFilter) (d : Descriptor) :
    SameOutcome (f.eager.predicate.compile d) (f.predicate.compile d) := by
  have hsame := f.predicate_eager_defers.sameOutcome d
  rw [Predicate.map_id, Predicate.map_id] at hsame
  exact hsame

end TypedFilter

/-- With any of its values deferred, a predicate compiles to the same text in every compilation that settles
them so, or fails with the same error, but for the part of the predicate that the error names. A typed filter
does so too, and each of its comparisons is the one that its name says, whether the argument is given at once
or settled later. -/
theorem compile_of_defers (d : Descriptor) :
    (∀ k, ∀ p q : Predicate Deferral, p.Defers (· k) q →
      SameOutcome ((p.asOf k).compile d) ((q.asOf k).compile d)) ∧
    (∀ f : TypedFilter, SameOutcome (f.eager.predicate.compile d) (f.predicate.compile d)) ∧
    ∀ (type : FieldType) (h : Handle type) (deferred : Bool) (v : type.Literal),
      (∀ op, (TypedFilter.equality type h op deferred v).predicate =
        .compare h.name op.comparison (v.val.operand deferred)) ∧
      ∀ op ordered, (TypedFilter.inequality type h op deferred v ordered).predicate =
        .compare h.name op.comparison (v.val.operand deferred) := by
  refine ⟨fun k p q h => h.sameOutcome d, fun f => f.sameOutcome_eager d, ?_⟩
  intro type h deferred v
  exact ⟨TypedFilter.predicate_equality h deferred v, TypedFilter.predicate_inequality h deferred v⟩

/-- Few of a name, of whatever number the compilation asks: one text whether the two values are given at once or
settled later, and an empty name is at fault either way, in another part of the predicate by its text. -/
theorem compile_of_defers_of_stocks :
    let d : Descriptor := ⟨"stocks", [⟨"count", .numeric, true, .int64⟩, ⟨"name", .text, false, .text⟩], []⟩
    let few (number name : Operand Deferral) : Predicate Deferral :=
      .neg ((Predicate.compare "count" .ge number).disj (.compare "name" .ne name))
    let given (k : Nat) (name : String) := few (.literal (.int (.ofNat k))) (.literal (.text name))
    let late (name : String) := few (.deferred fun k => .int (.ofNat k)) (.deferred fun _ => .text name)
    (∀ k name, (given k name).Defers (· k) (late name) ∧
      SameOutcome (((given k name).asOf k).compile d) (((late name).asOf k).compile d)) ∧
    ((late "ore").asOf 3).compile d = .ok "-((@count:[3 +inf] | -@name:ore))" ∧
    ((given 3 "").asOf 3).compile d = .error (.unsupportedValue "\"\"" .text "name" "name != \"\"") ∧
    ((late "").asOf 3).compile d =
      .error (.unsupportedValue "\"\"" .text "name" "name != <deferred>") := by
  intro d few given late
  have hdefers (k : Nat) (name : String) : (given k name).Defers (· k) (late name) := by
    let number : Deferral := fun k => .int (.ofNat k)
    let text : Deferral := fun _ => .text name
    exact .neg (.disj (.compare "count" .ge number) (.compare "name" .ne text))
  obtain ⟨hsame, -, -⟩ := compile_of_defers d
  refine ⟨fun k name => ⟨hdefers k name, hsame k _ _ (hdefers k name)⟩, ?_, ?_, ?_⟩
  · decide +kernel
  · decide +kernel
  · decide +kernel

end RecordSearch
