import RecordSearch.Value

/-!
# Predicates

A predicate describes which records a query wants, in terms of a model's fields. It knows nothing of the
index; field names are checked when it is compiled.

What a field is compared with can be deferred: it is then settled anew by every compilation. So there is the
predicate as it is put together, which holds a `Deferral` for each such value, and the predicate as one
compilation sees it, which holds the `Value` that has come of it.

## Main definitions

* `Comparison`, `TextMethod` — what a field is asked.
* `Deferral` — a value that is settled by every compilation anew.
* `Operand` — what a field is compared with.
* `Predicate` — the tree.
* `Predicate.asOf` — the predicate that a compilation sees.
* `Predicate.render`, `Predicate.inspect` — its two texts.
* `Predicate.mentionsField` — whether any leaf asks a field.
-/

namespace RecordSearch

/-- The six comparisons. -/
inductive Comparison where
  | eq
  | ne
  | lt
  | le
  | gt
  | ge
  deriving DecidableEq, Repr

/-- The comparison's sign. -/
def Comparison.symbol : Comparison → String
  | eq => "=="
  | ne => "!="
  | lt => "<"
  | le => "<="
  | gt => ">"
  | ge => ">="

/-- The comparison's name. -/
def Comparison.label : Comparison → String
  | eq => "Eq"
  | ne => "Ne"
  | lt => "Lt"
  | le => "Le"
  | gt => "Gt"
  | ge => "Ge"

/-- Ways to look for a text in a text. -/
inductive TextMethod where
  | contains
  | startsWith
  | endsWith
  deriving DecidableEq, Repr

/-- The method's name. -/
def TextMethod.label : TextMethod → String
  | contains => "Contains"
  | startsWith => "StartsWith"
  | endsWith => "EndsWith"

/-- A value that is settled by every compilation anew: what comes of it, compilation by compilation. -/
abbrev Deferral := Nat → Value

/-- The right-hand side of a comparison or a method, with a `δ` where it is deferred. -/
inductive Operand (δ : Type) where
  | literal (value : Value)
  /-- A value settled when the predicate is compiled, and not shown before. -/
  | deferred (value : δ)
  /-- Another field of the record, which no index can compare with. -/
  | field (name : String)
  deriving DecidableEq, Repr

namespace Operand

variable {δ ε : Type}

/-- The operand with something else in place of what is deferred. -/
def map (f : δ → ε) : Operand δ → Operand ε
  | literal value => literal value
  | deferred value => deferred (f value)
  | field name => field name

/-- The operand as it reads in a filter's text. -/
def render : Operand δ → String
  | literal value => value.render
  | deferred _ => "<deferred>"
  | field name => "model." ++ name

/-- The operand with its constructor named. -/
def inspect : Operand δ → String
  | literal value => "Value(" ++ value.inspect ++ ")"
  | deferred _ => "Eval(..)"
  | field name => "Field(" ++ quoted name ++ ")"

end Operand

/-- Which records are wanted. -/
inductive Predicate (δ : Type) where
  | compare (field : String) (op : Comparison) (operand : Operand δ)
  | call (field : String) (method : TextMethod) (operand : Operand δ)
  /-- A truth-valued field that has to be true. -/
  | member (field : String)
  /-- A bare value, looked for in all text. -/
  | constant (value : Value)
  | conj (left right : Predicate δ)
  | disj (left right : Predicate δ)
  | neg (operand : Predicate δ)
  deriving DecidableEq, Repr

namespace Predicate

variable {δ ε : Type}

/-- The predicate with something else in place of what is deferred. -/
def map (f : δ → ε) : Predicate δ → Predicate ε
  | compare field op operand => compare field op (operand.map f)
  | call field method operand => call field method (operand.map f)
  | member field => member field
  | constant value => constant value
  | conj left right => conj (left.map f) (right.map f)
  | disj left right => disj (left.map f) (right.map f)
  | neg operand => neg (operand.map f)

theorem map_id (p : Predicate δ) : p.map id = p := by
  have hoperand (o : Operand δ) : o.map id = o := by cases o <;> rfl
  induction p with
  | compare | call => simp only [map, hoperand]
  | member | constant => rfl
  | conj _ _ ihl ihr | disj _ _ ihl ihr => rw [map, ihl, ihr]
  | neg _ ih => rw [map, ih]

/-- The predicate that the compilation of a number sees. -/
def asOf (p : Predicate Deferral) (k : Nat) : Predicate Value :=
  p.map (· k)

/-- The predicate as it reads in messages. -/
def render : Predicate δ → String
  | compare field op operand => field ++ " " ++ op.symbol ++ " " ++ operand.render
  | call field method operand => field ++ "." ++ method.label ++ "(" ++ operand.render ++ ")"
  | member field => field
  | constant value => value.render
  | conj left right => "(" ++ left.render ++ " && " ++ right.render ++ ")"
  | disj left right => "(" ++ left.render ++ " || " ++ right.render ++ ")"
  | neg operand => "!" ++ operand.render

/-- The predicate with its constructors named. -/
def inspect : Predicate δ → String
  | compare field op operand =>
    inspectRecord "Compare" [("field", quoted field), ("op", op.label), ("value", operand.inspect)]
  | call field method operand =>
    inspectRecord "Call" [("field", quoted field), ("method", method.label), ("arg", operand.inspect)]
  | member field => "Member(" ++ quoted field ++ ")"
  | constant value => "Constant(" ++ value.inspect ++ ")"
  | conj left right => "And(" ++ left.inspect ++ ", " ++ right.inspect ++ ")"
  | disj left right => "Or(" ++ left.inspect ++ ", " ++ right.inspect ++ ")"
  | neg operand => "Not(" ++ operand.inspect ++ ")"

/-- The leaves from left to right. -/
def leaves : Predicate δ → List (Predicate δ)
  | conj left right => left.leaves ++ right.leaves
  | disj left right => left.leaves ++ right.leaves
  | neg operand => operand.leaves
  | leaf => [leaf]

/-- Whether some leaf asks a field. -/
def mentionsField : Predicate δ → Bool
  | compare .. => true
  | call .. => true
  | member _ => true
  | constant _ => false
  | conj left right => left.mentionsField || right.mentionsField
  | disj left right => left.mentionsField || right.mentionsField
  | neg operand => operand.mentionsField

end Predicate

end RecordSearch
