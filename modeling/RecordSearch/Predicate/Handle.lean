import RecordSearch.Predicate.Basic

/-!
# Typed handles

A handle names a field together with its type, and builds only predicates that make sense for the type:
arguments are values of the type, range comparisons need an ordered one, text methods a textual one. The
predicates are those that one compilation sees, with the value that has come of a deferred argument.

## Main definitions

* `FieldType.Literal` — the values of a type.
* `Handle` — a typed field name.
* `Handle.eq`, `Handle.gt`, `Handle.contains`, `Handle.isTrue` and the others — leaves.
* `TypedFilter` — the filters that handles and the connectives build.
-/

namespace RecordSearch

/-- A value of a declared type. -/
abbrev FieldType.Literal (type : FieldType) : Type :=
  { v : Value // type.holds v = true }

/-- A field name with the type of the field. -/
structure Handle (type : FieldType) where
  name : String
  deriving DecidableEq, Repr

namespace Handle

variable {type : FieldType}

/-- The field equals a value. -/
def eq (h : Handle type) (v : type.Literal) : Predicate Value :=
  .compare h.name .eq (.literal v.val)

/-- The field differs from a value. -/
def ne (h : Handle type) (v : type.Literal) : Predicate Value :=
  .compare h.name .ne (.literal v.val)

/-- The field equals a value settled at compilation. -/
def eqDeferred (h : Handle type) (v : type.Literal) : Predicate Value :=
  .compare h.name .eq (.deferred v.val)

/-- The field differs from a value settled at compilation. -/
def neDeferred (h : Handle type) (v : type.Literal) : Predicate Value :=
  .compare h.name .ne (.deferred v.val)

/-- The field exceeds a value. -/
def gt (h : Handle type) (v : type.Literal) (_ordered : type.isOrdered = true) : Predicate Value :=
  .compare h.name .gt (.literal v.val)

/-- The field is at least a value. -/
def ge (h : Handle type) (v : type.Literal) (_ordered : type.isOrdered = true) : Predicate Value :=
  .compare h.name .ge (.literal v.val)

/-- The field is below a value. -/
def lt (h : Handle type) (v : type.Literal) (_ordered : type.isOrdered = true) : Predicate Value :=
  .compare h.name .lt (.literal v.val)

/-- The field is at most a value. -/
def le (h : Handle type) (v : type.Literal) (_ordered : type.isOrdered = true) : Predicate Value :=
  .compare h.name .le (.literal v.val)

/-- The field exceeds a value settled at compilation. -/
def gtDeferred (h : Handle type) (v : type.Literal) (_ordered : type.isOrdered = true) : Predicate Value :=
  .compare h.name .gt (.deferred v.val)

/-- The field is at least a value settled at compilation. -/
def geDeferred (h : Handle type) (v : type.Literal) (_ordered : type.isOrdered = true) : Predicate Value :=
  .compare h.name .ge (.deferred v.val)

/-- The field is below a value settled at compilation. -/
def ltDeferred (h : Handle type) (v : type.Literal) (_ordered : type.isOrdered = true) : Predicate Value :=
  .compare h.name .lt (.deferred v.val)

/-- The field is at most a value settled at compilation. -/
def leDeferred (h : Handle type) (v : type.Literal) (_ordered : type.isOrdered = true) : Predicate Value :=
  .compare h.name .le (.deferred v.val)

/-- The field contains a text. -/
def contains (h : Handle type) (s : String) (_textual : type.isTextual = true) : Predicate Value :=
  .call h.name .contains (.literal (.text s))

/-- The field starts with a text. -/
def startsWith (h : Handle type) (s : String) (_textual : type.isTextual = true) : Predicate Value :=
  .call h.name .startsWith (.literal (.text s))

/-- The field ends with a text. -/
def endsWith (h : Handle type) (s : String) (_textual : type.isTextual = true) : Predicate Value :=
  .call h.name .endsWith (.literal (.text s))

/-- The field is true. -/
def isTrue (h : Handle .bool) : Predicate Value :=
  .member h.name

/-- The field is not true. -/
def isFalse (h : Handle .bool) : Predicate Value :=
  .neg h.isTrue

end Handle

/-- Comparisons that every type admits. -/
inductive Equality where
  | eq
  | ne
  deriving DecidableEq, Repr

/-- Comparisons that need an order. -/
inductive Inequality where
  | lt
  | le
  | gt
  | ge
  deriving DecidableEq, Repr

/-- Filters that handles and the connectives build, and no others. -/
inductive TypedFilter where
  | equality (type : FieldType) (h : Handle type) (op : Equality) (deferred : Bool) (v : type.Literal)
  | inequality (type : FieldType) (h : Handle type) (op : Inequality) (deferred : Bool)
      (v : type.Literal) (ordered : type.isOrdered = true)
  | method (type : FieldType) (h : Handle type) (m : TextMethod) (s : String)
      (textual : type.isTextual = true)
  | isTrue (h : Handle .bool)
  | isFalse (h : Handle .bool)
  | conj (left right : TypedFilter)
  | disj (left right : TypedFilter)
  | neg (operand : TypedFilter)

/-- The predicate that a typed filter builds. -/
def TypedFilter.predicate : TypedFilter → Predicate Value
  | equality _ h .eq false v => h.eq v
  | equality _ h .ne false v => h.ne v
  | equality _ h .eq true v => h.eqDeferred v
  | equality _ h .ne true v => h.neDeferred v
  | inequality _ h .lt false v ordered => h.lt v ordered
  | inequality _ h .le false v ordered => h.le v ordered
  | inequality _ h .gt false v ordered => h.gt v ordered
  | inequality _ h .ge false v ordered => h.ge v ordered
  | inequality _ h .lt true v ordered => h.ltDeferred v ordered
  | inequality _ h .le true v ordered => h.leDeferred v ordered
  | inequality _ h .gt true v ordered => h.gtDeferred v ordered
  | inequality _ h .ge true v ordered => h.geDeferred v ordered
  | method _ h .contains s textual => h.contains s textual
  | method _ h .startsWith s textual => h.startsWith s textual
  | method _ h .endsWith s textual => h.endsWith s textual
  | isTrue h => h.isTrue
  | isFalse h => h.isFalse
  | conj left right => .conj left.predicate right.predicate
  | disj left right => .disj left.predicate right.predicate
  | neg operand => .neg operand.predicate

end RecordSearch
