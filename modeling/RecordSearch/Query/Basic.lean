import RecordSearch.Clause.Compile

/-!
# Queries

A query collects filters, an order and what to return for one model. Compiled, it is the condition
clauses with the same order and content, ready to be sent. Every compilation settles anew what the filters
defer.

## Main definitions

* `Sorting` — a field and a direction.
* `Query`, `Query.filter`, `Query.sortBy`, `Query.select` — building a query.
* `Query.asOf` — the query that a compilation sees.
* `CompiledQuery`, `CompiledQuery.text` — conditions, and the text that joins them.
* `Query.compile` — conditions in order, then the checks on the sort field and the returned fields.
-/

namespace RecordSearch

/-- Smallest first or largest first. -/
inductive SortDirection where
  | ascending
  | descending
  deriving DecidableEq, Repr, Inhabited

/-- The direction's keyword in a search. -/
def SortDirection.keyword : SortDirection → String
  | ascending => "ASC"
  | descending => "DESC"

/-- The direction's name. -/
def SortDirection.label : SortDirection → String
  | ascending => "Ascending"
  | descending => "Descending"

/-- The field that orders the results. -/
structure Sorting where
  field : String
  direction : SortDirection
  deriving DecidableEq, Repr

/-- The sorting with its fields named. -/
def Sorting.inspect (s : Sorting) : String :=
  inspectRecord "SortField" [("field", quoted s.field), ("direction", s.direction.label)]

/-- What is wanted of one model, with a `δ` for each value that is deferred. -/
structure Query (δ : Type) where
  /-- Conditions that all have to hold. -/
  filters : List (Predicate δ) := []
  sorting? : Option Sorting := none
  /-- Whether fields are wanted along with ids. -/
  withContent : Bool := false
  /-- The fields wanted; none named means all. -/
  returnFields : List String := []
  deriving DecidableEq, Repr, Inhabited

namespace Query

variable {δ : Type}

/-- The query that the compilation of a number sees. -/
def asOf (q : Query Deferral) (k : Nat) : Query Value :=
  { q with filters := q.filters.map (·.asOf k) }

/-- The query with one more condition. -/
def filter (q : Query δ) (p : Predicate δ) : Query δ :=
  { q with filters := q.filters ++ [p] }

/-- The query in an order, in place of any earlier one. -/
def sortBy (q : Query δ) (s : Sorting) : Query δ :=
  { q with sorting? := some s }

/-- The query with fields wanted. -/
def content (q : Query δ) : Query δ :=
  { q with withContent := true }

/-- The query with only the named fields wanted. -/
def select (q : Query δ) (fields : List String) : Query δ :=
  { q with returnFields := fields, withContent := true }

/-- The query with its fields named and its filters as text. -/
def inspect (q : Query δ) : String :=
  let list (items : List String) := "[" ++ ", ".intercalate (items.map quoted) ++ "]"
  let sort := match q.sorting? with
    | none => "None"
    | some s => "Some(" ++ s.inspect ++ ")"
  inspectRecord "Query" [("filters", list (q.filters.map Predicate.render)), ("sort", sort),
    ("with_content", boolText q.withContent), ("return_fields", list q.returnFields)]

end Query

/-- A query in the server's terms, without a page. -/
structure CompiledQuery where
  /-- Clauses that all have to hold. -/
  conditions : List String := []
  sorting? : Option Sorting := none
  withContent : Bool := false
  returnFields : List String := []
  deriving DecidableEq, Repr, Inhabited

/-- A star without conditions, a single condition alone, and several between parentheses. -/
def CompiledQuery.text (q : CompiledQuery) : String :=
  match q.conditions with
  | [] => "*"
  | [single] => single
  | several => "(" ++ " ".intercalate several ++ ")"

/-- The query in the server's terms, over the fields of a descriptor. -/
def Query.compile (q : Query Value) (d : Descriptor) : Except CompileError CompiledQuery := do
  let conditions ← q.filters.mapM (·.compile d)
  if let some s := q.sorting? then d.checkSortField s.field
  q.returnFields.forM d.checkReturnField
  return ⟨conditions, q.sorting?, q.withContent, q.returnFields⟩

end RecordSearch
