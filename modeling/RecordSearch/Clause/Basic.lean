import RecordSearch.Clause.Scalar
import RecordSearch.Text.Escape

/-!
# Query clauses

A clause is the query side of a predicate: leaves that bound or match one field, bare literals, and the
connectives of the query language. Its text is what the search server reads.

## Main definitions

* `Pattern` — a literal with or without wildcards at its ends.
* `Clause` — the tree.
* `Clause.render` — its text.
* `Clause.negated` — negation, which only a clause that mentions a field admits.
-/

namespace RecordSearch

/-- A literal, with a wildcard before it, after it, or both. -/
structure Pattern where
  leading : Bool
  literal : String
  trailing : Bool
  deriving DecidableEq, Repr

/-- A literal without wildcards. -/
def Pattern.exact (literal : String) : Pattern := ⟨false, literal, false⟩

/-- The wildcard where there is one. -/
def wildcard (present : Bool) : String :=
  if present then "*" else ""

/-- The escaped literal between its wildcards. -/
def Pattern.render (p : Pattern) : String :=
  wildcard p.leading ++ escape p.literal ++ wildcard p.trailing

/-- What a leaf demands of its field. -/
inductive Demand where
  /-- A number in a closed range. -/
  | within (low high : Number)
  /-- A word that matches a pattern. -/
  | word (pattern : Pattern)
  /-- A tag that matches a pattern. -/
  | tag (pattern : Pattern)
  deriving DecidableEq, Repr

/-- The demand as it stands behind the field's name. -/
def Demand.render : Demand → String
  | within low high => "[" ++ low.render ++ " " ++ high.render ++ "]"
  | word pattern => pattern.render
  | tag pattern => "\x7b" ++ pattern.render ++ "\x7d"

/-- A query. -/
inductive Clause where
  | field (negated : Bool) (name : String) (demand : Demand)
  /-- Looked for in all text. -/
  | literal (text : String)
  | conj (left right : Clause)
  | disj (left right : Clause)
  | neg (operand : Clause)
  deriving DecidableEq, Repr

namespace Clause

/-- The text of a query. -/
def render : Clause → String
  | field negated name demand =>
    (if negated then "-" else "") ++ "@" ++ name ++ ":" ++ demand.render
  | literal text => escape text
  | conj left right => "(" ++ left.render ++ " " ++ right.render ++ ")"
  | disj left right => "(" ++ left.render ++ " | " ++ right.render ++ ")"
  | neg operand => "-(" ++ operand.render ++ ")"

/-- The negation of a clause whose text mentions a field; any other clause stays as it is. -/
def negated (c : Clause) : Clause :=
  if hasFieldMarker c.render then .neg c else c

end Clause

end RecordSearch
