import RecordSearch.Table

/-!
# Metrics

The engine notes what happens as events; exporters see them as counters and as series of samples.

## Main definitions

* `Event` — what is noted.
* `Event.series` — the counter or series that an event belongs to, labels included.
* `summarize` — totals of counters and samples of series, by name.
-/

namespace RecordSearch

/-- What is done to an index. -/
inductive IndexOperation where
  | check
  | drop
  | create
  deriving DecidableEq, Repr

/-- The operation's label. -/
def IndexOperation.label : IndexOperation → String
  | check => "check"
  | drop => "drop"
  | create => "create"

/-- What the engine notes. -/
inductive Event where
  /-- How long a search took was measured. -/
  | searchTimed
  | searchFinished (succeeded : Bool)
  | resultsReturned (count : Nat)
  | indexOperation (operation : IndexOperation) (succeeded : Bool)
  | predicateRejected
  deriving DecidableEq, Repr

namespace Event

/-- The label of an outcome. -/
def status (succeeded : Bool) : String :=
  if succeeded then "success" else "error"

/-- The name of the counter or series that the event belongs to, with its labels. -/
def series : Event → String
  | searchTimed => "hashmodel_search_seconds"
  | searchFinished succeeded => "hashmodel_search_queries_total,status=" ++ status succeeded
  | resultsReturned _ => "hashmodel_search_results"
  | indexOperation operation succeeded =>
    "hashmodel_index_operations_total,operation=" ++ operation.label ++ ",status=" ++ status succeeded
  | predicateRejected => "hashmodel_compile_errors_total"

/-- The sample that the event adds to a series, if it is not a counter's. Times are not kept. -/
def sample? : Event → Option Nat
  | searchTimed => some 0
  | resultsReturned count => some count
  | _ => none

/-- The totals and samples with one more event. -/
def addTo (t : Table (List Nat)) (e : Event) : Table (List Nat) :=
  let earlier := (t.get? e.series).getD []
  t.insert e.series (match e.sample? with
    | some n => earlier ++ [n]
    | none => [earlier.foldl (· + ·) 0 + 1])

end Event

/-- The total of each counter and the samples of each series. -/
def summarize (events : List Event) : Table (List Nat) :=
  events.foldl Event.addTo .empty

end RecordSearch
