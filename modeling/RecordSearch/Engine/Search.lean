import RecordSearch.Config
import RecordSearch.Engine.World
import RecordSearch.Query.Page

/-!
# Running a search

A compiled query is sent, its reply read, and the outcome noted. What a failure comes to is the
configuration's choice.

## Main definitions

* `SearchError` — why a query yields no page.
* `runSearch` — one page of a compiled query.
-/

namespace RecordSearch

/-- Why a query yields no page. -/
inductive SearchError where
  | compile (cause : CompileError)
  | queryFailed (index : String) (cause : StorageError)
  deriving DecidableEq, Repr

/-- The failure in words. -/
def SearchError.message : SearchError → String
  | compile cause => "Invalid predicate: " ++ cause.message
  | queryFailed index cause => "Search on '" ++ index ++ "' failed: " ++ cause.message

variable {σ : Type}

/-- The page of a search, or why there is none. -/
def fetchPage [Storage σ] (config : Config) (index start : String) (q : CompiledQuery)
    (page pageSize : UInt64) : StateM (World σ) (Except StorageError Page) := do
  let outcome ← send (.search (searchArguments index q page pageSize config.dialect))
  note .searchTimed
  match outcome with
  | .ok reply => return Page.ofReply reply start pageSize q.withContent
  | .error e => return .error e

/-- One page of a compiled query on an index whose keys start with `start`. -/
def runSearch [Storage σ] (config : Config) (index start : String) (q : CompiledQuery)
    (page pageSize : UInt64) : StateM (World σ) (Except SearchError Page) := do
  match ← fetchPage config index start q page pageSize with
  | .ok found =>
    note (.searchFinished true)
    note (.resultsReturned found.ids.length)
    return .ok found
  | .error e =>
    note (.searchFinished false)
    match config.onFailure with
    | .empty => return .ok .empty
    | .propagate => return .error (.queryFailed index e)

end RecordSearch
