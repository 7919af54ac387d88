import RecordSearch.Engine.Search
import RecordSearch.Engine.Synchronizer

/-!
# Engines

An engine answers queries over models: it compiles a query, brings the model's index in step on first
use, and runs the search. Each call compiles its query anew, so it is given the query as that compilation
sees it.

## Main definitions

* `Engine`, `Engine.run` — a configuration with a synchronizer, and acting on a world with it.
* `execute` — one page of a query.
* `queryIds`, `queryFirst`, `queryAny`, `queryCount`, `selectPage`, `selectFirst` — what a query is asked for.
* `ModelRegistry`, `initializeIndexes` — bringing several indexes in step.
-/

namespace RecordSearch

/-- What a query does, which may fail. -/
abbrev QueryM (σ : Type) := ExceptT SearchError (SyncM σ)

/-- An engine between calls. -/
structure Engine where
  config : Config
  synchronizer : Synchronizer := {}
  deriving DecidableEq, Repr, Inhabited

variable {σ : Type}

/-- Let an engine act on a world. -/
def Engine.run {α : Type} (e : Engine) (act : Config → SyncM σ α) : StateM (World σ) (α × Engine) :=
  fun w =>
    let ((result, synchronizer), w) := act e.config e.synchronizer w
    ((result, { e with synchronizer := synchronizer }), w)

/-- The state of a model's index. -/
def indexState (m : Model) (config : Config) : SyncM σ IndexState := do
  let d ← onWorld (describe m)
  return (← get).state (physicalName d.indexName config.scope?)

/-- The definition of a model's index as it was last brought in step. -/
def indexDefinition? (m : Model) (config : Config) : SyncM σ (Option IndexDefinition) := do
  let d ← onWorld (describe m)
  return (← get).definition? (physicalName d.indexName config.scope?)

/-- Bring a model's index in step. -/
def ensureModel [Storage σ] (m : Model) (config : Config) : SyncM σ IndexState := do
  ensureIndex config (← onWorld (describe m))

/-- Forget the states of all indexes. -/
def resetIndexStates : SyncM σ Unit :=
  modify Synchronizer.forgetStates

/-- Models whose indexes are brought in step together; of two models of one name the first counts. -/
structure ModelRegistry where
  models : List Model := []
  deriving DecidableEq, Repr, Inhabited

/-- The registry with one more model, unless its name is taken. -/
def ModelRegistry.register (r : ModelRegistry) (m : Model) : ModelRegistry :=
  if r.models.any (·.name = m.name) then r else ⟨r.models ++ [m]⟩

/-- How many models are registered. -/
def ModelRegistry.size (r : ModelRegistry) : Nat :=
  r.models.length

/-- Bring the indexes of all registered models in step, in the order of registration. -/
def initializeIndexes [Storage σ] (r : ModelRegistry) (config : Config) :
    SyncM σ (List (String × IndexState)) :=
  r.models.mapM fun m => do return (m.name, ← ensureModel m config)

/-- One page of a compiled query; a model without indexed fields has no results. -/
def executeCompiled [Storage σ] (d : Descriptor) (q : CompiledQuery) (page pageSize : UInt64)
    (config : Config) : QueryM σ Page := do
  let state ← ExceptT.lift (ensureIndex config d)
  if state = .notIndexed then return .empty
  let index := physicalName d.indexName config.scope?
  ExceptT.mk (onWorld (runSearch config index (keyStart index) q page pageSize))

/-- One page of a query. -/
def execute [Storage σ] (m : Model) (q : Query Value) (page pageSize : UInt64) (config : Config) :
    QueryM σ Page := do
  let d ← ExceptT.lift (onWorld (describe m))
  match q.compile d with
  | .error e =>
    ExceptT.lift (onWorld (note .predicateRejected))
    throw (.compile e)
  | .ok compiled => executeCompiled d compiled page pageSize config

/-- One page of the records that an optional filter admits, in an optional order. -/
def compileAndExecute [Storage σ] (m : Model) (filter? : Option (Predicate Value)) (sorting? : Option Sorting)
    (page pageSize : UInt64) (config : Config) : QueryM σ Page :=
  execute m { filters := filter?.toList, sorting? := sorting? } page pageSize config

/-- The ids on the first page, of the configured size. -/
def queryIds [Storage σ] (m : Model) (q : Query Value) (config : Config) : QueryM σ (List String) := do
  return (← execute m q 0 config.pageSize config).ids

/-- The id of the first match. -/
def queryFirst [Storage σ] (m : Model) (q : Query Value) (config : Config) : QueryM σ (Option String) := do
  return (← execute m q 0 1 config).ids.head?

/-- Whether anything matches. -/
def queryAny [Storage σ] (m : Model) (q : Query Value) (config : Config) : QueryM σ Bool := do
  return !(← execute m q 0 1 config).ids.isEmpty

/-- How many records match. -/
def queryCount [Storage σ] (m : Model) (q : Query Value) (config : Config) : QueryM σ UInt64 := do
  return (← execute m q 0 1 config).totalCount

/-- Each name where it occurs first. -/
def distinct (names : List String) : List String :=
  names.foldl (fun seen name => if seen.contains name then seen else seen ++ [name]) []

/-- Ids with the fields selected of them, and the counts of their page. -/
structure Selection where
  rows : List (String × Table String)
  totalCount : UInt64
  totalPages : UInt64
  deriving DecidableEq, Repr

/-- Selected fields of the matches on one page. -/
def selectPage [Storage σ] (m : Model) (q : Query Value) (fields : List String) (page pageSize : UInt64)
    (config : Config) : QueryM σ Selection := do
  let found ← execute m (q.select (distinct fields)) page pageSize config
  return ⟨found.ids.zip found.documents, found.totalCount, found.totalPages⟩

/-- Selected fields of the matches on the first page, of the configured size. -/
def selectFirst [Storage σ] (m : Model) (q : Query Value) (fields : List String) (config : Config) :
    QueryM σ (List (String × Table String)) := do
  return (← selectPage m q fields 0 config.pageSize config).rows

end RecordSearch
