import Mathlib.Logic.Function.Basic
import RecordSearch.Proofs.Engine.Execution

/-!
# Requests to engines

All that engines can be asked for, and engines that are asked in any order. They share a world, whose store
records what they put to it; between two requests others may act on the store, time passes, and
descriptors may be forgotten.

## Main definitions

* `Terminal` — what a query can be asked for.
* `Request`, `Request.perform` — what an engine can be asked for, and how it goes about it.
* `Recorder` — a store that records every command with its outcome.
* `Fleet`, `Fleet.run` — engines over one world, and what happens to them.

## Main results

* `Request.perform_of_lookup` — a request for anything of a page is a lookup, and a view of its page.
-/

namespace RecordSearch

/-! ## Answers -/

/-- What an engine answers with. -/
inductive Answer where
  | page (found : Page)
  | ids (ids : List String)
  | first (id? : Option String)
  | any (found : Bool)
  | count (total : UInt64)
  | rows (rows : List (String × Table String))
  | selection (selected : Selection)
  | state (state : IndexState)
  | states (states : List (String × IndexState))
  | definition (index? : Option IndexDefinition)
  | done
  deriving DecidableEq

/-- What a query can be asked for. -/
inductive Terminal where
  | page (page pageSize : UInt64)
  | ids
  | first
  | any
  | count
  | rows (fields : List String)
  | selection (fields : List String) (page pageSize : UInt64)
  deriving DecidableEq

namespace Terminal

/-- Ask a query. -/
def perform {σ : Type} [Storage σ] (m : Model) (q : Query Value) (config : Config) :
    Terminal → QueryM σ Answer
  | .page n size => return .page (← execute m q n size config)
  | .ids => return .ids (← queryIds m q config)
  | .first => return .first (← queryFirst m q config)
  | .any => return .any (← queryAny m q config)
  | .count => return .count (← queryCount m q config)
  | .rows fields => return .rows (← selectFirst m q fields config)
  | .selection fields n size => return .selection (← selectPage m q fields n size config)

/-- The page that a query is asked for to this end. -/
def lookup (m : Model) (q : Query Value) (defaultSize : UInt64) : Terminal → Lookup
  | .page n size => ⟨m, q.compile, n, size⟩
  | .ids => ⟨m, q.compile, 0, defaultSize⟩
  | .first | .any | .count => ⟨m, q.compile, 0, 1⟩
  | .rows fields => ⟨m, (q.select (distinct fields)).compile, 0, defaultSize⟩
  | .selection fields n size => ⟨m, (q.select (distinct fields)).compile, n, size⟩

/-- What is answered of the page. -/
def view : Terminal → Page → Answer
  | .page .., found => .page found
  | .ids, found => .ids found.ids
  | .first, found => .first found.ids.head?
  | .any, found => .any !found.ids.isEmpty
  | .count, found => .count found.totalCount
  | .rows _, found => .rows (found.ids.zip found.documents)
  | .selection .., found =>
    .selection ⟨found.ids.zip found.documents, found.totalCount, found.totalPages⟩

end Terminal

/-! ## Requests -/

/-- What an engine can be asked for; a query comes as the compilation that answers it sees it. -/
inductive Request where
  | query (m : Model) (q : Query Value) (t : Terminal)
  | filtered (m : Model) (filter? : Option (Predicate Value)) (sorting? : Option Sorting)
    (page pageSize : UInt64)
  | compiled (m : Model) (q : CompiledQuery) (page pageSize : UInt64)
  | ensure (m : Model)
  | ensureAll (r : ModelRegistry)
  | reset
  | state (m : Model)
  | definition (m : Model)

namespace Request

/-- Do what is asked for. -/
def perform {σ : Type} [Storage σ] (config : Config) : Request → QueryM σ Answer
  | .query m q t => t.perform m q config
  | .filtered m filter? sorting? page pageSize =>
    return .page (← compileAndExecute m filter? sorting? page pageSize config)
  | .compiled m q page pageSize => do
    let d ← ExceptT.lift (onWorld (describe m))
    return .page (← executeCompiled d q page pageSize config)
  | .ensure m => return .state (← ExceptT.lift (ensureModel m config))
  | .ensureAll r => return .states (← ExceptT.lift (initializeIndexes r config))
  | .reset => do
    ExceptT.lift resetIndexStates
    return .done
  | .state m => return .state (← ExceptT.lift (indexState m config))
  | .definition m => return .definition (← ExceptT.lift (indexDefinition? m config))

/-- The page that is asked for, if it takes one. -/
def lookup? (defaultSize : UInt64) : Request → Option Lookup
  | .query m q t => some (t.lookup m q defaultSize)
  | .filtered m filter? sorting? page pageSize =>
    some ⟨m, Query.compile { filters := filter?.toList, sorting? := sorting? }, page, pageSize⟩
  | .compiled m q page pageSize => some ⟨m, fun _ => .ok q, page, pageSize⟩
  | _ => none

/-- What is answered of the page. -/
def view : Request → Page → Answer
  | .query _ _ t => t.view
  | _ => .page

end Request

/-! ## Lookups behind requests -/

section Lookups

variable {σ α β : Type}

theorem QueryM.map_apply (x : QueryM σ α) (f : α → β) (s : Synchronizer) (w : World σ) :
    (do return f (← x) : QueryM σ β) s w =
      (((x s w).1.1.map f, (x s w).1.2), (x s w).2) := by
  rcases hx : x s w with ⟨⟨_ | _, s'⟩, w'⟩
  all_goals
    change (ExceptT.bindCont _ (x s w).1.1 : SyncM σ _) (x s w).1.2 (x s w).2 = _
    rw [hx]
    rfl

variable [Storage σ] {config : Config}

theorem Terminal.perform_eq (t : Terminal) (m : Model) (q : Query Value) :
    (t.perform m q config : QueryM σ Answer) = do
      return t.view (← (t.lookup m q config.pageSize).find config) := by
  cases t with
  | page n size => rfl
  | ids | first | any | count | rows fields | selection fields n size =>
    simp only [perform, queryIds, queryFirst, queryAny, queryCount, selectFirst, selectPage,
      bind_assoc, pure_bind]
    rfl

/-- A request for anything of a page is a lookup, and a view of its page. -/
theorem Request.perform_of_lookup {r : Request} {l : Lookup}
    (h : r.lookup? config.pageSize = some l) (s : Synchronizer) (w : World σ) :
    r.perform config s w =
      (((l.find config s w).1.1.map r.view, (l.find config s w).1.2), (l.find config s w).2) := by
  cases r with
  | query m q t =>
    obtain rfl := Option.some.inj h
    exact (congrFun (congrFun (t.perform_eq m q) s) w).trans (QueryM.map_apply _ _ _ _)
  | filtered m filter? sorting? page pageSize =>
    obtain rfl := Option.some.inj h
    exact QueryM.map_apply _ _ _ _
  | compiled m q page pageSize =>
    obtain rfl := Option.some.inj h
    rw [perform, QueryM.bind_of_ok (a := (describe m w).1) rfl, Lookup.find_of_ok rfl]
    exact QueryM.map_apply _ _ _ _
  | ensure m | ensureAll r | reset | state m | definition m => contradiction

end Lookups

/-! ## Engines over one world -/

/-- A command put to a store, and what came of it. -/
structure Call where
  command : Command
  outcome : Outcome command

/-- A store that records what is put to it. -/
structure Recorder (σ : Type) where
  store : σ
  /-- Oldest first. -/
  calls : List Call := []

instance {σ : Type} [Storage σ] : Storage (Recorder σ) where
  respond c := fun r =>
    let (outcome, store) := Storage.respond c r.store
    (outcome, ⟨store, r.calls ++ [⟨c, outcome⟩]⟩)

theorem Recorder.calls_respond {σ : Type} [Storage σ] (c : Command) (r : Recorder σ) :
    (Storage.respond c r).2.calls = r.calls ++ [⟨c, (Storage.respond c r).1⟩] := rfl

/-- A request to an engine, and its answer. -/
structure Exchange where
  who : Nat
  request : Request
  answer : Except SearchError Answer

/-- Engines over one world, and what they have been asked so far. -/
structure Fleet (σ : Type) where
  engines : Nat → Engine
  world : World (Recorder σ)
  /-- Oldest first. -/
  exchanges : List Exchange := []

/-- What can happen to engines over one world. -/
inductive FleetStep (σ : Type) where
  | ask (who : Nat) (r : Request)
  /-- Others act on the store. -/
  | others (act : σ → σ)
  | setClock (now : Instant)
  | forget

namespace Fleet

variable {σ : Type}

/-- Engines above a store, with nothing asked so far. -/
def start (engines : Nat → Engine) (store : σ) (now : Instant) : Fleet σ where
  engines := engines
  world := { store := { store := store }, now := now }

/-- What an engine does about a request. -/
def respond [Storage σ] (F : Fleet σ) (who : Nat) (r : Request) :
    (Except SearchError Answer × Engine) × World (Recorder σ) :=
  (F.engines who).run (fun config => (r.perform config).run) F.world

/-- What an engine answers. -/
def answer [Storage σ] (F : Fleet σ) (who : Nat) (r : Request) : Except SearchError Answer :=
  (F.respond who r).1.1

/-- Ask one engine. -/
def ask [Storage σ] (F : Fleet σ) (who : Nat) (r : Request) : Fleet σ :=
  let ((answer, engine), world) := F.respond who r
  ⟨Function.update F.engines who engine, world, F.exchanges ++ [⟨who, r, answer⟩]⟩

/-- What a step does. -/
def step [Storage σ] (F : Fleet σ) : FleetStep σ → Fleet σ
  | .ask who r => F.ask who r
  | .others act =>
    { F with world := { F.world with store := { F.world.store with store := act F.world.store.store } } }
  | .setClock now => { F with world := { F.world with now := now } }
  | .forget => { F with world := (forgetDescriptors F.world).2 }

/-- What several steps do. -/
def run [Storage σ] (F : Fleet σ) (steps : List (FleetStep σ)) : Fleet σ :=
  steps.foldl step F

theorem ask_eq [Storage σ] (F : Fleet σ) (who : Nat) (r : Request) :
    let e := F.engines who
    let outcome := r.perform e.config e.synchronizer F.world
    F.ask who r = ⟨Function.update F.engines who ⟨e.config, outcome.1.2⟩, outcome.2,
      F.exchanges ++ [⟨who, r, outcome.1.1⟩]⟩ := rfl

end Fleet

end RecordSearch
