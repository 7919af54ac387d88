import RecordSearch.Config
import RecordSearch.Engine.World
import RecordSearch.Index.Definition
import RecordSearch.Index.Metadata

/-!
# Keeping indexes in step

An index is brought in step with a model's definition once: if the fingerprint stored with the data is
the definition's, nothing is done; otherwise the index is dropped and created anew, and the fingerprint
stored. How that ended is remembered, and nothing is asked of the store again until it is forgotten.

## Main definitions

* `IndexState` — how far an index has come.
* `Synchronizer` — the states and definitions of the indexes met so far.
* `ensureIndex` — bring one index in step.
-/

namespace RecordSearch

/-- How far an index has come. -/
inductive IndexState where
  | unknown
  | checked
  | rebuilding
  | upToDate
  /-- The model has no indexed fields. -/
  | notIndexed
  /-- The index could not be created. -/
  | failed
  deriving DecidableEq, Repr, Inhabited

namespace IndexState

/-- The state's name. -/
def label : IndexState → String
  | unknown => "Unknown"
  | checked => "Checked"
  | rebuilding => "Rebuilding"
  | upToDate => "UpToDate"
  | notIndexed => "NotIndexed"
  | failed => "Failed"

/-- Whether nothing more is done about the index. -/
def isTerminal : IndexState → Bool
  | upToDate | notIndexed | failed => true
  | _ => false

end IndexState

/-- The indexes met so far. -/
structure Synchronizer where
  states : Table IndexState := .empty
  definitions : IndexRegistry := .empty
  deriving DecidableEq, Repr, Inhabited

namespace Synchronizer

/-- The state of an index by its name on the server. -/
def state (s : Synchronizer) (index : String) : IndexState :=
  (s.states.get? index).getD .unknown

/-- The definition of an index by its name on the server. -/
def definition? (s : Synchronizer) (index : String) : Option IndexDefinition :=
  s.definitions.get? index

/-- The synchronizer that knows no states; definitions stay. -/
def forgetStates (s : Synchronizer) : Synchronizer :=
  { s with states := .empty }

end Synchronizer

/-- Work on indexes: the synchronizer's state above the world. -/
abbrev SyncM (σ : Type) := StateT Synchronizer (StateM (World σ))

variable {σ : Type}

/-- Work that touches the world only. -/
def onWorld {α : Type} (act : StateM (World σ) α) : SyncM σ α := fun s w =>
  let (result, w) := act w
  ((result, s), w)

/-- Remember the state of an index. -/
def remember (index : String) (state : IndexState) : SyncM σ Unit :=
  modify fun s => { s with states := s.states.insert index state }

/-- The metadata stored for an index; if it cannot be read there is none. -/
def storedMetadata? [Storage σ] (key : String) : StateM (World σ) (Option IndexMetadata) := do
  match ← send (.readHash key) with
  | .ok fields => return IndexMetadata.ofFields? fields
  | .error _ => return none

/-- Drop an index, whatever comes of it. That it was not there is not noted. -/
def dropQuietly [Storage σ] (index : String) : StateM (World σ) Unit := do
  match ← send (.dropIndex index) with
  | .ok _ => note (.indexOperation .drop true)
  | .error e => if e.isUnknownIndex then pure () else note (.indexOperation .drop false)

/-- Create an index; whether that succeeded. -/
def createNoted [Storage σ] (index : IndexDefinition) : StateM (World σ) Bool := do
  match ← send (.createIndex index.createArguments) with
  | .ok _ => note (.indexOperation .create true); return true
  | .error _ => note (.indexOperation .create false); return false

/-- Store that an index now has a fingerprint's shape. It is created now unless it is known since when it
exists. That the record cannot be written is passed over. -/
def storeMetadata [Storage σ] (key fingerprint : String) (createdAt? : Option Instant) :
    StateM (World σ) Unit := do
  let now := (← get).now
  let metadata : IndexMetadata := ⟨fingerprint, some now, some (createdAt?.getD now)⟩
  let _ ← send (.writeHash key metadata.toFields)

/-- Compare an index with its definition, and build it anew unless the two agree. -/
def rebuildIfChanged [Storage σ] (config : Config) (index : IndexDefinition) : SyncM σ IndexState := do
  let key := config.metadataKey index.name
  let stored? ← onWorld (storedMetadata? key)
  remember index.name .checked
  if stored?.map (·.fingerprint) = some index.fingerprint then
    onWorld (note (.indexOperation .check true))
    return .upToDate
  remember index.name .rebuilding
  onWorld (dropQuietly index.name)
  if ← onWorld (createNoted index) then
    onWorld (storeMetadata key index.fingerprint (stored?.bind (·.createdAt?)))
    return .upToDate
  else return .failed

/-- Bring the index of a model in step with its descriptor, unless it is known how that ended. -/
def ensureIndex [Storage σ] (config : Config) (d : Descriptor) : SyncM σ IndexState := do
  let physical := physicalName d.indexName config.scope?
  let current := (← get).state physical
  if current.isTerminal then return current
  match IndexDefinition.ofDescriptor? d config.scope? with
  | none =>
    remember physical .notIndexed
    return .notIndexed
  | some index =>
    modify fun s => { s with definitions := s.definitions.register index }
    let state ← rebuildIfChanged config index
    remember physical state
    return state

end RecordSearch
