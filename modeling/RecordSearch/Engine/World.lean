import RecordSearch.Calendar.Instant
import RecordSearch.Metrics
import RecordSearch.Schema.Descriptor
import RecordSearch.Storage.Command

/-!
# The world of an engine

What engines share: the store, the clock, the descriptors analysed so far, and the events noted.

## Main definitions

* `World` — the shared state.
* `send` — put a command to the store.
* `note` — note an event.
* `describe` — the descriptor of a model, analysed once for each model name.
-/

namespace RecordSearch

/-- What engines share. -/
structure World (σ : Type) where
  store : σ
  now : Instant
  descriptors : Table Descriptor := .empty
  /-- Oldest first. -/
  events : List Event := []

/-- A model as engines know it: the name that its descriptor is remembered under, and the descriptor that
its schema gives. -/
structure Model where
  name : String
  descriptor : Descriptor
  deriving DecidableEq, Repr

variable {σ : Type}

/-- Put a command to the store. -/
def send [Storage σ] (c : Command) : StateM (World σ) (Outcome c) := fun w =>
  let (outcome, store) := Storage.respond c w.store
  (outcome, { w with store := store })

/-- Note an event. -/
def note (e : Event) : StateM (World σ) Unit :=
  modify fun w => { w with events := w.events ++ [e] }

/-- The descriptor remembered under the model's name, or else its own, which is remembered. -/
def describe (m : Model) : StateM (World σ) Descriptor := fun w =>
  match w.descriptors.get? m.name with
  | some d => (d, w)
  | none => (m.descriptor, { w with descriptors := w.descriptors.insert m.name m.descriptor })

/-- Forget every descriptor. -/
def forgetDescriptors : StateM (World σ) Unit :=
  modify fun w => { w with descriptors := .empty }

end RecordSearch
