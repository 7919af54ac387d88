import RecordSearch.Proofs.Engine.Requests
import RecordSearch.Proofs.Metrics.Series

/-!
# Metrics account for commands

What engines note and what they put to the store are two records of the same work. Whatever is asked of
them, in whatever order, and whatever the store answers, the two records agree: each of them grows by parts
that balance, and what balances in parts balances in sum.

## Main definitions

* `Balanced` — events, commands and refused queries that account for one another.
* `Books` — a world that has come about from another one by balanced work.

## Main results

* `books_perform` — each request is balanced work.
* `Fleet.run_accounts` — so the metrics account for all that engines did.
-/

namespace RecordSearch

/-! ## Events and commands that account for one another -/

namespace Call

/-- Which of the five commands it was. -/
def isOf (kind : Command.Kind) (c : Call) : Bool :=
  c.command.kind = kind

/-- Whether an index was dropped. -/
def isDone : Call → Bool
  | ⟨.dropIndex _, .ok _⟩ => true
  | _ => false

/-- Whether an index could not be dropped, though it was not said to be unknown. -/
def isFailedDrop : Call → Bool
  | ⟨.dropIndex _, .error e⟩ => !e.isUnknownIndex
  | _ => false

end Call

/-- Events, commands and a number of queries refused that account for one another. -/
structure Balanced (events : List Event) (calls : List Call) (refused : Nat) : Prop where
  finished : occurrences (.searchFinished true) events + occurrences (.searchFinished false) events =
    calls.countP (·.isOf .search)
  timed : occurrences .searchTimed events = calls.countP (·.isOf .search)
  returned : occurrences (.resultsReturned 0) events = occurrences (.searchFinished true) events
  rejected : occurrences .predicateRejected events = refused
  checked : calls.countP (·.isOf .readHash) =
    occurrences (.indexOperation .check true) events + calls.countP (·.isOf .dropIndex)
  rebuilt : calls.countP (·.isOf .dropIndex) = calls.countP (·.isOf .createIndex)
  created : calls.countP (·.isOf .createIndex) =
    occurrences (.indexOperation .create true) events +
      occurrences (.indexOperation .create false) events
  dropped : occurrences (.indexOperation .drop true) events = calls.countP (·.isDone)
  undropped : occurrences (.indexOperation .drop false) events = calls.countP (·.isFailedDrop)

namespace Balanced

theorem nil : Balanced [] [] 0 := by
  constructor <;> rfl

/-- What balances in parts balances in sum. -/
theorem append {events later : List Event} {calls more : List Call} {n k : Nat}
    (h : Balanced events calls n) (h' : Balanced later more k) :
    Balanced (events ++ later) (calls ++ more) (n + k) := by
  constructor <;> simp only [occurrences_append, List.countP_append]
  case finished =>
    have := h.finished
    have := h'.finished
    omega
  case checked =>
    have := h.checked
    have := h'.checked
    omega
  case created =>
    have := h.created
    have := h'.created
    omega
  case timed => rw [h.timed, h'.timed]
  case returned => rw [h.returned, h'.returned]
  case rejected => rw [h.rejected, h'.rejected]
  case rebuilt => rw [h.rebuilt, h'.rebuilt]
  case dropped => rw [h.dropped, h'.dropped]
  case undropped => rw [h.undropped, h'.undropped]

/-- A search, whatever it finds. -/
theorem search {arguments : List String} (outcome : Outcome (.search arguments))
    (found : Except StorageError Page) :
    Balanced (searchEvents found) [⟨.search arguments, outcome⟩] 0 := by
  cases found <;> constructor <;> rfl

/-- A query that does not compile. -/
theorem refuse : Balanced [.predicateRejected] [] 1 := by
  constructor <;> rfl

/-- A record that fits. -/
theorem check {key : String} (record : Outcome (.readHash key)) :
    Balanced [.indexOperation .check true] [⟨.readHash key, record⟩] 0 := by
  constructor <;> rfl

/-- A record that does not fit, so the index is dropped and created. -/
theorem rebuild {key index : String} {arguments : List String} (record : Outcome (.readHash key))
    (dropped : Outcome (.dropIndex index)) (created : Outcome (.createIndex arguments))
    (succeeded : Bool) :
    Balanced (dropEvents dropped ++ [.indexOperation .create succeeded])
      [⟨.readHash key, record⟩, ⟨.dropIndex index, dropped⟩, ⟨.createIndex arguments, created⟩] 0 := by
  cases dropped with
  | ok _ => cases succeeded <;> constructor <;> rfl
  | error e =>
    cases he : e.isUnknownIndex <;> cases succeeded <;> constructor
    all_goals
      simp [occurrences, dropEvents, Event.blank, Call.isOf, Call.isDone, Call.isFailedDrop,
        Command.kind, he]

/-- What is written leaves the balance as it is. -/
theorem write {events : List Event} {calls : List Call} {n : Nat} (h : Balanced events calls n)
    {key : String} {fields : List (String × String)} (written : Outcome (.writeHash key fields)) :
    Balanced events (calls ++ [⟨.writeHash key fields, written⟩]) n := by
  have hwrite : Balanced [] [⟨.writeHash key fields, written⟩] 0 := by
    constructor <;> rfl
  have hsum := h.append hwrite
  rwa [List.append_nil] at hsum

end Balanced

/-! ## Worlds that come about by balanced work -/

/-- One world has come about from another by balanced work, in which some queries were refused. -/
def Books {σ : Type} (w w' : World (Recorder σ)) (refused : Nat) : Prop :=
  ∃ events calls, w'.events = w.events ++ events ∧ w'.store.calls = w.store.calls ++ calls ∧
    Balanced events calls refused

section Books

variable {σ : Type} {w w' w'' : World (Recorder σ)}

theorem Books.of_eq (hevents : w'.events = w.events) (hcalls : w'.store.calls = w.store.calls) :
    Books w w' 0 :=
  ⟨[], [], by rw [hevents, List.append_nil], by rw [hcalls, List.append_nil], .nil⟩

theorem Books.trans {n k : Nat} (h : Books w w' n) (h' : Books w' w'' k) :
    Books w w'' (n + k) := by
  obtain ⟨events, calls, hevents, hcalls, hbalanced⟩ := h
  obtain ⟨later, more, hlater, hmore, hbalanced'⟩ := h'
  refine ⟨events ++ later, calls ++ more, ?_, ?_, hbalanced.append hbalanced'⟩
  · rw [hlater, hevents, List.append_assoc]
  · rw [hmore, hcalls, List.append_assoc]

theorem books_describe (m : Model) (w : World (Recorder σ)) : Books w (describe m w).2 0 := by
  unfold describe
  split <;> exact .of_eq rfl rfl

variable [Storage σ]

theorem books_synchronise (config : Config) (index : IndexDefinition) (w : World (Recorder σ)) :
    Books w (synchronise config index w).2 0 := by
  rw [synchronise_apply]
  unfold synchronised
  dsimp only
  -- The record fits, or the index is dropped and created, and if that succeeds a record is written.
  split
  · exact ⟨_, _, rfl, rfl, .check _⟩
  · split <;> unfold Books <;>
      simp only [Recorder.calls_respond, List.append_assoc, List.cons_append, List.nil_append]
    · exact ⟨_, _, rfl, rfl, (Balanced.rebuild _ _ _ true).write _⟩
    · exact ⟨_, _, rfl, rfl, Balanced.rebuild _ _ _ false⟩

theorem books_ensureIndex (config : Config) (d : Descriptor) (s : Synchronizer)
    (w : World (Recorder σ)) : Books w (ensureIndex config d s w).2 0 := by
  cases hstate : (s.state (physicalName d.indexName config.scope?)).isTerminal with
  | true =>
    rw [ensureIndex_of_isTerminal hstate]
    exact .of_eq rfl rfl
  | false =>
    cases hindex : IndexDefinition.ofDescriptor? d config.scope? with
    | none =>
      rw [ensureIndex_of_none hstate hindex]
      exact .of_eq rfl rfl
    | some index =>
      rw [ensureIndex_of_some hstate hindex]
      exact books_synchronise config index w

end Books

/-! ## Refused queries -/

/-- Whether the outcome is that a query was refused. -/
def isRefusal {α : Type} : Except SearchError α → Bool
  | .error (.compile _) => true
  | _ => false

theorem isRefusal_report {α : Type} (policy : FailurePolicy) (index : String) (fallback : α)
    (found : Except StorageError α) : isRefusal (policy.report index fallback found) = false := by
  cases found with
  | ok page => rfl
  | error e => cases policy <;> rfl

theorem isRefusal_map {α β : Type} (x : Except SearchError α) (f : α → β) :
    isRefusal (x.map f) = isRefusal x := by
  rcases x with (_ | _) | _ <;> rfl

section Requests

variable {σ : Type} [Storage σ]

/-- Looking a page up is balanced work, and one query is refused or none. -/
theorem books_find (l : Lookup) (config : Config) (s : Synchronizer) (w : World (Recorder σ)) :
    Books w (l.find config s w).2 (isRefusal (l.find config s w).1.1).toNat := by
  have hdescribe := books_describe l.model w
  have hensure := hdescribe.trans
    (books_ensureIndex config (describe l.model w).1 s (describe l.model w).2)
  rcases l.find_cases config s w with ⟨e, -, h⟩ | ⟨compiled, -, -, h⟩ | ⟨compiled, -, -, h⟩
  · rw [h]
    have hrefuse : Books (describe l.model w).2 { (describe l.model w).2 with
        events := (describe l.model w).2.events ++ [.predicateRejected] } 1 :=
      ⟨[.predicateRejected], [], rfl, (List.append_nil _).symm, .refuse⟩
    exact hdescribe.trans hrefuse
  · rw [h]
    exact hensure
  · rw [h, isRefusal_report]
    exact hensure.trans ⟨_, _, rfl, rfl, .search _ _⟩

theorem books_ensureAll (config : Config) (models : List Model) (s : Synchronizer)
    (w : World (Recorder σ)) : Books w (initializeIndexes ⟨models⟩ config s w).2 0 := by
  induction models generalizing s w with
  | nil => exact .of_eq rfl rfl
  | cons m models ih =>
    have hfirst : Books w (ensureModel m config s w).2 0 := (books_describe m w).trans
      (books_ensureIndex config (describe m w).1 s (describe m w).2)
    rw [initializeIndexes_cons]
    exact hfirst.trans (ih _ _)

/-- Each request is balanced work. -/
theorem books_perform (r : Request) (config : Config) (s : Synchronizer) (w : World (Recorder σ)) :
    Books w (r.perform config s w).2 (isRefusal (r.perform config s w).1.1).toNat := by
  cases hlookup : r.lookup? config.pageSize with
  | some l =>
    rw [r.perform_of_lookup hlookup, isRefusal_map]
    exact books_find l config s w
  | none =>
    cases r with
    | query m q t | filtered m filter? sorting? page pageSize | compiled m q page pageSize =>
      contradiction
    | ensure m =>
      exact (books_describe m w).trans
        (books_ensureIndex config (describe m w).1 s (describe m w).2)
    | ensureAll r => exact books_ensureAll config r.models s w
    | reset => exact .of_eq rfl rfl
    | state m | definition m => exact books_describe m w

/-- A refused query leaves engine and store alone. -/
theorem perform_of_isRefusal {r : Request} {config : Config} {s : Synchronizer}
    {w : World (Recorder σ)} (h : isRefusal (r.perform config s w).1.1 = true) :
    (r.perform config s w).1.2 = s ∧ (r.perform config s w).2.store = w.store := by
  cases hlookup : r.lookup? config.pageSize with
  | some l =>
    rw [r.perform_of_lookup hlookup, isRefusal_map] at h
    rw [r.perform_of_lookup hlookup]
    rcases l.find_cases config s w with ⟨e, -, hfind⟩ | ⟨compiled, -, -, hfind⟩ |
      ⟨compiled, -, -, hfind⟩
    · rw [hfind]
      exact ⟨rfl, describe_store l.model w⟩
    · rw [hfind] at h
      contradiction
    · rw [hfind, isRefusal_report] at h
      contradiction
  | none => cases r <;> contradiction

end Requests

/-! ## Runs -/

namespace Fleet

variable {σ : Type} [Storage σ]

/-- How many queries were refused. -/
def refusals (F : Fleet σ) : Nat :=
  F.exchanges.countP fun x => isRefusal x.answer

/-- All that was noted, all that was put to the store, and the queries refused account for one another. -/
def IsBalanced (F : Fleet σ) : Prop :=
  Balanced F.world.events F.world.store.calls F.refusals

omit [Storage σ] in
theorem isBalanced_start (engines : Nat → Engine) (store : σ) (now : Instant) :
    (start engines store now).IsBalanced := Balanced.nil

theorem IsBalanced.ask {F : Fleet σ} (h : F.IsBalanced) (who : Nat) (r : Request) :
    (F.ask who r).IsBalanced := by
  obtain ⟨events, calls, hevents, hcalls, hbalanced⟩ :=
    books_perform r (F.engines who).config (F.engines who).synchronizer F.world
  have hsum := h.append hbalanced
  have hrefusals : (F.ask who r).refusals = F.refusals +
      (isRefusal (r.perform (F.engines who).config (F.engines who).synchronizer F.world).1.1).toNat := by
    rw [refusals, ask_eq, List.countP_append, List.countP_singleton, ← Bool.cond_eq_ite]
    rfl
  rw [← hevents, ← hcalls, ← hrefusals] at hsum
  exact hsum

/-- A step keeps the balance: engines work balanced, and nobody else is counted. -/
theorem IsBalanced.step {F : Fleet σ} (h : F.IsBalanced) (s : FleetStep σ) :
    (F.step s).IsBalanced := by
  cases s with
  | ask who r => exact h.ask who r
  | others act | setClock now | forget => exact h

theorem IsBalanced.run {F : Fleet σ} (h : F.IsBalanced) (steps : List (FleetStep σ)) :
    (F.run steps).IsBalanced := by
  induction steps generalizing F with
  | nil => exact h
  | cons s steps ih => exact ih (h.step s)

/-- In every run of engines above any store, the metrics account for what the engines put to the store and
for the queries they refused. And at no point does a refused query change an engine, or put anything to
the store. -/
theorem run_accounts (engines : Nat → Engine) (store : σ) (now : Instant)
    (steps : List (FleetStep σ)) :
    let F := (start engines store now).run steps
    let metrics := summarize F.world.events
    let count (kind : Command.Kind) := F.world.store.calls.countP (·.isOf kind)
    (total metrics (.searchFinished true) + total metrics (.searchFinished false) = count .search ∧
      (samples metrics .searchTimed).length = count .search ∧
      (samples metrics (.resultsReturned 0)).length = total metrics (.searchFinished true)) ∧
    (total metrics .predicateRejected = F.exchanges.countP (fun x => isRefusal x.answer) ∧
      ∀ who r, isRefusal (F.answer who r) = true →
        (F.ask who r).world.store = F.world.store ∧ (F.ask who r).engines = F.engines) ∧
    (count .readHash = total metrics (.indexOperation .check true) + count .dropIndex ∧
      count .dropIndex = count .createIndex ∧
      count .createIndex = total metrics (.indexOperation .create true) +
        total metrics (.indexOperation .create false) ∧
      total metrics (.indexOperation .drop true) = F.world.store.calls.countP (·.isDone) ∧
      total metrics (.indexOperation .drop false) =
        F.world.store.calls.countP (·.isFailedDrop)) := by
  intro F metrics count
  have h : F.IsBalanced := (isBalanced_start engines store now).run steps
  simp (disch := decide) only [metrics, total_summarize, length_samples_summarize]
  refine ⟨⟨h.finished, h.timed, h.returned⟩, ⟨h.rejected, ?_⟩,
    h.checked, h.rebuilt, h.created, h.dropped, h.undropped⟩
  intro who r hrefused
  obtain ⟨hsynchronizer, hstore⟩ := perform_of_isRefusal hrefused
  rw [ask_eq]
  refine ⟨hstore, ?_⟩
  dsimp only
  rw [hsynchronizer]
  exact Function.update_eq_self who F.engines

end Fleet

end RecordSearch
