import RecordSearch.Engine.Basic
import RecordSearch.Proofs.Engine.Synchronizer

/-!
# What running a query does

Every page that an engine is asked for, of a query or of a compiled one, is found the same way: the model
is described, the query compiled, the index brought in step and searched. Each stage may be the last one.
The policy for failures has its say at the very end, once all is sent and noted.

## Main definitions

* `Lookup`, `Lookup.find` — a request for a page, and how it is found.
* `FailurePolicy.report` — what the outcome of a search comes to.
* `searchEvents` — what is noted of a search.

## Main results

* `runSearch_apply` — what a search sends, what is noted of it, and how it ends.
* `Lookup.find_of_error`, `Lookup.find_of_notIndexed`, `Lookup.find_of_indexed` — the three ways to go.
* `Lookup.find_cases` — everything that looking a page up can come to, over any store.
-/

namespace RecordSearch

variable {σ α β : Type}

/-! ## Searches -/

/-- The page in the answer to a search, or why there is none. -/
def pageIn (start : String) (pageSize : UInt64) (withContent : Bool) :
    Except StorageError Reply → Except StorageError Page
  | .ok reply => Page.ofReply reply start pageSize withContent
  | .error e => .error e

/-- What the outcome of a search in an index comes to. -/
def FailurePolicy.report (policy : FailurePolicy) (index : String) (fallback : α) :
    Except StorageError α → Except SearchError α
  | .ok found => .ok found
  | .error e =>
    match policy with
    | .empty => .ok fallback
    | .propagate => .error (.queryFailed index e)

/-- What is noted of a search. -/
def searchEvents : Except StorageError Page → List Event
  | .ok found => [.searchTimed, .searchFinished true, .resultsReturned found.ids.length]
  | .error _ => [.searchTimed, .searchFinished false]

theorem fetchPage_apply [Storage σ] (config : Config) (index start : String) (q : CompiledQuery)
    (page pageSize : UInt64) (w : World σ) :
    let sent := Storage.respond (.search (searchArguments index q page pageSize config.dialect)) w.store
    fetchPage config index start q page pageSize w =
      (pageIn start pageSize q.withContent sent.1,
        { w with store := sent.2, events := w.events ++ [.searchTimed] }) := by
  unfold fetchPage
  rw [StateM.bind_apply, send_apply]
  rcases Storage.respond (.search (searchArguments index q page pageSize config.dialect)) w.store
    with ⟨_ | _, _⟩ <;> rfl

/-- What a search sends, what is noted of it, and how it ends. -/
theorem runSearch_apply [Storage σ] (config : Config) (index start : String) (q : CompiledQuery)
    (page pageSize : UInt64) (w : World σ) :
    let sent := Storage.respond (.search (searchArguments index q page pageSize config.dialect)) w.store
    let found := pageIn start pageSize q.withContent sent.1
    runSearch config index start q page pageSize w =
      (config.onFailure.report index .empty found,
        { w with store := sent.2, events := w.events ++ searchEvents found }) := by
  intro sent found
  unfold runSearch
  rw [StateM.bind_apply, fetchPage_apply]
  change (match found with
    | .ok page => _
    | .error e => _ : StateM (World σ) (Except SearchError Page)) _ = _
  cases found with
  | ok page =>
    have hevents : w.events ++ searchEvents (.ok page) = w.events ++ [.searchTimed] ++
        [.searchFinished true] ++ [.resultsReturned page.ids.length] := by
      simp [searchEvents]
    rw [hevents]
    rfl
  | error e =>
    have hevents : w.events ++ searchEvents (.error e) = w.events ++ [.searchTimed] ++
        [.searchFinished false] := by
      simp [searchEvents]
    rw [hevents]
    cases hpolicy : config.onFailure <;> rfl

/-! ## Queries -/

theorem QueryM.bind_of_ok {x : QueryM σ α} {f : α → QueryM σ β} {s : Synchronizer} {w : World σ}
    {a : α} (h : (x s w).1.1 = .ok a) : (x >>= f) s w = f a (x s w).1.2 (x s w).2 := by
  rcases hx : x s w with ⟨⟨result, s'⟩, w'⟩
  rw [hx] at h
  obtain rfl : result = .ok a := h
  change (ExceptT.bindCont f (x s w).1.1 : SyncM σ _) (x s w).1.2 (x s w).2 = _
  rw [hx]
  rfl

/-- A model's descriptor is analysed once, and found again as long as descriptors are kept. -/
theorem describe_of_descriptors_eq {m : Model} {w w' : World σ}
    (h : w'.descriptors = (describe m w).2.descriptors) : describe m w' = ((describe m w).1, w') := by
  unfold describe at h ⊢
  cases hknown : w.descriptors.get? m.name with
  | some d =>
    rw [hknown] at h
    rw [h, hknown]
  | none =>
    rw [hknown] at h
    rw [h, Table.get?_insert_self]

theorem describe_store (m : Model) (w : World σ) : (describe m w).2.store = w.store := by
  unfold describe
  split <;> rfl

/-- A compiled query is one search in the world in step, unless the model has no indexed fields. -/
theorem executeCompiled_apply [Storage σ] (d : Descriptor) (q : CompiledQuery)
    (page pageSize : UInt64) (config : Config) (s : Synchronizer) (w : World σ) :
    let step := ensureIndex config d s w
    let index := physicalName d.indexName config.scope?
    let outcome := runSearch config index (keyStart index) q page pageSize step.2
    executeCompiled d q page pageSize config s w =
      if step.1.1 = .notIndexed then ((.ok .empty, step.1.2), step.2)
      else ((outcome.1, step.1.2), outcome.2) := by
  intro step index outcome
  unfold executeCompiled
  rw [QueryM.bind_of_ok rfl]
  change (if step.1.1 = .notIndexed then _ else _ : QueryM σ Page) step.1.2 step.2 = _
  split <;> rfl

/-! ## What work depends on -/

/-- Work that depends on the store and the time alone, however descriptors are remembered and whatever was
noted before. Of a world it changes the store, and it notes events behind those before. -/
def IsLocal (x : Synchronizer → World σ → (α × Synchronizer) × World σ) : Prop :=
  ∀ s store now, ∃ outcome store' events, ∀ descriptors earlier,
    x s ⟨store, now, descriptors, earlier⟩ =
      (outcome, ⟨store', now, descriptors, earlier ++ events⟩)

section Local

variable [Storage σ]

theorem isLocal_ensureIndex (config : Config) (d : Descriptor) :
    IsLocal (ensureIndex config d : SyncM σ IndexState) := by
  intro s store now
  have hnothing (descriptors : Table Descriptor) (earlier : List Event) :
      (⟨store, now, descriptors, earlier⟩ : World σ) = ⟨store, now, descriptors, earlier ++ []⟩ := by
    rw [List.append_nil]
  cases hstate : (s.state (physicalName d.indexName config.scope?)).isTerminal with
  | true =>
    exact ⟨_, _, [], fun _ _ => (ensureIndex_of_isTerminal hstate _).trans
      (congrArg _ (hnothing _ _))⟩
  | false =>
    cases hindex : IndexDefinition.ofDescriptor? d config.scope? with
    | none =>
      exact ⟨_, _, [], fun _ _ => (ensureIndex_of_none hstate hindex _).trans
        (congrArg _ (hnothing _ _))⟩
    | some index =>
      let step := synchronised config index store now
      refine ⟨(step.1, s.settle index step.1), step.2.1, step.2.2, fun descriptors earlier => ?_⟩
      rw [ensureIndex_of_some hstate hindex, synchronise_apply]

theorem isLocal_executeCompiled (config : Config) (d : Descriptor) (q : CompiledQuery)
    (page pageSize : UInt64) :
    IsLocal (executeCompiled d q page pageSize config : QueryM σ Page) := by
  intro s store now
  obtain ⟨outcome, store', events, hstep⟩ := isLocal_ensureIndex config d s store now
  by_cases hstate : outcome.1 = .notIndexed
  · refine ⟨(.ok .empty, outcome.2), store', events, fun descriptors earlier => ?_⟩
    rw [executeCompiled_apply, hstep, if_pos hstate]
  · let index := physicalName d.indexName config.scope?
    let sent := Storage.respond (.search (searchArguments index q page pageSize config.dialect)) store'
    let found := pageIn (keyStart index) pageSize q.withContent sent.1
    refine ⟨(config.onFailure.report index .empty found, outcome.2), sent.2, events ++ searchEvents found,
      fun descriptors earlier => ?_⟩
    rw [executeCompiled_apply, hstep, if_neg hstate, runSearch_apply, ← List.append_assoc]

end Local

/-- A page asked for, of something to be compiled for a model. -/
structure Lookup where
  model : Model
  compile : Descriptor → Except CompileError CompiledQuery
  page : UInt64
  pageSize : UInt64

namespace Lookup

/-- Find the page. -/
def find [Storage σ] (l : Lookup) (config : Config) : QueryM σ Page := do
  let d ← ExceptT.lift (onWorld (describe l.model))
  match l.compile d with
  | .error e =>
    ExceptT.lift (onWorld (note .predicateRejected))
    throw (.compile e)
  | .ok compiled => executeCompiled d compiled l.page l.pageSize config

variable [Storage σ] {l : Lookup} {config : Config} {s : Synchronizer} {w : World σ}

/-- What does not compile is noted, and nothing else is done about it. -/
theorem find_of_error {e : CompileError} (h : l.compile (describe l.model w).1 = .error e) :
    l.find config s w =
      ((.error (.compile e), s), { (describe l.model w).2 with
        events := (describe l.model w).2.events ++ [.predicateRejected] }) := by
  unfold find
  rw [QueryM.bind_of_ok (a := (describe l.model w).1) rfl, h]
  rfl

theorem find_of_ok {compiled : CompiledQuery}
    (h : l.compile (describe l.model w).1 = .ok compiled) :
    l.find config s w =
      executeCompiled (describe l.model w).1 compiled l.page l.pageSize config s
        (describe l.model w).2 := by
  unfold find
  rw [QueryM.bind_of_ok (a := (describe l.model w).1) rfl, h]
  rfl

/-- A model without indexed fields has no results. -/
theorem find_of_notIndexed {compiled : CompiledQuery}
    (h : l.compile (describe l.model w).1 = .ok compiled)
    (hstate : (ensureIndex config (describe l.model w).1 s (describe l.model w).2).1.1 = .notIndexed) :
    let step := ensureIndex config (describe l.model w).1 s (describe l.model w).2
    l.find config s w = ((.ok .empty, step.1.2), step.2) := by
  intro step
  rw [find_of_ok h, executeCompiled_apply, if_pos hstate]

/-- What compiles is one search in the world in step, unless the model has no indexed fields. -/
theorem find_of_indexed {compiled : CompiledQuery}
    (h : l.compile (describe l.model w).1 = .ok compiled)
    (hstate : (ensureIndex config (describe l.model w).1 s (describe l.model w).2).1.1 ≠ .notIndexed) :
    let step := ensureIndex config (describe l.model w).1 s (describe l.model w).2
    let index := physicalName (describe l.model w).1.indexName config.scope?
    let outcome := runSearch config index (keyStart index) compiled l.page l.pageSize step.2
    l.find config s w = ((outcome.1, step.1.2), outcome.2) := by
  intro step index outcome
  rw [find_of_ok h, executeCompiled_apply, if_neg hstate]

/-- Everything that looking a page up can come to: the query is refused; the model has no indexed fields; or
the index is searched, and the policy says what becomes of a failure. -/
theorem find_cases (l : Lookup) (config : Config) (s : Synchronizer) (w : World σ) :
    let d := (describe l.model w).1
    let described := (describe l.model w).2
    let step := ensureIndex config d s described
    let index := physicalName d.indexName config.scope?
    (∃ e, l.compile d = .error e ∧ l.find config s w =
      ((.error (.compile e), s),
        { described with events := described.events ++ [.predicateRejected] })) ∨
    (∃ compiled, l.compile d = .ok compiled ∧ step.1.1 = .notIndexed ∧
      l.find config s w = ((.ok .empty, step.1.2), step.2)) ∨
    (∃ compiled, l.compile d = .ok compiled ∧ step.1.1 ≠ .notIndexed ∧
      let sent := Storage.respond
        (.search (searchArguments index compiled l.page l.pageSize config.dialect)) step.2.store
      let found := pageIn (keyStart index) l.pageSize compiled.withContent sent.1
      l.find config s w = ((config.onFailure.report index .empty found, step.1.2),
        { step.2 with store := sent.2, events := step.2.events ++ searchEvents found })) := by
  intro d described step index
  cases hcompile : l.compile d with
  | error e => exact .inl ⟨e, rfl, find_of_error hcompile⟩
  | ok compiled =>
    by_cases hstate : step.1.1 = .notIndexed
    · exact .inr (.inl ⟨compiled, rfl, hstate, find_of_notIndexed hcompile hstate⟩)
    · refine .inr (.inr ⟨compiled, rfl, hstate, ?_⟩)
      intro sent found
      rw [find_of_indexed hcompile hstate, runSearch_apply]

end Lookup

/-- A page of a query is found like any other. -/
theorem execute_eq_find [Storage σ] (m : Model) (q : Query Value) (page pageSize : UInt64)
    (config : Config) :
    (execute m q page pageSize config : QueryM σ Page) =
      Lookup.find ⟨m, q.compile, page, pageSize⟩ config := rfl

/-- The first model is brought in step before the others. -/
theorem initializeIndexes_cons [Storage σ] (m : Model) (models : List Model) (config : Config)
    (s : Synchronizer) (w : World σ) :
    let first := ensureModel m config s w
    let rest := initializeIndexes ⟨models⟩ config first.1.2 first.2
    initializeIndexes ⟨m :: models⟩ config s w =
      (((m.name, first.1.1) :: rest.1.1, rest.1.2), rest.2) := by
  intro first rest
  rw [initializeIndexes, List.mapM_cons]
  rfl

end RecordSearch
