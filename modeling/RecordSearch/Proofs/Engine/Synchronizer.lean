import RecordSearch.Engine.Synchronizer

/-!
# What bringing an index in step does

A synchronizer remembers states while it works, but only the last of them stays, and none of them decides
what is sent. So what happens to the world is said without the synchronizer, and what happens to the
synchronizer by how that ended.

## Main definitions

* `synchronise` — what is sent and noted for one index, and how it ends.
* `synchronised` — what that comes to, as a function of the store and the time.
* `IndexMetadata.renewed` — the record that is written in the end.
* `Synchronizer.settle` — a definition and its final state taken up.

## Main results

* `synchronise_cases` — everything that bringing an index in step can come to, over any store.
* `rebuildIfChanged_eq` — the work with the synchronizer is the work without it.
* `ensureIndex_of_isTerminal`, `ensureIndex_of_none`, `ensureIndex_of_some` — the three ways to go.
-/

namespace RecordSearch

theorem Table.insert_insert {α : Type} (t : Table α) (key : String) (a b : α) :
    (t.insert key a).insert key b = t.insert key b := by
  apply Table.ext_get?
  intro other
  rw [get?_insert, get?_insert, get?_insert]
  split <;> rfl

variable {σ : Type} [Storage σ]

/-- Compare the stored fingerprint with a definition's, and build the index anew unless they agree. -/
def synchronise (config : Config) (index : IndexDefinition) : StateM (World σ) IndexState := do
  let key := config.metadataKey index.name
  let stored? ← storedMetadata? key
  if stored?.map (·.fingerprint) = some index.fingerprint then
    note (.indexOperation .check true)
    return .upToDate
  dropQuietly index.name
  if ← createNoted index then
    storeMetadata key index.fingerprint (stored?.bind (·.createdAt?))
    return .upToDate
  else return .failed

namespace Synchronizer

/-- A state of an index remembered. -/
def remembering (s : Synchronizer) (index : String) (state : IndexState) : Synchronizer :=
  { s with states := s.states.insert index state }

/-- A definition taken up, and the state that its index has come to. -/
def settle (s : Synchronizer) (index : IndexDefinition) (state : IndexState) : Synchronizer :=
  remembering { s with definitions := s.definitions.register index } index.name state

theorem remembering_remembering (s : Synchronizer) (index : String) (a b : IndexState) :
    (s.remembering index a).remembering index b = s.remembering index b := by
  simp only [remembering, Table.insert_insert]

theorem state_remembering (s : Synchronizer) (index other : String) (state : IndexState) :
    (s.remembering index state).state other = if index = other then state else s.state other := by
  rw [Synchronizer.state, remembering, Table.get?_insert]
  split <;> rfl

theorem state_settle (s : Synchronizer) (index : IndexDefinition) (other : String)
    (state : IndexState) :
    (s.settle index state).state other = if index.name = other then state else s.state other :=
  state_remembering _ _ _ _

end Synchronizer

/-! ## Work step by step -/

section Steps

variable {α β : Type}

omit [Storage σ] in
theorem StateM.bind_apply {τ : Type} (x : StateM τ α) (f : α → StateM τ β) (w : τ) :
    (x >>= f) w = f (x w).1 (x w).2 := rfl

omit [Storage σ] in
theorem SyncM.bind_apply (x : SyncM σ α) (f : α → SyncM σ β) (s : Synchronizer) (w : World σ) :
    (x >>= f) s w = f (x s w).1.1 (x s w).1.2 (x s w).2 := rfl

omit [Storage σ] in
theorem onWorld_apply (act : StateM (World σ) α) (s : Synchronizer) (w : World σ) :
    onWorld act s w = (((act w).1, s), (act w).2) := rfl

omit [Storage σ] in
theorem remember_apply (index : String) (state : IndexState) (s : Synchronizer) (w : World σ) :
    remember index state s w = (((), s.remembering index state), w) := rfl

end Steps

/-! ## What the store is asked -/

/-- The metadata in the answer to a read, if it could be read. -/
def metadataIn? : Except StorageError (Table String) → Option IndexMetadata
  | .ok fields => IndexMetadata.ofFields? fields
  | .error _ => none

/-- The record that is written of an index created at some time: the time of its first creation is that of
the metadata found before, if any is known. -/
def IndexMetadata.renewed (stored? : Option IndexMetadata) (fingerprint : String) (now : Instant) :
    IndexMetadata :=
  ⟨fingerprint, some now, some ((stored?.bind (·.createdAt?)).getD now)⟩

@[simp]
theorem IndexMetadata.fingerprint_renewed (stored? : Option IndexMetadata) (fingerprint : String)
    (now : Instant) : (renewed stored? fingerprint now).fingerprint = fingerprint := rfl

theorem send_apply (c : Command) (w : World σ) :
    send c w = ((Storage.respond c w.store).1, { w with store := (Storage.respond c w.store).2 }) :=
  rfl

theorem storedMetadata?_apply (key : String) (w : World σ) :
    storedMetadata? key w =
      (metadataIn? (Storage.respond (.readHash key) w.store).1,
        { w with store := (Storage.respond (.readHash key) w.store).2 }) := by
  unfold storedMetadata?
  rw [StateM.bind_apply, send_apply]
  rcases Storage.respond (.readHash key) w.store with ⟨_ | _, _⟩ <;> rfl

/-- What is noted of dropping an index; nothing if it was not there. -/
def dropEvents : Except StorageError Unit → List Event
  | .ok _ => [.indexOperation .drop true]
  | .error e => if e.isUnknownIndex then [] else [.indexOperation .drop false]

theorem dropQuietly_apply (index : String) (w : World σ) :
    dropQuietly index w =
      ((), { w with
        store := (Storage.respond (.dropIndex index) w.store).2
        events := w.events ++ dropEvents (Storage.respond (.dropIndex index) w.store).1 }) := by
  unfold dropQuietly
  rw [StateM.bind_apply, send_apply]
  rcases Storage.respond (.dropIndex index) w.store with ⟨e | _, _⟩
  · -- Whether the failure is noted depends on its kind.
    dsimp only [dropEvents]
    split
    · rw [List.append_nil]
      rfl
    · rfl
  · rfl

theorem createNoted_apply (index : IndexDefinition) (w : World σ) :
    createNoted index w =
      ((Storage.respond (.createIndex index.createArguments) w.store).1.isOk, { w with
        store := (Storage.respond (.createIndex index.createArguments) w.store).2
        events := w.events ++ [.indexOperation .create
          (Storage.respond (.createIndex index.createArguments) w.store).1.isOk] }) := by
  unfold createNoted
  rw [StateM.bind_apply, send_apply]
  rcases Storage.respond (.createIndex index.createArguments) w.store with ⟨_ | _, _⟩ <;> rfl

/-- What bringing an index in step comes to above a store at some time: the state of the index, the store
afterwards, and what is noted. -/
def synchronised (config : Config) (index : IndexDefinition) (store : σ) (now : Instant) :
    IndexState × σ × List Event :=
  let key := config.metadataKey index.name
  let read := Storage.respond (.readHash key) store
  let stored? := metadataIn? read.1
  if stored?.map (·.fingerprint) = some index.fingerprint then
    (.upToDate, read.2, [.indexOperation .check true])
  else
    let dropped := Storage.respond (.dropIndex index.name) read.2
    let created := Storage.respond (.createIndex index.createArguments) dropped.2
    if created.1.isOk then
      let metadata := IndexMetadata.renewed stored? index.fingerprint now
      let written := Storage.respond (.writeHash key metadata.toFields) created.2
      (.upToDate, written.2, dropEvents dropped.1 ++ [.indexOperation .create true])
    else (.failed, created.2, dropEvents dropped.1 ++ [.indexOperation .create false])

/-- Nothing but the store and the time decides what is done, and nothing but the store changes. -/
theorem synchronise_apply (config : Config) (index : IndexDefinition) (w : World σ) :
    let step := synchronised config index w.store w.now
    synchronise config index w =
      (step.1, { w with store := step.2.1, events := w.events ++ step.2.2 }) := by
  unfold synchronise synchronised
  rw [StateM.bind_apply, storedMetadata?_apply]
  dsimp only
  split
  · rfl
  · rw [StateM.bind_apply, dropQuietly_apply, StateM.bind_apply, createNoted_apply]
    dsimp only
    cases hok : (Storage.respond (.createIndex index.createArguments) (Storage.respond
        (.dropIndex index.name) (Storage.respond (.readHash (config.metadataKey index.name))
          w.store).2).2).1.isOk
    all_goals
      simp only [Bool.false_eq_true, if_true, if_false, ← List.append_assoc]
      rfl

/-- Everything that bringing an index in step can come to: nothing is done; the index is dropped and
cannot be created; or it is created, and put on record. -/
theorem synchronise_cases (config : Config) (index : IndexDefinition) (w : World σ) :
    let key := config.metadataKey index.name
    let read := Storage.respond (.readHash key) w.store
    let seen? := (metadataIn? read.1).map (·.fingerprint)
    let dropped := (Storage.respond (.dropIndex index.name) read.2).2
    let created := Storage.respond (.createIndex index.createArguments) dropped
    let metadata := IndexMetadata.renewed (metadataIn? read.1) index.fingerprint w.now
    let outcome := synchronise config index w
    outcome.2.descriptors = w.descriptors ∧
      ((seen? = some index.fingerprint ∧ outcome.1 = .upToDate ∧ outcome.2.store = read.2) ∨
      (seen? ≠ some index.fingerprint ∧ created.1.isOk = false ∧ outcome.1 = .failed ∧
        outcome.2.store = created.2) ∨
      (seen? ≠ some index.fingerprint ∧ created.1.isOk = true ∧ outcome.1 = .upToDate ∧
        outcome.2.store = (Storage.respond (.writeHash key metadata.toFields) created.2).2)) := by
  intro key read seen? dropped created metadata outcome
  have houtcome : outcome = _ := synchronise_apply config index w
  by_cases hseen : seen? = some index.fingerprint
  · have hstep : synchronised config index w.store w.now = _ := if_pos hseen
    rw [houtcome, hstep]
    exact ⟨rfl, .inl ⟨hseen, rfl, rfl⟩⟩
  have hstep : synchronised config index w.store w.now = _ := if_neg hseen
  cases hok : created.1.isOk with
  | false =>
    replace hstep := hstep.trans (if_neg (Bool.not_eq_true _ ▸ hok))
    rw [houtcome, hstep]
    exact ⟨rfl, .inr (.inl ⟨hseen, rfl, rfl, rfl⟩)⟩
  | true =>
    replace hstep := hstep.trans (if_pos hok)
    rw [houtcome, hstep]
    exact ⟨rfl, .inr (.inr ⟨hseen, rfl, rfl, rfl⟩)⟩

/-! ## Work with the synchronizer -/

/-- The work with the synchronizer is the work without it; on the way the states of the one index
pass. -/
theorem rebuildIfChanged_eq (config : Config) (index : IndexDefinition) (s : Synchronizer)
    (w : World σ) :
    ∃ passing, rebuildIfChanged config index s w =
      (((synchronise config index w).1, s.remembering index.name passing),
        (synchronise config index w).2) := by
  rcases hstored : storedMetadata? (config.metadataKey index.name) w with ⟨stored?, w₁⟩
  unfold rebuildIfChanged synchronise
  rw [SyncM.bind_apply, StateM.bind_apply, onWorld_apply, hstored]
  dsimp only
  rw [SyncM.bind_apply, remember_apply]
  dsimp only
  by_cases h : stored?.map (·.fingerprint) = some index.fingerprint
  · refine ⟨.checked, ?_⟩
    rw [if_pos h, if_pos h]
    rfl
  · refine ⟨.rebuilding, ?_⟩
    rw [if_neg h, if_neg h, SyncM.bind_apply, remember_apply, SyncM.bind_apply, onWorld_apply,
      StateM.bind_apply, SyncM.bind_apply, onWorld_apply, StateM.bind_apply]
    dsimp only
    rcases createNoted index (dropQuietly index.name w₁).2 with ⟨created, w₂⟩
    rw [Synchronizer.remembering_remembering]
    cases created <;> rfl

/-- Nothing is asked again about an index whose state is final. -/
theorem ensureIndex_of_isTerminal {config : Config} {d : Descriptor} {s : Synchronizer}
    (h : (s.state (physicalName d.indexName config.scope?)).isTerminal = true) (w : World σ) :
    ensureIndex config d s w = ((s.state (physicalName d.indexName config.scope?), s), w) := by
  unfold ensureIndex
  rw [SyncM.bind_apply]
  exact congrFun (congrFun (if_pos h) s) w

/-- Nothing is asked about a model without indexed fields. -/
theorem ensureIndex_of_none {config : Config} {d : Descriptor} {s : Synchronizer}
    (h : (s.state (physicalName d.indexName config.scope?)).isTerminal = false)
    (hd : IndexDefinition.ofDescriptor? d config.scope? = none) (w : World σ) :
    ensureIndex config d s w =
      ((.notIndexed, s.remembering (physicalName d.indexName config.scope?) .notIndexed), w) := by
  have hnot : ¬ (s.state (physicalName d.indexName config.scope?)).isTerminal = true := by simp [h]
  unfold ensureIndex
  rw [SyncM.bind_apply, hd]
  exact congrFun (congrFun (if_neg hnot) s) w

theorem exists_ofDescriptor? {d : Descriptor} (h : d.isIndexed = true) (scope? : Option String) :
    ∃ index, IndexDefinition.ofDescriptor? d scope? = some index :=
  ⟨_, if_pos h⟩

theorem name_of_ofDescriptor? {d : Descriptor} {scope? : Option String} {index : IndexDefinition}
    (hd : IndexDefinition.ofDescriptor? d scope? = some index) :
    index.name = physicalName d.indexName scope? := by
  unfold IndexDefinition.ofDescriptor? at hd
  split at hd
  · rw [← Option.some.inj hd]
  · contradiction

theorem keyStart_of_ofDescriptor? {d : Descriptor} {scope? : Option String} {index : IndexDefinition}
    (hd : IndexDefinition.ofDescriptor? d scope? = some index) :
    index.keyStart = keyStart index.name := by
  unfold IndexDefinition.ofDescriptor? at hd
  split at hd
  · rw [← Option.some.inj hd]
  · contradiction

/-- Otherwise the index is brought in step, and how that ended is remembered. -/
theorem ensureIndex_of_some {config : Config} {d : Descriptor} {s : Synchronizer}
    {index : IndexDefinition}
    (h : (s.state (physicalName d.indexName config.scope?)).isTerminal = false)
    (hd : IndexDefinition.ofDescriptor? d config.scope? = some index) (w : World σ) :
    ensureIndex config d s w =
      (((synchronise config index w).1, s.settle index (synchronise config index w).1),
        (synchronise config index w).2) := by
  have hnot : ¬ (s.state (physicalName d.indexName config.scope?)).isTerminal = true := by simp [h]
  obtain ⟨passing, hrebuild⟩ :=
    rebuildIfChanged_eq config index { s with definitions := s.definitions.register index } w
  unfold ensureIndex
  rw [SyncM.bind_apply, hd]
  refine (congrFun (congrFun (if_neg hnot) s) w).trans ?_
  -- The definition is taken up before the work, so the work starts from a synchronizer that has it.
  change (rebuildIfChanged config index >>= fun state => do
      remember (physicalName d.indexName config.scope?) state
      return state) { s with definitions := s.definitions.register index } w = _
  rw [SyncM.bind_apply, hrebuild, SyncM.bind_apply, remember_apply, ← name_of_ofDescriptor? hd,
    Synchronizer.remembering_remembering]
  rfl

end RecordSearch
