import RecordSearch.Proofs.Engine.Requests
import RecordSearch.Proofs.Engine.States
import RecordSearch.Proofs.Engine.Upkeep

/-!
# The protocol of bringing an index in step

What is put to a store to bring an index in step, and how that ends, depends on what the store answers and
on nothing else. There are three ways for it to go. The record is read, and if it names the definition's
shape that is all. Otherwise the index is dropped, whatever comes of that, and created; and only if it was
created is its record written, whatever comes of that.

A store in memory is altered in two places at most, the record and the index, and if the index cannot be
created the record stays as it was.

## Main definitions

* `IndexDefinition.IsVouchedFor` — the answer to reading a record names the definition's shape.
* `SyncRun` — the calls that bring an index in step, with their outcomes, and how that ends.
* `MemoryStore.AltersOnly` — one store comes from another by changes to one hash and one index.

## Main results

* `exists_syncRun` — bringing an index in step follows the protocol, over any store.
* `MemoryStore.altersOnly_kept` — it alters the two places of its index.
* `Process.ensure_follows` — the two together.
-/

namespace RecordSearch

/-! ## The calls -/

/-- The answer to reading a record names the shape of the definition. -/
def IndexDefinition.IsVouchedFor (index : IndexDefinition)
    (answer : Except StorageError (Table String)) : Prop :=
  ∃ fields, answer = .ok fields ∧ fields.get? "fingerprint" = some index.fingerprint

/-- The calls that bring an index in step at some time, with their outcomes, and how that ends. -/
inductive SyncRun (config : Config) (index : IndexDefinition) (now : Instant) :
    List Call → IndexState → Prop where
  /-- The record names the shape. -/
  | agreed {answer} (h : index.IsVouchedFor answer) :
    SyncRun config index now [⟨.readHash (config.metadataKey index.name), answer⟩] .upToDate
  /-- It does not, or there is none, and the index cannot be created. -/
  | refused {answer dropped e} (h : ¬ index.IsVouchedFor answer) :
    SyncRun config index now
      [⟨.readHash (config.metadataKey index.name), answer⟩, ⟨.dropIndex index.name, dropped⟩,
        ⟨.createIndex index.createArguments, .error e⟩] .failed
  /-- It does not, or there is none, and the index is created. -/
  | rebuilt {answer dropped written} (h : ¬ index.IsVouchedFor answer) :
    SyncRun config index now
      [⟨.readHash (config.metadataKey index.name), answer⟩, ⟨.dropIndex index.name, dropped⟩,
        ⟨.createIndex index.createArguments, .ok ()⟩,
        ⟨.writeHash (config.metadataKey index.name)
          (IndexMetadata.renewed (metadataIn? answer) index.fingerprint now).toFields, written⟩]
      .upToDate

/-- What names a shape is the record's fingerprint, and no shape has an empty one. -/
theorem isVouchedFor_iff {index : IndexDefinition} {answer : Except StorageError (Table String)} :
    index.IsVouchedFor answer ↔
      (metadataIn? answer).map (·.fingerprint) = some index.fingerprint := by
  cases answer with
  | error e => simp [IndexDefinition.IsVouchedFor, metadataIn?]
  | ok fields =>
    have hne := index.fingerprint_ne_empty
    simp only [IndexDefinition.IsVouchedFor, metadataIn?, IndexMetadata.ofFields?, Except.ok.injEq,
      exists_eq_left']
    cases fields.get? "fingerprint" with
    | none => simp
    | some fingerprint =>
      by_cases hempty : fingerprint = ""
      · simp [hempty, hne.symm]
      · simp [hempty]

namespace SyncRun

variable {config : Config} {index : IndexDefinition} {now : Instant} {calls : List Call}
  {state : IndexState}

theorem of_not_isOk {answer dropped created} (h : ¬ index.IsVouchedFor answer)
    (hcreated : created.isOk = false) :
    SyncRun config index now
      [⟨.readHash (config.metadataKey index.name), answer⟩, ⟨.dropIndex index.name, dropped⟩,
        ⟨.createIndex index.createArguments, created⟩] .failed := by
  cases created with
  | ok _ => contradiction
  | error e => exact refused h

theorem of_isOk {answer dropped created written} (h : ¬ index.IsVouchedFor answer)
    (hcreated : created.isOk = true) :
    SyncRun config index now
      [⟨.readHash (config.metadataKey index.name), answer⟩, ⟨.dropIndex index.name, dropped⟩,
        ⟨.createIndex index.createArguments, created⟩,
        ⟨.writeHash (config.metadataKey index.name)
          (IndexMetadata.renewed (metadataIn? answer) index.fingerprint now).toFields, written⟩]
      .upToDate := by
  cases created with
  | ok _ => exact rebuilt h
  | error e => contradiction

/-- The index is in step in the end exactly if it was vouched for or created. -/
theorem upToDate_iff (h : SyncRun config index now calls state) :
    state = .upToDate ↔
      (∃ answer, index.IsVouchedFor answer ∧
        ⟨.readHash (config.metadataKey index.name), answer⟩ ∈ calls) ∨
      ⟨.createIndex index.createArguments, .ok ()⟩ ∈ calls := by
  cases h with
  | agreed h => exact iff_of_true rfl (.inl ⟨_, h, List.mem_cons_self⟩)
  | refused h =>
    refine iff_of_false nofun ?_
    rintro (⟨answer, hvouched, hmem⟩ | hmem)
    · obtain rfl : answer = _ := by simpa using hmem
      exact h hvouched
    · simp at hmem
  | rebuilt h => exact iff_of_true rfl (.inr (by simp))

/-- Otherwise it has failed. -/
theorem failed_of_ne (h : SyncRun config index now calls state) (hne : state ≠ .upToDate) :
    state = .failed := by
  cases h with
  | agreed | rebuilt => exact absurd rfl hne
  | refused => rfl

end SyncRun

section Calls

variable {σ : Type} [Storage σ]

/-- Bringing an index in step follows the protocol. -/
theorem exists_syncRun (config : Config) (index : IndexDefinition) (w : World (Recorder σ)) :
    ∃ calls, (synchronise config index w).2.store.calls = w.store.calls ++ calls ∧
      SyncRun config index w.now calls (synchronise config index w).1 := by
  obtain ⟨-, ⟨hseen, hstate, hstore⟩ | ⟨hseen, hfailed, hstate, hstore⟩ |
    ⟨hseen, hcreated, hstate, hstore⟩⟩ := synchronise_cases config index w
  all_goals
    rw [hstate, hstore]
    simp only [Recorder.calls_respond, List.append_assoc, List.cons_append, List.nil_append]
    refine ⟨_, rfl, ?_⟩
  · exact .agreed (isVouchedFor_iff.2 hseen)
  · exact .of_not_isOk (mt isVouchedFor_iff.1 hseen) hfailed
  · exact .of_isOk (mt isVouchedFor_iff.1 hseen) hcreated

end Calls

/-! ## What is altered -/

/-- A store in memory comes from another by changes to one hash and to one index, and to the counts of what
was created and dropped. -/
structure MemoryStore.AltersOnly (m m' : MemoryStore) (key index : String) : Prop where
  hashes : ∀ other, other ≠ key → m'.hashes.get? other = m.hashes.get? other
  indexes : ∀ other, other ≠ index → m'.indexes.get? other = m.indexes.get? other
  searches : m'.searches = m.searches
  failSearches : m'.failSearches = m.failSearches
  failCreates : m'.failCreates = m.failCreates

namespace MemoryStore

variable (m : MemoryStore) (config : Config)

theorem AltersOnly.refl (key index : String) : m.AltersOnly m key index :=
  ⟨fun _ _ => rfl, fun _ _ => rfl, rfl, rfl, rfl⟩

/-- To put the outcome for an index in its places alters these. -/
theorem altersOnly_kept (name : String) (u : Upkeep) :
    m.AltersOnly (m.kept config name u) (config.metadataKey name) name where
  hashes _ h := (Table.get?_set _ _ _ _).trans (if_neg h.symm)
  indexes _ h := (Table.get?_set _ _ _ _).trans (if_neg h.symm)
  searches := rfl
  failSearches := rfl
  failCreates := rfl

/-- An outcome with the record as it was leaves all hashes as they were. -/
theorem hashes_kept (name : String) {u : Upkeep}
    (h : u.holding.record? = (m.holding config name).record?) :
    (m.kept config name u).hashes = m.hashes := by
  simp only [kept, h, holding, Table.set_get?]

end MemoryStore

/-- An index that cannot be created leaves its record as it was. -/
theorem Holding.record?_upkeep_of_failed {h : Holding} {f : Failures} {now : Instant}
    {i : IndexDefinition} (hfailed : (h.upkeep f now i).state = .failed) :
    (h.upkeep f now i).holding.record? = h.record? := by
  by_cases hseen : h.view.seen? f = some i.fingerprint
  · rw [upkeep_of_seen hseen]
  cases hblocked : f.create || (h.view.dropped f).live?.isSome with
  | true =>
    rw [upkeep_of_blocked hseen hblocked]
    exact record?_dropped
  | false =>
    rw [upkeep_of_free hseen hblocked] at hfailed
    contradiction

section Recorder

variable {σ : Type} [Storage σ]

theorem Recorder.outcome_respond (c : Command) (r : Recorder σ) :
    (Storage.respond c r).1 = (Storage.respond c r.store).1 := rfl

theorem Recorder.store_respond (c : Command) (r : Recorder σ) :
    (Storage.respond c r).2.store = (Storage.respond c r.store).2 := rfl

/-- A store does the same whether it is recorded or not. -/
theorem synchronised_recorder (config : Config) (index : IndexDefinition) (r : Recorder σ)
    (now : Instant) :
    (synchronised config index r now).1 = (synchronised config index r.store now).1 ∧
      (synchronised config index r now).2.1.store = (synchronised config index r.store now).2.1 := by
  unfold synchronised
  simp only [Recorder.outcome_respond, Recorder.store_respond]
  split
  · exact ⟨rfl, rfl⟩
  · split <;> exact ⟨rfl, rfl⟩

end Recorder

/-- Bringing an index in step over a recorded store in memory comes to what its holding says. -/
theorem synchronise_recorder (config : Config) (index : IndexDefinition)
    (w : World (Recorder (Probe MemoryStore))) :
    let m := w.store.store.store
    let u := (m.holding config index.name).upkeep w.store.store.failures w.now index
    (synchronise config index w).1 = u.state ∧
      (synchronise config index w).2.store.store.store = m.kept config index.name u := by
  intro m u
  obtain ⟨hstate, hstore⟩ := synchronised_recorder config index w.store w.now
  obtain ⟨hstate', hstore'⟩ :=
    synchronise_upkeep config index ⟨w.store.store, w.now, w.descriptors, w.events⟩
  rw [synchronise_apply] at hstate' hstore' ⊢
  dsimp only at hstate' hstore' ⊢
  rw [hstate, hstore]
  exact ⟨hstate', hstore'⟩

namespace Process

/-- A model without indexed fields takes no call. -/
theorem ensure_of_not_isIndexed {σ : Type} [Storage σ] (config : Config) {d : Descriptor}
    (p : Process σ) (h : d.isIndexed = false) :
    (p.ensure config d).2.world = p.world ∧
      ((p.state (config.indexOf d)).isTerminal = false → (p.ensure config d).1 = .notIndexed) := by
  have hnone : IndexDefinition.ofDescriptor? d config.scope? = none :=
    if_neg (by simp [h])
  cases hstate : (p.state (config.indexOf d)).isTerminal with
  | true =>
    rw [ensure_of_isTerminal hstate]
    exact ⟨rfl, nofun⟩
  | false =>
    rw [ensure_of_none hstate hnone]
    exact ⟨rfl, fun _ => rfl⟩

/-- Over a store in memory no call alters more than the places of its index, and a call that fails to create
the index leaves the record. -/
theorem altersOnly_ensure (config : Config) (d : Descriptor)
    (p : Process (Recorder (Probe MemoryStore)))
    (hopen : (p.state (config.indexOf d)).isTerminal = false) :
    let ended := p.ensure config d
    let m := p.world.store.store.store
    let m' := ended.2.world.store.store.store
    m.AltersOnly m' (config.metadataKey (config.indexOf d)) (config.indexOf d) ∧
      (ended.1 = .failed → m'.hashes = m.hashes) := by
  cases hindex : IndexDefinition.ofDescriptor? d config.scope? with
  | none =>
    rw [ensure_of_none hopen hindex]
    exact ⟨.refl _ _ _, nofun⟩
  | some index =>
    have hname : config.indexOf d = index.name := (name_of_ofDescriptor? hindex).symm
    obtain ⟨hstate, hstore⟩ := synchronise_recorder config index p.world
    rw [ensure_of_some hopen hindex, hname]
    dsimp only
    rw [hstate, hstore]
    exact ⟨MemoryStore.altersOnly_kept _ _ _ _, fun hfailed =>
      MemoryStore.hashes_kept _ _ _ (Holding.record?_upkeep_of_failed hfailed)⟩

/-- Where an index is brought in step whose state is not final yet, the calls follow the protocol, and the index
is in step in the end exactly if its record vouched for it or it was created. A model without indexed fields
takes no call. Over a store in memory, whatever it holds and whichever commands fail, no hash is altered but
the record of the index and no index but itself, and a record stays as it was if its index cannot be created. -/
theorem ensure_follows (config : Config) (d : Descriptor) :
    (∀ {σ : Type} [Storage σ] (p : Process (Recorder σ)),
      let ended := p.ensure config d
      (d.isIndexed = false → ended.2.world = p.world ∧
        ((p.state (config.indexOf d)).isTerminal = false → ended.1 = .notIndexed)) ∧
      (d.isIndexed = true → (p.state (config.indexOf d)).isTerminal = false →
        ∃ index calls, IndexDefinition.ofDescriptor? d config.scope? = some index ∧
          index.name = config.indexOf d ∧
          ended.2.world.store.calls = p.world.store.calls ++ calls ∧
          SyncRun config index p.world.now calls ended.1 ∧
          (ended.1 = .upToDate ↔
            (∃ answer, index.IsVouchedFor answer ∧
              ⟨.readHash (config.metadataKey (config.indexOf d)), answer⟩ ∈ calls) ∨
            ⟨.createIndex index.createArguments, .ok ()⟩ ∈ calls) ∧
          (ended.1 ≠ .upToDate → ended.1 = .failed))) ∧
    ∀ p : Process (Recorder (Probe MemoryStore)),
      (p.state (config.indexOf d)).isTerminal = false →
      let ended := p.ensure config d
      let m := p.world.store.store.store
      let m' := ended.2.world.store.store.store
      m.AltersOnly m' (config.metadataKey (config.indexOf d)) (config.indexOf d) ∧
        (ended.1 = .failed → m'.hashes = m.hashes) := by
  refine ⟨fun p => ⟨ensure_of_not_isIndexed config p, fun hindexed hopen => ?_⟩,
    altersOnly_ensure config d⟩
  obtain ⟨index, hindex⟩ := exists_ofDescriptor? hindexed config.scope?
  have hname := name_of_ofDescriptor? hindex
  obtain ⟨calls, hcalls, hrun⟩ := exists_syncRun config index p.world
  have hended := ensure_of_some hopen hindex
  refine ⟨index, calls, hindex, hname, ?_⟩
  rw [hended]
  refine ⟨hcalls, hrun, ?_, hrun.failed_of_ne⟩
  rw [show config.indexOf d = index.name from hname.symm]
  exact hrun.upToDate_iff

/-- A store with a record of another shape that refuses to create indexes. -/
def outdated : MemoryStore where
  hashes := .ofList
    [("index:heroes", .ofList [("fingerprint", "stale")]), ("heroes:1", .ofList [("name", "Ada")])]
  indexes := .ofList [("heroes", ["heroes", "ON", "JSON"]), ("towns", ["towns", "ON", "HASH"])]
  failCreates := true

/-- The index is dropped and not created, and nothing is written. -/
theorem ensure_follows_of_outdated :
    let p : Process (Recorder (Probe MemoryStore)) :=
      { world := { store := { store := { store := outdated } }, now := ⟨0, 0⟩ } }
    let ended := p.ensure {} heroes
    let m' := ended.2.world.store.store.store
    (p.state "heroes").isTerminal = false ∧ heroes.isIndexed = true ∧
      ended.1 = .failed ∧ outdated.AltersOnly m' "index:heroes" "heroes" ∧
      m'.indexes.get? "heroes" = none ∧ m'.hashes = outdated.hashes ∧
      ∃ index calls, ended.2.world.store.calls = calls ∧
        SyncRun {} index ⟨0, 0⟩ calls .failed := by
  intro p ended m'
  have hopen : (p.state (Config.indexOf {} heroes)).isTerminal = false := rfl
  have hname : Config.indexOf {} heroes = "heroes" := by decide
  have hkey : Config.metadataKey {} "heroes" = "index:heroes" := by decide
  have hfailed : (p.ensure {} heroes).1 = .failed := by decide +kernel
  have hdropped : (p.ensure {} heroes).2.world.store.store.store.indexes.get? "heroes" = none := by
    decide +kernel
  obtain ⟨hruns, hstores⟩ := ensure_follows {} heroes
  obtain ⟨index, calls, -, -, hcalls, hrun, -⟩ := (hruns p).2 rfl hopen
  obtain ⟨halters, hkept⟩ := hstores p hopen
  rw [hname, hkey] at halters
  rw [hfailed] at hrun
  simp only [ended, m']
  exact ⟨rfl, rfl, hfailed, halters, hdropped, hkept hfailed, index, calls, hcalls, hrun⟩

end Process

end RecordSearch
