import RecordSearch.Proofs.Engine.IndexView
import RecordSearch.Proofs.Engine.States

/-!
# Convergence

Where no command fails, one call is enough: whatever the store held before, an index of the wrong shape or
none, a record of another shape, a torn one or none, afterwards the index is the declared one and its record
says so. Every process that starts later reads that record, believes it and does nothing else, so that from
then on the store stays as it is.

## Main definitions

* `Process.restart` — a process that starts above the store that another one left.
* `Process.restarts` — several such processes, one after another.

## Main results

* `synchronise_of_differs` — one call brings index and record in step with the definition.
* `Process.restarts_of_stored` — processes that find the right record read it and leave the store alone.
* `Process.ensure_converges` — the second follows the first.
-/

namespace RecordSearch

/-! ## What a call leaves to the next -/

theorem Probe.failures_congr {p q : Probe MemoryStore} (hfaults : p.faults = q.faults)
    (hstore : p.store.failCreates = q.store.failCreates) : p.failures = q.failures := by
  simp only [failures, fault?, hfaults, hstore]

theorem MemoryStore.failCreates_recorded (m : MemoryStore) (f : Failures) (key : String)
    (metadata : IndexMetadata) : (m.recorded f key metadata).failCreates = m.failCreates := by
  unfold recorded
  split <;> rfl

section Synchronise

variable {config : Config} {index : IndexDefinition} {w : World (Probe MemoryStore)}

/-- Bringing an index in step does not change which commands fail. -/
theorem failures_synchronise (config : Config) (index : IndexDefinition)
    (w : World (Probe MemoryStore)) :
    (synchronise config index w).2.store.failures = w.store.failures := by
  have hdropped := w.store.store.failCreates_dropped w.store.failures index.name
  rcases synchronise_probe config index w with
    ⟨-, -, hstore⟩ | ⟨-, -, -, hstore⟩ | ⟨-, -, -, hstore⟩
  · rw [hstore]
    exact Probe.failures_congr rfl rfl
  · rw [hstore]
    exact Probe.failures_congr rfl hdropped
  · rw [hstore]
    exact Probe.failures_congr rfl ((MemoryStore.failCreates_recorded _ _ _ _).trans hdropped)

/-- Where no command fails, one call brings index and record in step with the definition. -/
theorem synchronise_of_differs (hworks : w.store.failures = ⟨false, false, false, false⟩)
    (hdiffers : (w.store.store.view config index.name).stored? ≠ some index.fingerprint) :
    (synchronise config index w).1 = .upToDate ∧
      (synchronise config index w).2.store.store.view config index.name =
        ⟨some index.createArguments, some index.fingerprint⟩ := by
  obtain ⟨hstate, hview⟩ := synchronise_view config index w
  -- The record is read and not believed, and what is in the way of the new index is dropped.
  have hrebuild : (w.store.store.view config index.name).rebuild w.store.failures index =
      (.upToDate, ⟨some index.createArguments, some index.fingerprint⟩) := by
    rw [hworks]
    exact IndexView.rebuild_of_free hdiffers rfl
  rw [hstate, hview index.name, if_pos rfl, hrebuild]
  exact ⟨rfl, rfl⟩

/-- A record of the definition's fingerprint is read, and that is all. -/
theorem synchronise_of_stored (hread : w.store.failures.read = false)
    (hstored : (w.store.store.view config index.name).stored? = some index.fingerprint) :
    (synchronise config index w).1 = .upToDate ∧
      (synchronise config index w).2.store =
        w.store.after (.readHash (config.metadataKey index.name)) w.store.store := by
  have hseen : (w.store.store.view config index.name).seen? w.store.failures =
      some index.fingerprint := by
    rw [IndexView.seen?, hread]
    exact hstored
  rcases synchronise_probe config index w with hdone | ⟨hunseen, -⟩ | ⟨hunseen, -⟩
  · exact hdone.2
  · exact absurd hseen hunseen
  · exact absurd hseen hunseen

end Synchronise

/-! ## Processes one after another -/

namespace Process

/-- A process that starts at some time. Of what another one left it finds the store, and knows nothing. -/
def restart {σ : Type} (p : Process σ) (now : Instant) : Process σ where
  world := { p.world with now := now, descriptors := .empty }

/-- Processes that start one after another, each at its time, and bring the index of a descriptor in step:
how that ends for each of them, and the last one. -/
def restarts {σ : Type} [Storage σ] (config : Config) (d : Descriptor) :
    List Instant → Process σ → List IndexState × Process σ
  | [], p => ([], p)
  | now :: times, p =>
    let ended := (p.restart now).ensure config d
    let later := restarts config d times ended.2
    (ended.1 :: later.1, later.2)

variable {config : Config} {d : Descriptor} {index : IndexDefinition}
  {p : Process (Probe MemoryStore)}

/-- A process that finds the right record reads it and leaves the store alone. -/
theorem ensure_restart_of_stored (hindex : IndexDefinition.ofDescriptor? d config.scope? = some index)
    (hread : p.world.store.failures.read = false)
    (hstored : (p.world.store.store.view config index.name).stored? = some index.fingerprint)
    (now : Instant) :
    ((p.restart now).ensure config d).1 = .upToDate ∧
      ((p.restart now).ensure config d).2.world.store =
        p.world.store.after (.readHash (config.metadataKey index.name)) p.world.store.store := by
  rw [ensure_of_some rfl hindex]
  exact synchronise_of_stored (w := (p.restart now).world) hread hstored

/-- So do all that start one after another. -/
theorem restarts_of_stored (hindex : IndexDefinition.ofDescriptor? d config.scope? = some index)
    (hread : p.world.store.failures.read = false)
    (hstored : (p.world.store.store.view config index.name).stored? = some index.fingerprint)
    (times : List Instant) :
    (restarts config d times p).1 = List.replicate times.length .upToDate ∧
      (restarts config d times p).2.world.store.store = p.world.store.store ∧
      (restarts config d times p).2.world.store.log = p.world.store.log ++
        List.replicate times.length (.readHash (config.metadataKey index.name)) := by
  induction times generalizing p with
  | nil => exact ⟨rfl, rfl, (List.append_nil _).symm⟩
  | cons now times ih =>
    obtain ⟨hstate, hstore⟩ := ensure_restart_of_stored hindex hread hstored now
    have hread' : ((p.restart now).ensure config d).2.world.store.failures.read = false := by
      rw [hstore, Probe.failures_after _ rfl]
      exact hread
    have hstored' : (((p.restart now).ensure config d).2.world.store.store.view config
        index.name).stored? = some index.fingerprint := by
      rw [hstore]
      exact hstored
    obtain ⟨hstates, hkept, hlog⟩ := ih hread' hstored'
    rw [hstore] at hkept hlog
    refine ⟨?_, hkept, ?_⟩
    · rw [restarts, hstates, hstate]
      rfl
    · rw [List.length_cons, List.replicate_succ, List.append_cons]
      exact hlog

/-- Where no command fails, the first call for an index whose record is not the definition's makes the index
the declared one and puts its fingerprint on record. From then on, every process that starts and brings the
index in step sends one command, which reads the record, and the store stays as it is. -/
theorem ensure_converges (hindex : IndexDefinition.ofDescriptor? d config.scope? = some index)
    (hworks : p.world.store.failures = ⟨false, false, false, false⟩)
    (hstate : p.state (config.indexOf d) = .unknown)
    (hdiffers : (p.world.store.store.view config (config.indexOf d)).stored? ≠
      some index.fingerprint) :
    let ended := p.ensure config d
    ended.1 = .upToDate ∧
      ended.2.world.store.store.view config (config.indexOf d) =
        ⟨some index.createArguments, some index.fingerprint⟩ ∧
      ∀ times, let later := restarts config d times ended.2
        later.1 = List.replicate times.length .upToDate ∧
        later.2.world.store.store = ended.2.world.store.store ∧
        later.2.world.store.log = ended.2.world.store.log ++
          List.replicate times.length (.readHash (config.metadataKey (config.indexOf d))) := by
  intro ended
  have hname : config.indexOf d = index.name := (name_of_ofDescriptor? hindex).symm
  have hopen : (p.state (config.indexOf d)).isTerminal = false := by
    rw [hstate]
    rfl
  have hended : ended = _ := ensure_of_some hopen hindex
  rw [hname] at hdiffers ⊢
  obtain ⟨hupToDate, hview⟩ := synchronise_of_differs hworks hdiffers
  have hfailures := failures_synchronise config index p.world
  rw [hended]
  refine ⟨hupToDate, hview, fun times => ?_⟩
  apply restarts_of_stored hindex
  · rw [hfailures, hworks]
  · rw [hview]

/-- An index of the model's name over something else, and a record of which nothing can be believed. -/
def orphaned : MemoryStore where
  hashes := .ofList
    [("index:heroes", .ofList [("fingerprint", "stale"), ("created_at", "never"), ("note", "")]),
      ("heroes:1", .ofList [("name", "Ada")])]
  indexes := .ofList [("heroes", ["heroes", "ON", "JSON"])]

theorem ensure_converges_of_orphaned :
    let p : Process (Probe MemoryStore) := { world := { store := { store := orphaned }, now := ⟨0, 0⟩ } }
    let ended := p.ensure {} heroes
    let later := restarts {} heroes [⟨1, 0⟩, ⟨60, 0⟩] ended.2
    (p.world.store.store.view {} "heroes").stored? = some "stale" ∧
      ended.1 = .upToDate ∧
      (ended.2.world.store.store.view {} "heroes").live? =
        some ["heroes", "ON", "HASH", "PREFIX", "1", "heroes:", "SCHEMA", "name", "TAG"] ∧
      later.1 = [.upToDate, .upToDate] ∧
      later.2.world.store.log =
        ended.2.world.store.log ++ [.readHash "index:heroes", .readHash "index:heroes"] := by
  intro p ended later
  have hindex : IndexDefinition.ofDescriptor? heroes (Config.scope? {}) =
      some ⟨"heroes", "heroes:", [⟨"name", .tag, false⟩]⟩ := rfl
  have hname : Config.indexOf {} heroes = "heroes" := by decide
  have hkey : Config.metadataKey {} "heroes" = "index:heroes" := by decide
  have hstored : (p.world.store.store.view {} "heroes").stored? = some "stale" := by decide +kernel
  have hdiffers : (p.world.store.store.view {} (Config.indexOf {} heroes)).stored? ≠
      some (IndexDefinition.mk "heroes" "heroes:" [⟨"name", .tag, false⟩]).fingerprint := by
    rw [hname, hstored]
    decide +kernel
  obtain ⟨hupToDate, hview, hlater⟩ := ensure_converges hindex rfl rfl hdiffers
  obtain ⟨hstates, -, hlog⟩ := hlater [⟨1, 0⟩, ⟨60, 0⟩]
  rw [hname] at hview
  rw [hname, hkey] at hlog
  have hlive : (ended.2.world.store.store.view {} "heroes").live? =
      some (IndexDefinition.mk "heroes" "heroes:" [⟨"name", .tag, false⟩]).createArguments := by
    rw [hview]
  simp only [List.length_cons, List.length_nil, List.replicate_succ, List.replicate_zero] at hlog
  refine ⟨hstored, hupToDate, hlive, hstates, ?_⟩
  simp only [later, ended]
  exact hlog

end Process

end RecordSearch
