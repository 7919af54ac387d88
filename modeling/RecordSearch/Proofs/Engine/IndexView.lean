import RecordSearch.Proofs.Engine.Synchronizer
import RecordSearch.Proofs.Index.Metadata
import RecordSearch.Storage.Memory
import RecordSearch.Storage.Probe

/-!
# What a store in memory holds about an index

Of all that a store holds, bringing one index in step depends on two things: the arguments that the index
was created with, if it is live, and the fingerprint on its record. What becomes of the two follows from
which commands fail.

## Main definitions

* `IndexView`, `MemoryStore.view` — the two things.
* `Failures`, `Probe.failures` — which commands fail.
* `IndexView.rebuild` — what becomes of the view.

## Main results

* `synchronise_probe` — what bringing an index in step comes to when commands may fail.
* `synchronise_view` — bringing an index in step acts on its view like `IndexView.rebuild`, and leaves the
  views of other indexes alone.
-/

namespace RecordSearch

/-- What a store holds about one index. -/
structure IndexView where
  /-- What the index was created with, if it is live. -/
  live? : Option (List String)
  /-- The fingerprint on record. -/
  stored? : Option String
  deriving DecidableEq, Repr

/-- Which of the commands that synchronizing sends fail. -/
structure Failures where
  read : Bool
  drop : Bool
  create : Bool
  write : Bool
  deriving DecidableEq, Repr

namespace IndexView

/-- The fingerprint that a synchronizer gets to see. -/
def seen? (v : IndexView) (f : Failures) : Option String :=
  if f.read then none else v.stored?

/-- The view after the index was to be dropped. -/
def dropped (v : IndexView) (f : Failures) : IndexView :=
  if f.drop then v else { v with live? := none }

/-- How bringing an index in step ends, and the view after it. An index that could not be dropped is in
the way of the new one. -/
def rebuild (v : IndexView) (f : Failures) (i : IndexDefinition) : IndexState × IndexView :=
  if v.seen? f = some i.fingerprint then (.upToDate, v)
  else
    let left := v.dropped f
    if f.create || left.live?.isSome then (.failed, left)
    else (.upToDate, ⟨some i.createArguments, if f.write then left.stored? else some i.fingerprint⟩)

section

variable {v : IndexView} {f : Failures} {i : IndexDefinition}

theorem rebuild_of_seen (h : v.seen? f = some i.fingerprint) : v.rebuild f i = (.upToDate, v) :=
  if_pos h

theorem rebuild_of_blocked (h : v.seen? f ≠ some i.fingerprint)
    (hblocked : (f.create || (v.dropped f).live?.isSome) = true) :
    v.rebuild f i = (.failed, v.dropped f) :=
  (if_neg h).trans (if_pos hblocked)

theorem rebuild_of_free (h : v.seen? f ≠ some i.fingerprint)
    (hfree : (f.create || (v.dropped f).live?.isSome) = false) :
    v.rebuild f i =
      (.upToDate,
        ⟨some i.createArguments, if f.write then (v.dropped f).stored? else some i.fingerprint⟩) :=
  (if_neg h).trans (if_neg (Bool.not_eq_true _ ▸ hfree))

end

end IndexView

/-- What the store holds about the index of a name. -/
def MemoryStore.view (m : MemoryStore) (config : Config) (name : String) : IndexView where
  live? := m.indexes.get? name
  stored? :=
    (IndexMetadata.ofFields? ((m.hashes.get? (config.metadataKey name)).getD .empty)).map
      (·.fingerprint)

namespace MemoryStore

/-- The metadata that a synchronizer gets to see under a key. -/
def readMetadata? (m : MemoryStore) (f : Failures) (key : String) : Option IndexMetadata :=
  if f.read then none else IndexMetadata.ofFields? ((m.hashes.get? key).getD .empty)

/-- The store after an index was to be dropped. -/
def dropped (m : MemoryStore) (f : Failures) (index : String) : MemoryStore :=
  if f.drop then m else (m.dropIndex index).2

/-- The store with one more live index. -/
def withIndex (m : MemoryStore) (index : IndexDefinition) : MemoryStore :=
  { m with
    indexes := m.indexes.insert index.name index.createArguments
    creates := m.creates + 1 }

/-- The store after the record of an index was to be written. -/
def recorded (m : MemoryStore) (f : Failures) (key : String) (metadata : IndexMetadata) : MemoryStore :=
  if f.write then m else m.writeHash key metadata.toFields

theorem failCreates_dropped (m : MemoryStore) (f : Failures) (index : String) :
    (m.dropped f index).failCreates = m.failCreates := by
  unfold dropped
  split <;> rfl

theorem createIndex_createArguments (m : MemoryStore) (index : IndexDefinition) :
    m.createIndex index.createArguments =
      if m.failCreates then (.error (.backend "FT.CREATE failed: injected failure"), m)
      else if m.indexes.contains index.name then (.error (.backend "Index already exists"), m)
      else (.ok (), m.withIndex index) := rfl

section Views

variable (m : MemoryStore) (config : Config) (f : Failures)

theorem seen?_view (index : String) :
    (m.view config index).seen? f =
      (m.readMetadata? f (config.metadataKey index)).map (·.fingerprint) := by
  unfold IndexView.seen? readMetadata?
  split <;> rfl

theorem view_dropped (index other : String) :
    (m.dropped f index).view config other =
      if index = other then (m.view config other).dropped f else m.view config other := by
  unfold dropped IndexView.dropped
  cases f.drop with
  | true => simp
  | false => by_cases h : index = other <;> simp [dropIndex, view, Table.get?_erase, h]

theorem view_withIndex (index : IndexDefinition) (other : String) :
    (m.withIndex index).view config other =
      if index.name = other then { m.view config other with live? := some index.createArguments }
      else m.view config other := by
  simp only [withIndex, view, Table.get?_insert]
  split <;> rfl

theorem view_recorded (index other : String) {metadata : IndexMetadata}
    (hmetadata : metadata.fingerprint ≠ "") :
    (m.recorded f (config.metadataKey index) metadata).view config other =
      if index = other then
        { m.view config other with
          stored? := if f.write then (m.view config other).stored? else some metadata.fingerprint }
      else m.view config other := by
  unfold recorded
  cases f.write with
  | true => simp
  | false =>
    by_cases h : index = other
    · subst h
      simp [view, writeHash, IndexMetadata.fingerprint_of_toFields hmetadata]
    · have hkey : config.metadataKey index ≠ config.metadataKey other := fun hkey =>
        h (config.metadataKey_injective hkey)
      simp [view, writeHash, Table.get?_insert, h, hkey]

end Views

end MemoryStore

/-! ## Commands on a probed store -/

namespace Probe

variable {σ : Type}

/-- The probe after a command that left the store in some state. -/
def after (p : Probe σ) (c : Command) (store : σ) : Probe σ :=
  { p with store := store, log := p.log ++ [c] }

theorem respond_of_some [Storage σ] {p : Probe σ} {c : Command} {e : StorageError}
    (h : p.fault? c.kind = some e) : Storage.respond c p = (.error e, p.after c p.store) := by
  have hlogged : (p.after c p.store).fault? c.kind = some e := h
  unfold after at hlogged ⊢
  simp only [Storage.respond, hlogged]

theorem respond_of_none [Storage σ] {p : Probe σ} {c : Command} (h : p.fault? c.kind = none)
    (hc : c.kind ≠ .search) :
    Storage.respond c p =
      ((Storage.respond c p.store).1, p.after c (Storage.respond c p.store).2) := by
  have hlogged : (p.after c p.store).fault? c.kind = none := h
  unfold after at hlogged ⊢
  simp only [Storage.respond, hlogged]
  cases c with
  | search arguments => exact absurd rfl hc
  | createIndex arguments | dropIndex index | readHash key | writeHash key fields => rfl

/-- Which commands fail on a store in memory behind a probe. -/
def failures (p : Probe MemoryStore) : Failures where
  read := (p.fault? .readHash).isSome
  drop := (p.fault? .dropIndex).isSome
  create := (p.fault? .createIndex).isSome || p.store.failCreates
  write := (p.fault? .writeHash).isSome

end Probe

namespace Probe

variable {p : Probe MemoryStore}

/-- A command does not change which commands fail. -/
theorem failures_after {m : MemoryStore} (c : Command) (h : m.failCreates = p.store.failCreates) :
    (p.after c m).failures = p.failures := by
  simp only [failures, after, fault?, h]

theorem respond_readHash (key : String) :
    metadataIn? (Storage.respond (.readHash key) p).1 = p.store.readMetadata? p.failures key ∧
      (Storage.respond (.readHash key) p).2 = p.after (.readHash key) p.store := by
  unfold failures
  cases h : p.fault? .readHash with
  | some e =>
    rw [respond_of_some (c := .readHash key) h]
    exact ⟨rfl, rfl⟩
  | none =>
    rw [respond_of_none (c := .readHash key) h nofun]
    exact ⟨rfl, rfl⟩

theorem respond_dropIndex (index : String) :
    (Storage.respond (.dropIndex index) p).2 =
      p.after (.dropIndex index) (p.store.dropped p.failures index) := by
  unfold failures
  cases h : p.fault? .dropIndex with
  | some e =>
    rw [respond_of_some (c := .dropIndex index) h]
    rfl
  | none =>
    rw [respond_of_none (c := .dropIndex index) h nofun]
    rfl

theorem respond_createIndex (index : IndexDefinition) :
    (Storage.respond (.createIndex index.createArguments) p).1.isOk =
        !(p.failures.create || p.store.indexes.contains index.name) ∧
      (Storage.respond (.createIndex index.createArguments) p).2 =
        p.after (.createIndex index.createArguments)
          (if p.failures.create || p.store.indexes.contains index.name then p.store
          else p.store.withIndex index) := by
  unfold failures
  cases h : p.fault? .createIndex with
  | some e =>
    rw [respond_of_some (c := .createIndex index.createArguments) h]
    exact ⟨rfl, rfl⟩
  | none =>
    rw [respond_of_none (c := .createIndex index.createArguments) h nofun]
    change (p.store.createIndex index.createArguments).1.isOk = _ ∧
      p.after _ (p.store.createIndex index.createArguments).2 = _
    rw [MemoryStore.createIndex_createArguments]
    dsimp only
    cases p.store.failCreates with
    | true => exact ⟨rfl, rfl⟩
    | false => cases p.store.indexes.contains index.name <;> exact ⟨rfl, rfl⟩

theorem respond_writeHash (key : String) (metadata : IndexMetadata) :
    (Storage.respond (.writeHash key metadata.toFields) p).2 =
      p.after (.writeHash key metadata.toFields) (p.store.recorded p.failures key metadata) := by
  unfold failures
  cases h : p.fault? .writeHash with
  | some e =>
    rw [respond_of_some (c := .writeHash key metadata.toFields) h]
    rfl
  | none =>
    rw [respond_of_none (c := .writeHash key metadata.toFields) h nofun]
    rfl

end Probe

/-! ## Bringing an index in step -/

/-- What bringing an index in step comes to above a store in memory, told by the view of the index and by
which commands fail. -/
theorem synchronise_probe (config : Config) (index : IndexDefinition) (w : World (Probe MemoryStore)) :
    let m := w.store.store
    let f := w.store.failures
    let v := m.view config index.name
    let key := config.metadataKey index.name
    let metadata := IndexMetadata.renewed (m.readMetadata? f key) index.fingerprint w.now
    let read := w.store.after (.readHash key) m
    let left := m.dropped f index.name
    let torn := (read.after (.dropIndex index.name) left).after (.createIndex index.createArguments)
    let outcome := synchronise config index w
    (v.seen? f = some index.fingerprint ∧ outcome.1 = .upToDate ∧ outcome.2.store = read) ∨
    (v.seen? f ≠ some index.fingerprint ∧ (f.create || (v.dropped f).live?.isSome) = true ∧
      outcome.1 = .failed ∧ outcome.2.store = torn left) ∨
    (v.seen? f ≠ some index.fingerprint ∧ (f.create || (v.dropped f).live?.isSome) = false ∧
      outcome.1 = .upToDate ∧
      outcome.2.store = (torn (left.withIndex index)).after (.writeHash key metadata.toFields)
        ((left.withIndex index).recorded f key metadata)) := by
  intro m f v key metadata read left torn outcome
  obtain ⟨-, hcases⟩ := synchronise_cases config index w
  -- Each command in turn; none of them changes which of the next ones fail.
  obtain ⟨hmetadata, hread⟩ := Probe.respond_readHash (p := w.store) key
  have hseen : (metadataIn? (Storage.respond (.readHash key) w.store).1).map (·.fingerprint) =
      v.seen? f := by
    rw [hmetadata, MemoryStore.seen?_view]
  have hfailures₁ : read.failures = f := Probe.failures_after _ rfl
  have hfailures₂ : (read.after (.dropIndex index.name) left).failures = f := by
    rw [← hfailures₁]
    exact Probe.failures_after _ (m.failCreates_dropped f index.name)
  have hfailures₃ : (torn (left.withIndex index)).failures = f := by
    rw [← hfailures₂]
    exact Probe.failures_after _ rfl
  have hdrop : (Storage.respond (.dropIndex index.name) read).2 =
      read.after (.dropIndex index.name) left := by
    rw [Probe.respond_dropIndex, hfailures₁]
    rfl
  have hlive : left.indexes.contains index.name = (v.dropped f).live?.isSome := by
    have hview := m.view_dropped config f index.name index.name
    rw [if_pos rfl] at hview
    exact congrArg (·.live?.isSome) hview
  obtain ⟨hok, hcreate⟩ :=
    Probe.respond_createIndex (p := read.after (.dropIndex index.name) left) index
  have hstore : (read.after (.dropIndex index.name) left).store = left := rfl
  rw [hfailures₂, hstore, hlive] at hok hcreate
  rw [hseen, hmetadata, hread, hdrop, hok, hcreate] at hcases
  rcases hcases with hdone | ⟨hunseen, hblocked, hstate, hstore⟩ |
    ⟨hunseen, hfree, hstate, hstore⟩
  · exact .inl hdone
  · rw [Bool.not_eq_false'] at hblocked
    rw [hblocked, if_pos rfl] at hstore
    exact .inr (.inl ⟨hunseen, hblocked, hstate, hstore⟩)
  · rw [Bool.not_eq_true'] at hfree
    rw [hfree, if_neg (by decide), Probe.respond_writeHash] at hstore
    change _ = Probe.after _ _
      (MemoryStore.recorded _ (torn (left.withIndex index)).failures _ _) at hstore
    rw [hfailures₃] at hstore
    exact .inr (.inr ⟨hunseen, hfree, hstate, hstore⟩)

section Effects

variable (config : Config) (index : IndexDefinition) (w : World (Probe MemoryStore))

/-- Bringing an index in step ends as the view says, and changes the view of that index only. -/
theorem synchronise_view :
    (synchronise config index w).1 =
        ((w.store.store.view config index.name).rebuild w.store.failures index).1 ∧
      ∀ other, (synchronise config index w).2.store.store.view config other =
        if index.name = other then
          ((w.store.store.view config index.name).rebuild w.store.failures index).2
        else w.store.store.view config other := by
  have hdropped := w.store.store.view_dropped config w.store.failures index.name
  rcases synchronise_probe config index w with
    ⟨hseen, hstate, hstore⟩ | ⟨hseen, hblocked, hstate, hstore⟩ |
      ⟨hseen, hfree, hstate, hstore⟩
  · rw [hstate, hstore, IndexView.rebuild_of_seen hseen]
    refine ⟨rfl, fun other => ?_⟩
    split
    · next h => rw [h]; rfl
    · rfl
  · rw [hstate, hstore, IndexView.rebuild_of_blocked hseen hblocked]
    refine ⟨rfl, fun other => (hdropped other).trans ?_⟩
    split
    · next h => rw [h]
    · rfl
  · rw [hstate, hstore, IndexView.rebuild_of_free hseen hfree]
    refine ⟨rfl, fun other => ?_⟩
    refine (MemoryStore.view_recorded _ config _ index.name other index.fingerprint_ne_empty).trans ?_
    rw [MemoryStore.view_withIndex, hdropped, IndexMetadata.fingerprint_renewed]
    split
    · next h => rw [h]
    · rfl

/-- Bringing an index in step asks the store something. -/
theorem log_synchronise :
    w.store.log.length < (synchronise config index w).2.store.log.length := by
  rcases synchronise_probe config index w with
    ⟨-, -, hstore⟩ | ⟨-, -, -, hstore⟩ | ⟨-, -, -, hstore⟩
  all_goals
    rw [hstore]
    simp [Probe.after]

end Effects

end RecordSearch
