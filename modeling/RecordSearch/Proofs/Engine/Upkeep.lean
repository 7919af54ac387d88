import RecordSearch.Proofs.Engine.IndexView

/-!
# What bringing an index in step takes and gives

A store in memory has two places for an index: the hash of its record, and the arguments it was created
with. Bringing the index in step looks at these two alone and changes these two alone, so what happens to
a whole store is read from what happens to the two of them and put back.

## Main definitions

* `Holding`, `MemoryStore.holding` — what is in the two places.
* `Upkeep`, `Holding.upkeep` — what becomes of them, and how bringing the index in step ends.
* `MemoryStore.kept` — a store with the outcome put in its places.

## Main results

* `synchronise_upkeep` — bringing an index in step comes to what its holding says.
* `MemoryStore.holding_kept`, `MemoryStore.kept_comm` — the places of different indexes do not overlap.
-/

namespace RecordSearch

namespace Table

variable {α : Type} (t : Table α)

/-- The table with a value in a place, or with nothing there. -/
def set (key : String) : Option α → Table α
  | some value => t.insert key value
  | none => t.erase key

theorem get?_set (key other : String) (value? : Option α) :
    (t.set key value?).get? other = if key = other then value? else t.get? other := by
  cases value? with
  | none => exact t.get?_erase key other
  | some value => exact t.get?_insert key other value

@[simp]
theorem set_get? (key : String) : t.set key (t.get? key) = t := by
  apply ext_get?
  intro other
  rw [get?_set]
  split
  · next h => rw [h]
  · rfl

theorem set_set (key : String) (a? b? : Option α) : (t.set key a?).set key b? = t.set key b? := by
  apply ext_get?
  intro other
  simp only [get?_set]
  split <;> rfl

theorem set_comm {a b : String} (h : a ≠ b) (a? b? : Option α) :
    (t.set a a?).set b b? = (t.set b b?).set a a? := by
  apply ext_get?
  intro other
  simp only [get?_set]
  by_cases ha : a = other
  · subst ha
    simp [h.symm]
  · simp [ha]

end Table

/-- All that a store in memory holds about one index. -/
structure Holding where
  record? : Option (Table String)
  /-- What the index was created with, if it is live. -/
  live? : Option (List String)
  deriving DecidableEq, Repr

/-- How bringing an index in step ends, what is held about it then, and how often it was created and
dropped for that. -/
structure Upkeep where
  state : IndexState
  holding : Holding
  creates : Nat := 0
  drops : Nat := 0
  deriving DecidableEq, Repr

namespace Holding

/-- The metadata on record. -/
def metadata? (h : Holding) : Option IndexMetadata :=
  IndexMetadata.ofFields? (h.record?.getD .empty)

/-- What decides about bringing the index in step. -/
def view (h : Holding) : IndexView where
  live? := h.live?
  stored? := h.metadata?.map (·.fingerprint)

/-- The metadata that a synchronizer gets to see. -/
def readMetadata? (h : Holding) (f : Failures) : Option IndexMetadata :=
  if f.read then none else h.metadata?

/-- What is left after the index was to be dropped. -/
def dropped (h : Holding) (f : Failures) : Holding :=
  if f.drop then h else { h with live? := none }

/-- What is held once the index is created, at some time. -/
def created (h : Holding) (f : Failures) (now : Instant) (i : IndexDefinition) : Holding where
  record? :=
    if f.write then h.record?
    else some ((h.record?.getD .empty).insertAll
      (IndexMetadata.renewed (h.readMetadata? f) i.fingerprint now).toFields)
  live? := some i.createArguments

/-- What becomes of a holding when the index is brought in step. -/
def upkeep (h : Holding) (f : Failures) (now : Instant) (i : IndexDefinition) : Upkeep :=
  if h.view.seen? f = some i.fingerprint then ⟨.upToDate, h, 0, 0⟩
  else
    let drops := if f.drop then 0 else 1
    if f.create || (h.view.dropped f).live?.isSome then ⟨.failed, h.dropped f, 0, drops⟩
    else ⟨.upToDate, h.created f now i, 1, drops⟩

section

variable {h : Holding} {f : Failures} {now : Instant} {i : IndexDefinition}

theorem upkeep_of_seen (hseen : h.view.seen? f = some i.fingerprint) :
    h.upkeep f now i = ⟨.upToDate, h, 0, 0⟩ :=
  if_pos hseen

theorem upkeep_of_blocked (hseen : h.view.seen? f ≠ some i.fingerprint)
    (hblocked : (f.create || (h.view.dropped f).live?.isSome) = true) :
    h.upkeep f now i = ⟨.failed, h.dropped f, 0, if f.drop then 0 else 1⟩ :=
  (if_neg hseen).trans (if_pos hblocked)

theorem upkeep_of_free (hseen : h.view.seen? f ≠ some i.fingerprint)
    (hfree : (f.create || (h.view.dropped f).live?.isSome) = false) :
    h.upkeep f now i = ⟨.upToDate, h.created f now i, 1, if f.drop then 0 else 1⟩ :=
  (if_neg hseen).trans (if_neg (Bool.not_eq_true _ ▸ hfree))

theorem record?_dropped : (h.dropped f).record? = h.record? := by
  unfold dropped
  split <;> rfl

end

end Holding

namespace MemoryStore

/-- What the store holds about the index of a name. -/
def holding (m : MemoryStore) (config : Config) (name : String) : Holding where
  record? := m.hashes.get? (config.metadataKey name)
  live? := m.indexes.get? name

/-- The store after the index of a name was brought in step. -/
def kept (m : MemoryStore) (config : Config) (name : String) (u : Upkeep) : MemoryStore :=
  { m with
    hashes := m.hashes.set (config.metadataKey name) u.holding.record?
    indexes := m.indexes.set name u.holding.live?
    creates := m.creates + u.creates
    drops := m.drops + u.drops }

variable (m : MemoryStore) (config : Config) (f : Failures)

/-- The places of other indexes keep what they hold. -/
theorem holding_kept (name other : String) (u : Upkeep) :
    (m.kept config name u).holding config other =
      if name = other then u.holding else m.holding config other := by
  by_cases h : name = other
  · subst h
    simp [holding, kept, Table.get?_set]
  · have hkey : config.metadataKey name ≠ config.metadataKey other := fun hkey =>
      h (config.metadataKey_injective hkey)
    simp [holding, kept, Table.get?_set, h, hkey]

/-- Two indexes can be put in their places in either order. -/
theorem kept_comm {a b : String} (h : a ≠ b) (u v : Upkeep) :
    (m.kept config a u).kept config b v = (m.kept config b v).kept config a u := by
  have hkey : config.metadataKey a ≠ config.metadataKey b := fun hkey =>
    h (config.metadataKey_injective hkey)
  simp only [kept, Table.set_comm _ hkey, Table.set_comm _ h, Nat.add_right_comm]

/-- Of two outcomes put in one place the later stays, and both count. -/
theorem kept_kept (name : String) (u v : Upkeep) :
    (m.kept config name u).kept config name v =
      m.kept config name ⟨v.state, v.holding, u.creates + v.creates, u.drops + v.drops⟩ := by
  simp only [kept, Table.set_set, Nat.add_assoc]

theorem kept_of_holding (name : String) (state : IndexState) :
    m.kept config name ⟨state, m.holding config name, 0, 0⟩ = m := by
  simp only [kept, holding, Table.set_get?, Nat.add_zero]

/-! Each command changes the holding of its index. -/

theorem dropped_eq_kept (name : String) (state : IndexState) :
    m.dropped f name =
      m.kept config name
        ⟨state, (m.holding config name).dropped f, 0, if f.drop then 0 else 1⟩ := by
  unfold dropped Holding.dropped
  cases f.drop with
  | true => exact (m.kept_of_holding config name state).symm
  | false =>
    simp only [Bool.false_eq_true, if_false, kept, holding, Table.set_get?]
    rfl

theorem withIndex_eq_kept (i : IndexDefinition) (state : IndexState) :
    m.withIndex i =
      m.kept config i.name
        ⟨state, { m.holding config i.name with live? := some i.createArguments }, 1, 0⟩ := by
  simp only [kept, holding, Table.set_get?]
  rfl

theorem recorded_eq_kept (name : String) (metadata : IndexMetadata) (state : IndexState) :
    m.recorded f (config.metadataKey name) metadata =
      m.kept config name ⟨state, { m.holding config name with
        record? := if f.write then (m.holding config name).record?
          else some (((m.holding config name).record?.getD .empty).insertAll metadata.toFields) },
        0, 0⟩ := by
  unfold recorded
  cases f.write with
  | true => exact (m.kept_of_holding config name state).symm
  | false =>
    simp only [kept, holding, Table.set_get?]
    rfl

/-- So do all of them together. -/
theorem kept_created (i : IndexDefinition) (now : Instant) (state : IndexState) :
    m.kept config i.name
        ⟨state, (m.holding config i.name).created f now i, 1, if f.drop then 0 else 1⟩ =
      ((m.dropped f i.name).withIndex i).recorded f (config.metadataKey i.name)
        (.renewed (m.readMetadata? f (config.metadataKey i.name)) i.fingerprint now) := by
  rw [dropped_eq_kept m config f i.name state, withIndex_eq_kept _ config i state, kept_kept,
    recorded_eq_kept _ config f i.name _ state, kept_kept]
  simp only [holding_kept, if_true, Holding.record?_dropped, Nat.add_zero, Nat.zero_add]
  rfl

end MemoryStore

section Synchronise

variable (config : Config) (index : IndexDefinition) (w : World (Probe MemoryStore))

/-- Bringing an index in step comes to what its holding says, which commands fail and what time it is. -/
theorem synchronise_upkeep :
    let u := (w.store.store.holding config index.name).upkeep w.store.failures w.now index
    (synchronise config index w).1 = u.state ∧
      (synchronise config index w).2.store.store = w.store.store.kept config index.name u := by
  intro u
  -- The view of the index in the store is that of its holding, so the cases are the same.
  rcases synchronise_probe config index w with
    ⟨hunchanged, hstate, hstore⟩ | ⟨hchanged, hblocked, hstate, hstore⟩ |
      ⟨hchanged, hfree, hstate, hstore⟩
  · have hu : u = _ := Holding.upkeep_of_seen hunchanged
    rw [hstate, hstore, hu, MemoryStore.kept_of_holding]
    exact ⟨rfl, rfl⟩
  · have hu : u = _ := Holding.upkeep_of_blocked hchanged hblocked
    rw [hstate, hstore, hu, ← MemoryStore.dropped_eq_kept]
    exact ⟨rfl, rfl⟩
  · have hu : u = _ := Holding.upkeep_of_free hchanged hfree
    rw [hstate, hstore, hu, MemoryStore.kept_created]
    exact ⟨rfl, rfl⟩

theorem now_synchronise : (synchronise config index w).2.now = w.now := by
  rw [synchronise_apply]

end Synchronise

end RecordSearch
