import RecordSearch.Proofs.Clause.Compile
import RecordSearch.Proofs.Engine.Execution
import RecordSearch.Proofs.Engine.IndexView
import RecordSearch.Proofs.Query.Page
import RecordSearch.Proofs.Storage.Matching

/-!
# Page after page

An engine above a store in memory answers requests for pages of one query. The first of them may still
bring the index in step; from then on nothing that decides an answer changes, so the pages of one size
fit together, whichever are asked for and in whatever order. Each request compiles the query anew, and may
settle otherwise what it defers; that changes the text of the search, which a store in memory does not read.

## Main definitions

* `MemoryStore.Serves` — nothing fails, and an engine's index is live.
* `Query.IsAccepted`, `Searchable` — what has to hold when the first page is asked for.
* `matchedKeys` — the keys of the records that the query matches.
* `Page.Shows` — a page shows its window of some keys.

## Main results

* `execute_searchable` — one request is answered with its window, and the next finds the same matches.
* `execute_pages` — any requests in turn; all pages together hold every match once.
-/

namespace RecordSearch

/-! ## The index in step -/

/-- Nothing fails, and some version of the model's index is live. -/
structure MemoryStore.Serves (m : MemoryStore) (config : Config) (d : Descriptor) : Prop where
  searches : m.failSearches = false
  creates : m.failCreates = false
  live : ∃ version index, IndexDefinition.ofDescriptor? version config.scope? = some index ∧
    index.name = physicalName d.indexName config.scope? ∧
    m.indexes.get? index.name = some index.createArguments

theorem MemoryStore.Serves.keyStart? {m : MemoryStore} {config : Config} {d : Descriptor}
    (h : m.Serves config d) :
    m.keyStart? (physicalName d.indexName config.scope?) =
      some (keyStart (physicalName d.indexName config.scope?)) := by
  obtain ⟨version, index, hindex, hname, hlive⟩ := h.live
  -- Every version of the index was created with the prefix that belongs to its name.
  rw [MemoryStore.keyStart?, ← hname, hlive, ← keyStart_of_ofDescriptor? hindex]
  rfl

/-- With nothing failing, an index is always brought in step: nothing is done, or it is created anew. -/
theorem synchronise_memory (config : Config) (index : IndexDefinition) {w : World MemoryStore}
    (h : w.store.failCreates = false) :
    (synchronise config index w).1 = .upToDate ∧
      (synchronise config index w).2.descriptors = w.descriptors ∧
      ((synchronise config index w).2.store = w.store ∨
        ∃ fields, (synchronise config index w).2.store =
          ((w.store.dropIndex index.name).2.withIndex index).writeHash
            (config.metadataKey index.name) fields) := by
  obtain ⟨hdescriptors, hcases⟩ := synchronise_cases config index w
  let left := (w.store.dropIndex index.name).2
  have hread : (Storage.respond (.readHash (config.metadataKey index.name)) w.store).2 = w.store := rfl
  have hdrop : (Storage.respond (.dropIndex index.name) w.store).2 = left := rfl
  have hfree : left.indexes.contains index.name = false := by
    have hgone : left.indexes.get? index.name = none :=
      (Table.get?_erase w.store.indexes index.name index.name).trans (if_pos rfl)
    rw [Table.contains, hgone]
    rfl
  have hcreate : Storage.respond (.createIndex index.createArguments) left =
      (.ok (), left.withIndex index) := by
    have hcreates : left.failCreates = false := h
    change left.createIndex index.createArguments = _
    rw [MemoryStore.createIndex_createArguments, hcreates, hfree]
    rfl
  rw [hread, hdrop, hcreate] at hcases
  rcases hcases with ⟨-, hstate, hstore⟩ | ⟨-, hfailed, -⟩ | ⟨-, -, hstate, hstore⟩
  · exact ⟨hstate, hdescriptors, .inl hstore⟩
  · contradiction
  · exact ⟨hstate, hdescriptors, .inr ⟨_, hstore⟩⟩

/-- An index that is in step, or comes to be, answers searches. -/
structure InStep (config : Config) (d : Descriptor) (s : Synchronizer) (w : World MemoryStore) :
    Prop where
  indexed : d.isIndexed = true
  known : s.state (physicalName d.indexName config.scope?) ≠ .notIndexed
  serves : w.store.Serves config d

section InStep

variable {config : Config} {d : Descriptor} {s : Synchronizer} {w : World MemoryStore}

theorem serves_synchronise {index : IndexDefinition}
    (hindex : IndexDefinition.ofDescriptor? d config.scope? = some index)
    (h : w.store.Serves config d) : (synchronise config index w).2.store.Serves config d := by
  obtain ⟨-, -, hstore | ⟨fields, hstore⟩⟩ := synchronise_memory config index h.creates
  · rw [hstore]
    exact h
  · rw [hstore]
    refine ⟨h.searches, h.creates, d, index, hindex, name_of_ofDescriptor? hindex, ?_⟩
    exact Table.get?_insert_self _ _ _

/-- Bringing the index in step keeps it answering, and the next time nothing is left to do. -/
theorem InStep.ensureIndex (h : InStep config d s w) :
    (ensureIndex config d s w).1.1 ≠ .notIndexed ∧
      (ensureIndex config d s w).2.descriptors = w.descriptors ∧
      InStep config d (ensureIndex config d s w).1.2 (ensureIndex config d s w).2 ∧
      ((ensureIndex config d s w).1.2.state
        (physicalName d.indexName config.scope?)).isTerminal = true := by
  cases hstate : (s.state (physicalName d.indexName config.scope?)).isTerminal with
  | true =>
    rw [ensureIndex_of_isTerminal hstate]
    exact ⟨h.known, rfl, h, hstate⟩
  | false =>
    obtain ⟨index, hindex⟩ := exists_ofDescriptor? h.indexed config.scope?
    obtain ⟨hresult, hdescriptors, -⟩ := synchronise_memory config index h.serves.creates
    have hsettled : (s.settle index (synchronise config index w).1).state
        (physicalName d.indexName config.scope?) = .upToDate := by
      rw [Synchronizer.state_settle, if_pos (name_of_ofDescriptor? hindex), hresult]
    rw [ensureIndex_of_some hstate hindex]
    refine ⟨?_, hdescriptors, ⟨h.indexed, ?_, serves_synchronise hindex h.serves⟩, ?_⟩
    · rw [hresult]
      decide
    · rw [hsettled]
      decide
    · rw [hsettled]
      rfl

end InStep

/-! ## One search -/

theorem MemoryStore.search_searchArguments {m : MemoryStore} {index start : String}
    (hsearches : m.failSearches = false) (hstart : m.keyStart? index = some start) {q : CompiledQuery}
    (hnames : q.returnFields.length < 2 ^ 64) (page pageSize : UInt64) (dialect : UInt32) :
    m.search (searchArguments index q page pageSize dialect) =
      .ok (m.searchReply start (q.options page pageSize)) := by
  have hread := SearchOptions.read_searchArguments index page pageSize dialect hnames
  obtain ⟨rest, hrest⟩ : ∃ rest, searchArguments index q page pageSize dialect = index :: rest :=
    ⟨_, rfl⟩
  rw [hrest] at hread ⊢
  unfold MemoryStore.search
  rw [hsearches, if_neg (by decide)]
  dsimp only
  rw [hstart]
  dsimp only
  rw [List.drop_succ_cons] at hread
  rw [hread]
  rfl

section Search

variable {config : Config} {d : Descriptor} {w : World MemoryStore}

/-- A search succeeds, and changes nothing but what is recorded of it. -/
theorem runSearch_serves (h : w.store.Serves config d) {q : CompiledQuery}
    (hnames : q.returnFields.length < 2 ^ 64) (hfew : w.store.hashes.size < 2 ^ 63)
    (page pageSize : UInt64) :
    let index := physicalName d.indexName config.scope?
    let outcome := runSearch config index (keyStart index) q page pageSize w
    outcome.1 = .ok (w.store.pageOf (keyStart index) (q.options page pageSize) pageSize) ∧
      outcome.2.descriptors = w.descriptors ∧
      ∃ searches, outcome.2.store = { w.store with searches := searches } := by
  intro index outcome
  have hsearch := MemoryStore.search_searchArguments h.searches h.keyStart? hnames page pageSize
    config.dialect
  have hpage := ofReply_searchReply w.store (keyStart index) (q.options page pageSize) pageSize
    (Nat.lt_of_le_of_lt (MemoryStore.length_matching_le _ _ _) hfew)
  have hcontent : (!(q.options page pageSize).noContent) = q.withContent := Bool.not_not _
  rw [hcontent] at hpage
  let arguments := searchArguments index q page pageSize config.dialect
  let searched : World MemoryStore :=
    { w with store := { w.store with searches := w.store.searches ++ [arguments] } }
  have hfetch : fetchPage config index (keyStart index) q page pageSize w =
      (.ok (w.store.pageOf (keyStart index) (q.options page pageSize) pageSize),
        (note .searchTimed searched).2) := by
    have hsend : send (.search arguments) w = (w.store.search arguments, searched) := rfl
    unfold fetchPage
    rw [StateM.bind_apply, hsend, hsearch, ← hpage]
    rfl
  have houtcome : outcome = (runSearch config index (keyStart index) q page pageSize w) := rfl
  unfold runSearch at houtcome
  rw [StateM.bind_apply, hfetch] at houtcome
  rw [houtcome]
  exact ⟨rfl, rfl, _, rfl⟩

end Search

/-! ## One request -/

/-- The store once the model's index is in step, which is the store as it is unless the index has to be
created anew. -/
def storeInStep (config : Config) (m : Model) (s : Synchronizer) (w : World MemoryStore) : MemoryStore :=
  (ensureIndex config (describe m w).1 s (describe m w).2).2.store

/-- The query compiles. -/
def Query.IsAccepted (q : Query Value) (d : Descriptor) : Prop :=
  ∃ compiled, q.compile d = .ok compiled

/-- What has to hold when a page of a query is asked for: the query compiles however it is settled, the index
answers, and neither the records nor the names of the fields to return are more than can be counted in a
reply and in a request. -/
structure Searchable (config : Config) (m : Model) (q : Query Deferral) (s : Synchronizer)
    (w : World MemoryStore) : Prop where
  accepted : ∀ k, (q.asOf k).IsAccepted (describe m w).1
  inStep : InStep config (describe m w).1 s (describe m w).2
  few : (storeInStep config m s w).hashes.size < 2 ^ 63
  names : q.returnFields.length < 2 ^ 64

/-- What the keys of a model's records start with. -/
def modelStart (config : Config) (m : Model) (w : World MemoryStore) : String :=
  keyStart (physicalName (describe m w).1.indexName config.scope?)

/-- The keys of the records that a query matches, in the query's order, once the index is in step. -/
def matchedKeys (config : Config) (m : Model) (q : Query Deferral) (s : Synchronizer)
    (w : World MemoryStore) : List String :=
  (storeInStep config m s w).matchingKeys (modelStart config m w)
    (q.sorting?.map fun o => (o.field, decide (o.direction = .descending)))

/-- A page shows its window of some keys, and counts all of them. -/
structure Page.Shows (found : Page) (start : String) (keys : List String) (page pageSize : UInt64) :
    Prop where
  totalCount : found.totalCount.toNat = keys.length
  totalPages : found.totalPages.toNat = (keys.length + pageSize.toNat - 1) / pageSize.toNat
  ids : found.ids.map (start ++ ·) = (keys.drop (page.toNat * pageSize.toNat)).take pageSize.toNat

/-- The window of a page; a page of size zero takes one record. -/
theorem window_options (m : MemoryStore) (start : String) (q : CompiledQuery)
    (page pageSize : UInt64) :
    m.window start (q.options page pageSize) =
      ((m.matching start (q.options page pageSize).sorting?).drop (pageOffset page pageSize)).take
        (max pageSize.toNat 1) := by
  have hoffset : (q.options page pageSize).offset.toNat = pageOffset page pageSize :=
    UInt64.toNat_ofNat_of_lt' (SearchOptions.pageOffset_lt page pageSize)
  have hcount : (q.options page pageSize).count.toNat = max pageSize.toNat 1 := by
    have hsize := pageSize.toNat_lt
    have hword : max pageSize.toNat 1 < 2 ^ 64 := by omega
    exact UInt64.toNat_ofNat_of_lt' hword
  rw [MemoryStore.window, hoffset, hcount]

/-- The keys in a window of the matches, whose size and start are read from a query's options. -/
theorem map_fst_window (m : MemoryStore) (hfew : m.hashes.size < 2 ^ 63) (start : String)
    (q : CompiledQuery) (page : UInt64) {pageSize : UInt64} (hsize : pageSize ≠ 0) :
    (m.window start (q.options page pageSize)).map Prod.fst =
      ((m.matchingKeys start (q.options page pageSize).sorting?).drop
        (page.toNat * pageSize.toNat)).take pageSize.toNat := by
  have hlength : (m.matching start (q.options page pageSize).sorting?).length ≤ maxWord := by
    have hle := m.length_matching_le start (q.options page pageSize).sorting?
    have hword : 2 ^ 63 ≤ maxWord := by decide
    omega
  have hmax : max pageSize.toNat 1 = pageSize.toNat := Nat.max_eq_left (toNat_pos_of_ne_zero hsize)
  rw [window_options, hmax, drop_pageOffset hlength, MemoryStore.matchingKeys, List.map_take,
    List.map_drop]

theorem pageOf_shows {m : MemoryStore} (hfew : m.hashes.size < 2 ^ 63) (start : String)
    (q : CompiledQuery) (page : UInt64) {pageSize : UInt64} (hsize : pageSize ≠ 0) :
    (m.pageOf start (q.options page pageSize) pageSize).Shows start
      (m.matchingKeys start (q.options page pageSize).sorting?) page pageSize := by
  have hlength : (m.matching start (q.options page pageSize).sorting?).length < 2 ^ 63 :=
    Nat.lt_of_le_of_lt (m.length_matching_le _ _) hfew
  have htotal : (UInt64.ofNat (m.matching start (q.options page pageSize).sorting?).length).toNat =
      (m.matchingKeys start (q.options page pageSize).sorting?).length := by
    rw [MemoryStore.matchingKeys, List.length_map]
    exact UInt64.toNat_ofNat_of_lt' (Nat.lt_trans hlength (by decide))
  refine ⟨htotal, ?_, ?_⟩
  · rw [← htotal]
    exact toNat_pageCount _ hsize
  · -- Every match has the prefix, so what was cut off its key can be put back.
    rw [← map_fst_window m hfew start q page hsize]
    change ((m.window start _).map fun e => stripStart start e.1).map (start ++ ·) = _
    rw [List.map_map]
    apply List.map_congr_left
    intro e he
    have hmatch := List.mem_of_mem_drop (List.mem_of_mem_take he)
    exact append_stripStart ((m.mem_matching start _).1 hmatch).2

section Requests

variable {config : Config} {m : Model} {q : Query Deferral} {s : Synchronizer} {w : World MemoryStore}

/-- A query that compiles, over an index that is not refused, is one search in the world in step. -/
theorem execute_of_compile {q : Query Value} {compiled : CompiledQuery}
    (hcompile : q.compile (describe m w).1 = .ok compiled)
    (hstate : (ensureIndex config (describe m w).1 s (describe m w).2).1.1 ≠ .notIndexed)
    (page pageSize : UInt64) :
    let step := ensureIndex config (describe m w).1 s (describe m w).2
    let index := physicalName (describe m w).1.indexName config.scope?
    let outcome := runSearch config index (keyStart index) compiled page pageSize step.2
    execute m q page pageSize config s w = ((outcome.1, step.1.2), outcome.2) := by
  rw [execute_eq_find]
  exact Lookup.find_of_indexed hcompile hstate

/-- One request is answered with its window, and the next finds the same matches. -/
theorem execute_searchable (h : Searchable config m q s w) (k : Nat) (page : UInt64) {pageSize : UInt64}
    (hsize : pageSize ≠ 0) :
    let outcome := execute m (q.asOf k) page pageSize config s w
    (∃ found, outcome.1.1 = .ok found ∧
      found.Shows (modelStart config m w) (matchedKeys config m q s w) page pageSize) ∧
    Searchable config m q outcome.1.2 outcome.2 ∧
    modelStart config m outcome.2 = modelStart config m w ∧
    matchedKeys config m q outcome.1.2 outcome.2 = matchedKeys config m q s w := by
  obtain ⟨compiled, hcompile⟩ := h.accepted k
  obtain ⟨texts, -, -, -, hcompiled⟩ := Query.compile_eq_ok_iff.1 hcompile
  obtain ⟨hstate, hdescriptors, hstep, hterminal⟩ := h.inStep.ensureIndex
  have hnames : compiled.returnFields.length < 2 ^ 64 := by
    rw [← hcompiled]
    exact h.names
  obtain ⟨hfound, hkept, searches, hstore⟩ :=
    runSearch_serves hstep.serves hnames h.few page pageSize
  rw [execute_of_compile hcompile hstate]
  intro outcome
  have hdescribe : describe m outcome.2 = ((describe m w).1, outcome.2) :=
    describe_of_descriptors_eq (hkept.trans hdescriptors)
  have hensure := ensureIndex_of_isTerminal hterminal outcome.2
  have hshows := pageOf_shows h.few (modelStart config m w) compiled page hsize
  have hsorting : (compiled.options page pageSize).sorting? =
      q.sorting?.map fun o => (o.field, decide (o.direction = .descending)) := by
    rw [← hcompiled]
    rfl
  have hserves : outcome.2.store.Serves config (describe m w).1 := by
    rw [hstore]
    exact ⟨hstep.serves.searches, hstep.serves.creates, hstep.serves.live⟩
  refine ⟨⟨_, hfound, ?_⟩, ⟨?_, ?_, ?_, h.names⟩, ?_, ?_⟩
  · rw [hsorting] at hshows
    exact hshows
  · rw [hdescribe]
    exact h.accepted
  · rw [hdescribe]
    exact ⟨hstep.indexed, hstep.known, hserves⟩
  · rw [storeInStep, hdescribe]
    dsimp only
    rw [hensure, hstore]
    exact h.few
  · rw [modelStart, hdescribe]
    rfl
  · rw [matchedKeys, storeInStep, modelStart, hdescribe]
    dsimp only
    rw [hensure, hstore]
    rfl

/-! ## Requests in turn -/

/-- Requests are answered one after another, each with its window of the same keys. -/
theorem exists_pages (h : Searchable config m q s w) {pageSize : UInt64} (hsize : pageSize ≠ 0)
    (requests : List (Nat × UInt64)) :
    ∃ pages,
      ((requests.mapM fun r => execute m (q.asOf r.1) r.2 pageSize config) s w).1.1 = .ok pages ∧
        List.Forall₂
          (fun r found =>
            Page.Shows found (modelStart config m w) (matchedKeys config m q s w) r.2 pageSize)
          requests pages := by
  induction requests generalizing s w with
  | nil => exact ⟨[], rfl, .nil⟩
  | cons r requests ih =>
    obtain ⟨⟨found, hfound, hshows⟩, hnext, hstart, hkeys⟩ := execute_searchable h r.1 r.2 hsize
    obtain ⟨pages, hpages, hall⟩ := ih hnext
    rw [hstart, hkeys] at hall
    refine ⟨found :: pages, ?_, .cons hshows hall⟩
    rw [List.mapM_cons, QueryM.bind_of_ok hfound, QueryM.bind_of_ok hpages]
    rfl

/-- A page is empty exactly if it lies at or behind the number of pages. -/
theorem Page.Shows.ids_eq_nil_iff {found : Page} {start : String} {keys : List String}
    {page pageSize : UInt64} (h : found.Shows start keys page pageSize) (hsize : pageSize ≠ 0) :
    found.ids = [] ↔ found.totalPages ≤ page := by
  rw [UInt64.le_iff_toNat_le, h.totalPages,
    ← drop_take_eq_nil_iff (toNat_pos_of_ne_zero hsize), ← h.ids, List.map_eq_nil_iff]

/-- The ids of some pages, one after another, are their windows. -/
theorem map_flatMap_ids_of_shows {start : String} {keys : List String} {pageSize : UInt64}
    {requests : List (Nat × UInt64)} {pages : List Page}
    (h : List.Forall₂ (fun r found => Page.Shows found start keys r.2 pageSize) requests pages) :
    (pages.flatMap (·.ids)).map (start ++ ·) =
      (requests.map Prod.snd).flatMap fun page =>
        (keys.drop (page.toNat * pageSize.toNat)).take pageSize.toNat := by
  induction h with
  | nil => rfl
  | cons hshows _ ih =>
    rw [List.flatMap_cons, List.map_append, List.map_cons, List.flatMap_cons, ih, hshows.ids]

/-- The numbers of all pages. -/
def allPages (total : Nat) (pageSize : UInt64) : List UInt64 :=
  (List.range ((total + pageSize.toNat - 1) / pageSize.toNat)).map UInt64.ofNat

/-- The windows of all pages are all keys. -/
theorem flatMap_allPages {keys : List String} (hkeys : keys.length < 2 ^ 63) {pageSize : UInt64}
    (hsize : pageSize ≠ 0) :
    ((allPages keys.length pageSize).flatMap fun page =>
      (keys.drop (page.toNat * pageSize.toNat)).take pageSize.toNat) = keys := by
  have hpos := toNat_pos_of_ne_zero hsize
  have hbound := Nat.le_mul_of_pos_left keys.length hpos
  have hfew : (keys.length + pageSize.toNat - 1) / pageSize.toNat ≤ keys.length := by
    rw [Nat.div_le_iff_le_mul_add_pred hpos]
    omega
  have hcover := (Nat.div_le_iff_le_mul_add_pred hpos).1
    (Nat.le_refl ((keys.length + pageSize.toNat - 1) / pageSize.toNat))
  have hwindows : ∀ p ∈ List.range ((keys.length + pageSize.toNat - 1) / pageSize.toNat),
      (keys.drop ((UInt64.ofNat p).toNat * pageSize.toNat)).take pageSize.toNat =
        (keys.drop (p * pageSize.toNat)).take pageSize.toNat := by
    intro p hp
    have hlt := List.mem_range.1 hp
    have hword : p < 2 ^ 64 := by omega
    rw [UInt64.toNat_ofNat_of_lt' hword]
  rw [allPages, List.flatMap_map, List.flatMap_congr hwindows, flatMap_drop_take]
  apply List.take_of_length_le
  rw [Nat.mul_comm]
  omega

/-- Any requests for pages of one query, each as some compilation settles it, are answered in turn: each page
counts all matches and shows its window of them, empty exactly at or behind the number of pages; all pages
together show every match once, in order. -/
theorem execute_pages (h : Searchable config m q s w) {pageSize : UInt64} (hsize : pageSize ≠ 0) :
    let start := modelStart config m w
    let keys := matchedKeys config m q s w
    (∀ requests : List (Nat × UInt64), ∃ pages,
      ((requests.mapM fun r => execute m (q.asOf r.1) r.2 pageSize config) s w).1.1 = .ok pages ∧
        List.Forall₂ (fun r found => Page.Shows found start keys r.2 pageSize ∧
          (found.ids = [] ↔ found.totalPages ≤ r.2)) requests pages ∧
        (requests.map Prod.snd = allPages keys.length pageSize →
          (pages.flatMap (·.ids)).map (start ++ ·) = keys)) ∧
    keys.Nodup ∧
    ∀ key, key ∈ keys ↔
      (storeInStep config m s w).hashes.contains key = true ∧ hasStart start key = true := by
  intro start keys
  refine ⟨fun requests => ?_, MemoryStore.nodup_matchingKeys _ _ _, fun key =>
    MemoryStore.mem_matchingKeys _ _ _⟩
  obtain ⟨pages, hpages, hall⟩ := exists_pages h hsize requests
  have hwindows := hall.imp fun r found hshows =>
    And.intro hshows (hshows.ids_eq_nil_iff hsize)
  refine ⟨pages, hpages, hwindows, ?_⟩
  intro hrequests
  have hfew : keys.length < 2 ^ 63 := by
    refine Nat.lt_of_le_of_lt ?_ h.few
    rw [show keys.length = _ from List.length_map _]
    exact MemoryStore.length_matching_le _ _ _
  rw [map_flatMap_ids_of_shows hall, hrequests]
  exact flatMap_allPages hfew hsize

end Requests

/-- Notes with a rank. -/
def noteModel : Model := ⟨"Note", ⟨"notes", [⟨"rank", .numeric, true, .int64⟩], []⟩⟩

/-- The notes from some rank on, which rises, with their rank. -/
def noteQuery : Query Deferral where
  filters := [.compare "rank" .ge (.deferred fun k => .int (.ofNat k))]
  withContent := true
  returnFields := ["rank"]

/-- Three notes and something else. -/
def noteWorld : World MemoryStore where
  now := ⟨0, 0⟩
  store :=
    { hashes := .ofList [("notes:1", .ofList [("rank", "2")]), ("other:1", .ofList [("rank", "4")]),
        ("notes:3", .ofList [("rank", "3")]), ("notes:2", .empty)]
      indexes := .ofList [("notes",
        ["notes", "ON", "HASH", "PREFIX", "1", "notes:", "SCHEMA", "rank", "NUMERIC", "SORTABLE"])] }

/-- Three notes fill two pages of two, each asked for with a rank of its own. -/
theorem execute_pages_of_notes :
    Searchable {} noteModel noteQuery {} noteWorld ∧
    ∃ pages,
      (([(4, 0), (5, 1)].mapM fun r => execute noteModel (noteQuery.asOf r.1) r.2 2 {}) {}
          noteWorld).1.1 = .ok pages ∧
        (pages.flatMap (·.ids)).map ("notes:" ++ ·) = ["notes:1", "notes:2", "notes:3"] := by
  have hsearchable : Searchable {} noteModel noteQuery {} noteWorld := by
    have hlive : noteWorld.store.Serves {} noteModel.descriptor :=
      ⟨rfl, rfl, noteModel.descriptor, _, rfl, rfl, by decide +kernel⟩
    exact ⟨fun k => ⟨_, rfl⟩, ⟨rfl, by decide, hlive⟩, by decide +kernel, by decide⟩
  have hkeys : matchedKeys {} noteModel noteQuery {} noteWorld = ["notes:1", "notes:2", "notes:3"] := by
    decide +kernel
  have hsize : (2 : UInt64) ≠ 0 := by decide
  obtain ⟨pages, hpages, -, hall⟩ := (execute_pages hsearchable hsize).1 [(4, 0), (5, 1)]
  refine ⟨hsearchable, pages, hpages, ?_⟩
  rw [hkeys] at hall
  exact hall rfl

end RecordSearch
