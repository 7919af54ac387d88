import RecordSearch.Proofs.Clause.Offence
import RecordSearch.Proofs.Engine.Terminals
import RecordSearch.Proofs.Index.Metadata

/-!
# Rows of a selection

Selecting fields of a page compiles the query and searches anew, with content, and pairs the ids of the
reply with its documents by position. A document is a list of names and values on the way, from which names
that the record lacks are left out; nothing in a reply but its position says which id it belongs to.

Each row is shown to hold fields of the record that its id stands for, and a page and its selection to show
the same ids in the same order.

## Main definitions

* `Page.selection` — what is read from a page with content.
* `Selection.Shows` — a selection shows the rows of a page: fields of the records that the ids stand for.

## Main results

* `get?_ofList_wantedFields` — what is read back of a record.
* `failure?_compile_select` — of several names that are not declared the first is reported.
* `selectPage_rows` — a selection fails for the first name that is not declared, or shows its page.
-/

namespace RecordSearch

/-! ## Fields of one record -/

namespace Table

variable {α : Type} {find? : String → Option α} {pairs : List (String × α)}

/-- Pairs that agree with a lookup store what the lookup finds, however often a name is among them. -/
theorem get?_insertAll_of_agree (h : ∀ p ∈ pairs, find? p.1 = some p.2) (t : Table α) (name : String) :
    (t.insertAll pairs).get? name =
      if name ∈ pairs.map Prod.fst then find? name else t.get? name := by
  induction pairs generalizing t with
  | nil => rfl
  | cons p pairs ih =>
    obtain ⟨hp, hpairs⟩ := List.forall_mem_cons.1 h
    rw [insertAll_cons, ih hpairs, get?_insert, List.map_cons]
    simp only [List.mem_cons]
    by_cases hlater : name ∈ pairs.map Prod.fst
    · rw [if_pos hlater, if_pos (.inr hlater)]
    · by_cases hname : p.1 = name
      · rw [if_neg hlater, if_pos hname, if_pos (.inl hname.symm), ← hname, hp]
      · rw [if_neg hlater, if_neg hname, if_neg (not_or.2 ⟨Ne.symm hname, hlater⟩)]

theorem get?_ofList_eq_some_iff (h : ∀ p ∈ pairs, find? p.1 = some p.2) (name : String) (value : α) :
    (ofList pairs).get? name = some value ↔ (name, value) ∈ pairs := by
  rw [ofList, get?_insertAll_of_agree h]
  constructor
  · intro hvalue
    split at hvalue
    · next hname =>
      obtain ⟨p, hp, rfl⟩ := List.mem_map.1 hname
      rw [← Option.some.inj ((h p hp).symm.trans hvalue)]
      exact hp
    · contradiction
  · intro hmem
    rw [if_pos (List.mem_map_of_mem hmem)]
    exact h _ hmem

end Table

/-- The fields sent of a record where names are wanted are its own, under those names. -/
theorem mem_wantedFields_some {document : Table String} {names : List String} {p : String × String} :
    p ∈ MemoryStore.wantedFields document (some names) ↔
      p.1 ∈ names ∧ document.get? p.1 = some p.2 := by
  simp only [MemoryStore.wantedFields, List.mem_filterMap, Option.map_eq_some_iff]
  constructor
  · rintro ⟨name, hname, value, hvalue, rfl⟩
    exact ⟨hname, hvalue⟩
  · rintro ⟨hname, hvalue⟩
    exact ⟨p.1, hname, p.2, hvalue, rfl⟩

/-- What is read back of a record are its own fields, those under the names wanted if there are any. -/
theorem get?_ofList_wantedFields (document : Table String) (names : List String) (name : String) :
    let returned? := if names = [] then none else some names
    (Table.ofList (MemoryStore.wantedFields document returned?)).get? name =
      if names = [] ∨ name ∈ names then document.get? name else none := by
  intro returned?
  have hagree (p : String × String) (hp : p ∈ MemoryStore.wantedFields document returned?) :
      document.get? p.1 = some p.2 := by
    by_cases hall : names = []
    · rw [show returned? = none from if_pos hall] at hp
      exact Table.get?_eq_some_iff.2 hp
    · rw [show returned? = some names from if_neg hall] at hp
      exact (mem_wantedFields_some.1 hp).2
  refine Option.ext fun value => (Table.get?_ofList_eq_some_iff hagree name value).trans ?_
  by_cases hall : names = []
  · rw [show returned? = none from if_pos hall, if_pos (.inl hall)]
    exact Table.get?_eq_some_iff.symm
  · rw [show returned? = some names from if_neg hall, mem_wantedFields_some]
    by_cases hwanted : name ∈ names
    · rw [if_pos (.inr hwanted)]
      exact and_iff_right hwanted
    · rw [if_neg (not_or.2 ⟨hall, hwanted⟩)]
      exact ⟨fun h => absurd h.1 hwanted, fun h => nomatch h⟩

/-! ## Names selected -/

theorem find?_foldl_distinct (p : String → Bool) (names seen : List String) :
    (names.foldl (fun seen name => if seen.contains name then seen else seen ++ [name]) seen).find? p =
      (seen ++ names).find? p := by
  induction names generalizing seen with
  | nil => rw [List.foldl_nil, List.append_nil]
  | cons first names ih =>
    rw [List.foldl_cons, ih]
    split
    · next hseen =>
      rw [List.find?_append, List.find?_append, List.find?_cons]
      cases hfound : seen.find? p with
      | some name => rfl
      | none =>
        have hfirst := List.find?_eq_none.1 hfound first (List.contains_iff_mem.1 hseen)
        rw [Bool.not_eq_true] at hfirst
        rw [hfirst]
    · rw [List.append_assoc, List.singleton_append]

/-- Dropping repeated names does not change what is found first. -/
theorem find?_distinct (p : String → Bool) (names : List String) :
    (distinct names).find? p = names.find? p :=
  find?_foldl_distinct p names []

theorem distinct_eq_nil_iff {names : List String} : distinct names = [] ↔ names = [] := by
  simp only [List.eq_nil_iff_forall_not_mem, mem_distinct]

/-- The first name that is not declared is what is wrong with some names. -/
theorem head?_flatMap_nameOffences (d : Descriptor) (names : List String) :
    (names.flatMap fun name => d.nameOffences name ("RETURN " ++ name)).head? =
      (names.find? fun name => !d.declares name).map fun name =>
        .unknownField d.indexName name ("RETURN " ++ name) := by
  induction names with
  | nil => rfl
  | cons name names ih =>
    rw [List.flatMap_cons, List.find?_cons, List.head?_append, ih]
    unfold Descriptor.nameOffences Descriptor.declares require
    cases d.field? name <;> rfl

/-- With other fields selected, a query that compiles fails for the first one that is not declared. -/
theorem failure?_compile_select {d : Descriptor} {q : Query Value} {compiled : CompiledQuery}
    (h : q.compile d = .ok compiled) (names : List String) :
    failure? ((q.select names).compile d) =
      (names.find? fun name => !d.declares name).map fun name =>
        .unknownField d.indexName name ("RETURN " ++ name) := by
  have hnone : q.offences d = [] := by
    rw [← List.head?_eq_none_iff, ← Query.failure?_compile, h, failure?_ok]
  obtain ⟨hfront, -⟩ := List.append_eq_nil_iff.1 hnone
  rw [Query.failure?_compile, Query.offences, ← head?_flatMap_nameOffences]
  exact congrArg (List.head? <| · ++ _) hfront

/-- With declared fields selected, a query that compiles asks for them and for nothing else. -/
theorem compile_select {d : Descriptor} {q : Query Value} {compiled : CompiledQuery}
    (h : q.compile d = .ok compiled) {names : List String}
    (hdeclared : names.find? (fun name => !d.declares name) = none) :
    (q.select names).compile d = .ok { compiled with withContent := true, returnFields := names } := by
  have hall : names.all d.declares = true := by
    simpa using hdeclared
  obtain ⟨texts, hfilters, hsort, -, rfl⟩ := Query.compile_eq_ok_iff.1 h
  exact Query.compile_eq_ok_iff.2 ⟨texts, hfilters, hsort, all_declares_iff.1 hall, rfl⟩

/-! ## Pages and their selections -/

/-- What is read from a page with content. -/
def Page.selection (found : Page) : Selection :=
  ⟨found.ids.zip found.documents, found.totalCount, found.totalPages⟩

/-- The selection shows the rows of a page: its ids in their order, with fields of the records that are
stored under them, and its counts. A field that a record lacks is not there; all are if none is named. -/
structure Selection.Shows (selected : Selection) (shown : Page) (records : Table (Table String))
    (start : String) (fields : List String) : Prop where
  ids : selected.rows.map Prod.fst = shown.ids
  rows : ∀ row ∈ selected.rows, ∃ document, records.get? (start ++ row.1) = some document ∧
    ∀ name, row.2.get? name = if fields = [] ∨ name ∈ fields then document.get? name else none
  totalCount : selected.totalCount = shown.totalCount
  totalPages : selected.totalPages = shown.totalPages

theorem Selection.shows_empty (records : Table (Table String)) (start : String) (fields : List String) :
    Page.empty.selection.Shows .empty records start fields :=
  ⟨rfl, fun _ hrow => absurd hrow List.not_mem_nil, rfl, rfl⟩

/-- The page of a search with content, and the page of the same search however it is asked for. -/
theorem selection_pageOf_shows (m : MemoryStore) (start : String) (q : CompiledQuery)
    (fields : List String) (page pageSize : UInt64) :
    let selecting := { q with withContent := true, returnFields := distinct fields }
    (m.pageOf start (selecting.options page pageSize) pageSize).selection.Shows
      (m.pageOf start (q.options page pageSize) pageSize) m.hashes start fields := by
  intro selecting
  let o := selecting.options page pageSize
  let window := m.window start (q.options page pageSize)
  -- What is shown of a record has no part in which records are shown.
  have hrows : (m.pageOf start o pageSize).selection.rows = window.map fun e =>
      (stripStart start e.1, .ofList (MemoryStore.wantedFields e.2 o.returned?)) :=
    List.zip_map'
  have hreturned : o.returned? = if distinct fields = [] then none else some (distinct fields) := by
    change (if (true && !(distinct fields).isEmpty) = true then some (distinct fields) else none) = _
    cases distinct fields <;> rfl
  refine ⟨?_, ?_, rfl, rfl⟩
  · rw [hrows, List.map_map]
    rfl
  · intro row hrow
    rw [hrows] at hrow
    obtain ⟨e, he, rfl⟩ := List.mem_map.1 hrow
    obtain ⟨hstored, hstart⟩ :=
      (m.mem_matching start _).1 (List.mem_of_mem_drop (List.mem_of_mem_take he))
    refine ⟨e.2, ?_, fun name => ?_⟩
    · rw [append_stripStart hstart]
      exact hstored
    · dsimp only
      rw [hreturned, get?_ofList_wantedFields]
      simp only [distinct_eq_nil_iff, mem_distinct]

section Requests

variable {config : Config} {m : Model} {q : Query Deferral} {s : Synchronizer} {w : World MemoryStore}

/-- Bringing the index in step leaves it live. -/
theorem serves_ensureIndex {d : Descriptor} (hindexed : d.isIndexed = true)
    (h : w.store.Serves config d) : (ensureIndex config d s w).2.store.Serves config d := by
  cases hstate : (s.state (physicalName d.indexName config.scope?)).isTerminal with
  | true =>
    rw [ensureIndex_of_isTerminal hstate]
    exact h
  | false =>
    obtain ⟨index, hindex⟩ := exists_ofDescriptor? hindexed config.scope?
    rw [ensureIndex_of_some hstate hindex]
    exact serves_synchronise hindex h

/-- What compiles over a live index is found, unless the engine holds the model for one without indexed
fields. -/
theorem Lookup.find_serves (l : Lookup) (hindexed : (describe l.model w).1.isIndexed = true)
    (hserves : w.store.Serves config (describe l.model w).1)
    (hfew : (storeInStep config l.model s w).hashes.size < 2 ^ 63) {compiled : CompiledQuery}
    (hcompile : l.compile (describe l.model w).1 = .ok compiled)
    (hnames : compiled.returnFields.length < 2 ^ 64) :
    let state := (ensureIndex config (describe l.model w).1 s (describe l.model w).2).1.1
    (l.find config s w).1.1 =
      if state = .notIndexed then .ok .empty
      else .ok ((storeInStep config l.model s w).pageOf (modelStart config l.model w)
        (compiled.options l.page l.pageSize) l.pageSize) := by
  intro state
  by_cases hstate : state = .notIndexed
  · rw [find_of_notIndexed hcompile hstate, if_pos hstate]
  · have hlive : (storeInStep config l.model s w).Serves config (describe l.model w).1 := by
      refine serves_ensureIndex hindexed ?_
      rw [describe_store]
      exact hserves
    rw [find_of_indexed hcompile hstate, if_neg hstate]
    exact (runSearch_serves hlive hnames hfew l.page l.pageSize).1

theorem selectPage_apply {σ : Type} [Storage σ] (m : Model) (q : Query Value) (fields : List String)
    (page pageSize : UInt64) (config : Config) (s : Synchronizer) (w : World σ) :
    let wanted := Lookup.find ⟨m, (q.select (distinct fields)).compile, page, pageSize⟩ config s w
    selectPage m q fields page pageSize config s w =
      ((wanted.1.1.map Page.selection, wanted.1.2), wanted.2) :=
  QueryM.map_apply _ _ _ _

/-- For a query that compiles over a live index, however it is settled, a selection fails for the first name
that is not declared, and nothing is put to the store; if all are declared it shows the rows of the page that
the query has without it. Neither records nor names are more than can be counted in a reply and in a
request. -/
theorem selectPage_rows
    (haccepted : ∀ k, (q.asOf k).IsAccepted (describe m w).1)
    (hindexed : (describe m w).1.isIndexed = true) (hserves : w.store.Serves config (describe m w).1)
    (hfew : (storeInStep config m s w).hashes.size < 2 ^ 63)
    (hnames : q.returnFields.length < 2 ^ 64) {fields : List String} (hfields : fields.length < 2 ^ 64)
    (j k : Nat) (page pageSize : UInt64) :
    let d := (describe m w).1
    let selection := selectPage m (q.asOf j) fields page pageSize config s w
    match fields.find? fun name => !d.declares name with
    | some name =>
      selection.1.1 = .error (.compile (.unknownField d.indexName name ("RETURN " ++ name))) ∧
        selection.2.store = w.store
    | none =>
      ∃ shown selected, (execute m (q.asOf k) page pageSize config s w).1.1 = .ok shown ∧
        selection.1.1 = .ok selected ∧
        selected.Shows shown (storeInStep config m s w).hashes (modelStart config m w) fields := by
  intro d selection
  obtain ⟨compiled, hselectable⟩ := haccepted j
  have hselection : selection = _ := selectPage_apply m (q.asOf j) fields page pageSize config s w
  have hselect := failure?_compile_select hselectable (distinct fields)
  rw [find?_distinct] at hselect
  rw [hselection]
  split
  · next name hname =>
    rw [hname, Option.map_some, failure?_eq_some_iff] at hselect
    rw [Lookup.find_of_error hselect]
    exact ⟨rfl, describe_store m w⟩
  · next hnone =>
    have hselecting := compile_select hselectable ((find?_distinct _ fields).trans hnone)
    obtain ⟨showing, hshowing⟩ := haccepted k
    -- The compilation that selects and the one that shows differ in their texts only.
    obtain ⟨texts, -, -, -, rfl⟩ := Query.compile_eq_ok_iff.1 hselectable
    obtain ⟨texts', -, -, -, rfl⟩ := Query.compile_eq_ok_iff.1 hshowing
    have hdistinct := Nat.lt_of_le_of_lt (length_distinct_le fields) hfields
    have hshown := Lookup.find_serves ⟨m, (q.asOf k).compile, page, pageSize⟩ hindexed hserves hfew
      hshowing hnames
    have hwanted := Lookup.find_serves ⟨m, ((q.asOf j).select (distinct fields)).compile, page, pageSize⟩
      hindexed hserves hfew hselecting hdistinct
    dsimp only at hshown hwanted ⊢
    rw [execute_eq_find, hshown, hwanted]
    split
    · exact ⟨_, _, rfl, rfl, Selection.shows_empty _ _ _⟩
    · exact ⟨_, _, rfl, rfl, selection_pageOf_shows _ _ ⟨texts', _, _, _⟩ _ _ _⟩

end Requests

/-- The ranks of two notes, of which the second has none; and the first of two names that notes do not
have. The page was asked for with a rank of its own. -/
theorem selectPage_rows_of_notes :
    (∃ shown selected,
      (execute noteModel (noteQuery.asOf 1) 0 2 {} {} noteWorld).1.1 = .ok shown ∧
      (selectPage noteModel (noteQuery.asOf 0) ["rank", "rank"] 0 2 {} {} noteWorld).1.1 = .ok selected ∧
      selected.Shows shown (storeInStep {} noteModel {} noteWorld).hashes "notes:" ["rank", "rank"] ∧
      selected.rows = [("1", .ofList [("rank", "2")]), ("2", .empty)] ∧ selected.totalCount = 3) ∧
    (selectPage noteModel (noteQuery.asOf 0) ["rank", "sum", "name"] 0 2 {} {} noteWorld).1.1 =
      .error (.compile (.unknownField "notes" "sum" "RETURN sum")) := by
  have hindexed : (describe noteModel noteWorld).1.isIndexed = true := by decide
  have hserves : noteWorld.store.Serves {} (describe noteModel noteWorld).1 :=
    ⟨rfl, rfl, noteModel.descriptor, _, rfl, rfl, by decide +kernel⟩
  have hfew : (storeInStep {} noteModel {} noteWorld).hashes.size < 2 ^ 63 := by decide +kernel
  have hselect (fields : List String) (hfields : fields.length < 2 ^ 64) :=
    selectPage_rows (q := noteQuery) (fun k => ⟨_, rfl⟩) hindexed hserves hfew (by decide) hfields 0 1 0 2
  have hrows : ((selectPage noteModel (noteQuery.asOf 0) ["rank", "rank"] 0 2 {} {} noteWorld).1.1.map
      fun selected => (selected.rows, selected.totalCount)) =
        .ok ([("1", .ofList [("rank", "2")]), ("2", .empty)], 3) := by
    decide +kernel
  constructor
  · obtain ⟨shown, selected, hshown, hselected, hshows⟩ := hselect ["rank", "rank"] (by decide)
    rw [hselected] at hrows
    obtain ⟨hrows, htotal⟩ := Prod.mk.inj (Except.ok.inj hrows)
    exact ⟨shown, selected, hshown, hselected, hshows, hrows, htotal⟩
  · exact (hselect ["rank", "sum", "name"] (by decide)).1

end RecordSearch
