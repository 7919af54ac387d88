import RecordSearch.Query.Arguments
import RecordSearch.Storage.Command
import RecordSearch.Text.Start

/-!
# A store in memory

A store that keeps hashes and indexes in tables. A search on it matches every record under the index's
key prefix, whatever the query text says; order, window and fields are honoured. Searches are recorded,
creations and drops counted, and both searches and creations can be made to fail.

## Main definitions

* `MemoryStore` — the state, and its `Storage` instance.
* `compareFieldValues` — the order of two stored values: numeric if both are numbers, missing values last.
* `MemoryStore.matching` — the records under a key prefix, in order.
-/

namespace RecordSearch

/-- A store in memory. -/
structure MemoryStore where
  hashes : Table (Table String) := .empty
  /-- The arguments that each live index was created with. -/
  indexes : Table (List String) := .empty
  /-- The arguments of every search, oldest first. -/
  searches : List (List String) := []
  /-- How many indexes have been created. -/
  creates : Nat := 0
  /-- How often an index was to be dropped, present or not. -/
  drops : Nat := 0
  failSearches : Bool := false
  failCreates : Bool := false
  deriving DecidableEq, Repr, Inhabited

/-- The order of two stored values: as numbers if both are, else as text, a missing one last. -/
def compareFieldValues : Option String → Option String → Ordering
  | none, none => .eq
  | none, some _ => .gt
  | some _, none => .lt
  | some a, some b =>
    match BinaryFormat.double.read? a, BinaryFormat.double.read? b with
    | some x, some y => (x.compare? y).getD .eq
    | _, _ => compare a b

namespace MemoryStore

/-- The store with a hash in place of any earlier one of its key. -/
def insert (m : MemoryStore) (key : String) (fields : List (String × String)) : MemoryStore :=
  { m with hashes := m.hashes.insert key (.ofList fields) }

/-- A stored hash with its key. -/
abbrev Entry := String × Table String

/-- Whether one record may stand before another in an order by a field. -/
def entryLe (field : String) (descending : Bool) (a b : Entry) : Bool :=
  let order := compareFieldValues (a.2.get? field) (b.2.get? field)
  (if descending then order.swap else order) != .gt

/-- The records whose keys start with `start`, by ascending key. -/
def under (m : MemoryStore) (start : String) : List Entry :=
  m.hashes.entries.filter fun e => hasStart start e.1

/-- The records whose keys start with `start`: by ascending key, or by a field, those of equal value by
ascending key. -/
def matching (m : MemoryStore) (start : String) (sorting? : Option (String × Bool)) : List Entry :=
  match sorting? with
  | none => m.under start
  | some (field, descending) => (m.under start).mergeSort (entryLe field descending)

/-- The keys of the records that match, in order. -/
def matchingKeys (m : MemoryStore) (start : String) (sorting? : Option (String × Bool)) :
    List String :=
  (m.matching start sorting?).map Prod.fst

/-- Names and values in turn. -/
def flatPairs (pairs : List (String × String)) : List Reply :=
  pairs.flatMap fun p => [.ofText p.1, .ofText p.2]

/-- The wanted fields that a record has, in the order they are wanted; all of them if none are named. -/
def wantedFields (fields : Table String) (returned? : Option (List String)) : List (String × String) :=
  match returned? with
  | none => fields.entries
  | some names => names.filterMap fun name => (fields.get? name).map fun v => (name, v)

/-- What a search shows of one record. -/
def hitItems (o : SearchOptions) (e : Entry) : List Reply :=
  if o.noContent then [.ofText e.1]
  else [.ofText e.1, .array (flatPairs (wantedFields e.2 o.returned?))]

/-- The reply to a search for the records under a key prefix. -/
def searchReply (m : MemoryStore) (start : String) (o : SearchOptions) : Reply :=
  let found := m.matching start o.sorting?
  let window := (found.drop o.offset.toNat).take o.count.toNat
  .array (.int (Int64.ofNat found.length) :: window.flatMap (hitItems o))

/-- Create an index under the name that the arguments start with. -/
def createIndex (m : MemoryStore) (arguments : List String) : Except StorageError Unit × MemoryStore :=
  if m.failCreates then (.error (.backend "FT.CREATE failed: injected failure"), m)
  else
    match arguments with
    | [] => (.error (.backend "FT.CREATE without index name"), m)
    | name :: _ =>
      if m.indexes.contains name then (.error (.backend "Index already exists"), m)
      else
        (.ok (), { m with indexes := m.indexes.insert name arguments, creates := m.creates + 1 })

/-- Drop an index. -/
def dropIndex (m : MemoryStore) (index : String) : Except StorageError Unit × MemoryStore :=
  (if m.indexes.contains index then .ok () else .error (.unknownIndex index),
    { m with indexes := m.indexes.erase index, drops := m.drops + 1 })

/-- The key prefix of a live index, the sixth of the arguments that created it. -/
def keyStart? (m : MemoryStore) (index : String) : Option String :=
  (m.indexes.get? index).bind (·[5]?)

/-- The outcome of a search. -/
def search (m : MemoryStore) (arguments : List String) : Except StorageError Reply :=
  if m.failSearches then .error (.backend "FT.SEARCH failed: injected failure")
  else
    match arguments with
    | [] => .error (.backend "FT.SEARCH without index name")
    | index :: rest =>
      match m.keyStart? index with
      | none => .error (.unknownIndex index)
      | some start => (SearchOptions.read (rest.drop 1)).map (m.searchReply start)

/-- Merge fields into a hash, which is created if need be. -/
def writeHash (m : MemoryStore) (key : String) (fields : List (String × String)) : MemoryStore :=
  { m with hashes := m.hashes.insert key (((m.hashes.get? key).getD .empty).insertAll fields) }

instance : Storage MemoryStore where
  respond
    | .createIndex arguments => fun m => m.createIndex arguments
    | .dropIndex index => fun m => m.dropIndex index
    | .search arguments => fun m =>
      (m.search arguments, { m with searches := m.searches ++ [arguments] })
    | .readHash key => fun m => (.ok ((m.hashes.get? key).getD .empty), m)
    | .writeHash key fields => fun m => (.ok (), m.writeHash key fields)

end MemoryStore

end RecordSearch
