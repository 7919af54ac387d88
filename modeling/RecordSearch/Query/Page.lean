import RecordSearch.Query.Arguments
import RecordSearch.Storage.Reply
import RecordSearch.Table
import RecordSearch.Text.Start

/-!
# Result pages

The reply to a search is one flat list: the total number of matches, then keys, each of which may be
followed by a list of its fields. A page holds the ids that the keys stand for, and the fields if they
were asked for.

## Main definitions

* `Page` — one page of results.
* `pageCount` — how many pages a total fills.
* `Page.ofReply` — reading a reply.
-/

namespace RecordSearch

/-- One page of results. -/
structure Page where
  ids : List String := []
  totalCount : UInt64 := 0
  totalPages : UInt64 := 0
  /-- The fields of each id in turn; nothing unless they were asked for. -/
  documents : List (Table String) := []
  deriving DecidableEq, Repr, Inhabited

/-- The page without results. -/
def Page.empty : Page := {}

/-- Whether the page has no ids. -/
def Page.isEmpty (p : Page) : Bool :=
  p.ids.isEmpty

/-- How many pages of a size a total fills, the last one perhaps in part; none of size zero. -/
def pageCount (total pageSize : UInt64) : UInt64 :=
  if pageSize = 0 then 0
  else if total % pageSize = 0 then total / pageSize
  else total / pageSize + 1

namespace Page

/-- The failure of a search whose reply cannot be read. -/
def malformed (reason : String) : StorageError :=
  .malformedReply "FT.SEARCH" reason

/-- A result as it is read: its id, and its fields so far. -/
structure Hit where
  id : String
  fields : Table String
  deriving DecidableEq, Repr

/-- Alternating names and values; a value without text counts as empty. -/
def readPairs : List Reply → Except StorageError (List (String × String))
  | name :: value :: rest =>
    match name.text? with
    | none => .error (malformed "non-string field name")
    | some field => (readPairs rest).map ((field, value.text?.getD "") :: ·)
  | _ => .ok []

/-- The fields in a list of names and values. -/
def readFields (items : List Reply) : Except StorageError (Table String) :=
  if items.length % 2 = 0 then (readPairs items).map Table.ofList
  else .error (malformed "odd number of field/value entries")

/-- The total number of matches. -/
def readTotal (item : Reply) : Except StorageError UInt64 :=
  match item.text?.bind readWord? with
  | some n => .ok n
  | none => .error (malformed ("bad total count " ++ item.inspect))

/-- The results after one more item of a reply, latest first. A list of fields belongs to the latest
result and replaces its fields. -/
def readItem (keyStart : String) (withContent : Bool) (hits : List Hit) (item : Reply) :
    Except StorageError (List Hit) :=
  match item with
  | .array items =>
    if !withContent then .ok hits
    else
      match hits with
      | [] => .error (malformed "field list before any id")
      | latest :: earlier => (readFields items).map fun fields => ⟨latest.id, fields⟩ :: earlier
  | .nil => .ok hits
  | other =>
    match other.text? with
    | some key => .ok (⟨stripStart keyStart key, .empty⟩ :: hits)
    | none => .error (malformed ("bad id " ++ other.inspect))

/-- The page in a reply, whose keys all start with `keyStart`. -/
def ofReply (reply : Reply) (keyStart : String) (pageSize : UInt64) (withContent : Bool) :
    Except StorageError Page :=
  match reply with
  | .array [] => .error (malformed "empty reply")
  | .array (first :: items) => do
    let total ← readTotal first
    let hits ← items.foldlM (readItem keyStart withContent) []
    let inOrder := hits.reverse
    return ⟨inOrder.map (·.id), total, pageCount total pageSize,
      if withContent then inOrder.map (·.fields) else []⟩
  | other => .error (malformed ("expected array reply, got " ++ other.inspect))

end Page

end RecordSearch
