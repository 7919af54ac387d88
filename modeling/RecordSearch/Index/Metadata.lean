import RecordSearch.Calendar.Instant
import RecordSearch.Table

/-!
# Index metadata

Next to the data the store keeps a record for each index: the fingerprint of the shape it was last created
with, when that was, and when it was first created.

## Main definitions

* `IndexMetadata` — the record.
* `IndexMetadata.ofFields?` — reading it; without a fingerprint there is none.
* `IndexMetadata.toFields` — writing it.
-/

namespace RecordSearch

/-- What is remembered of an index. -/
structure IndexMetadata where
  fingerprint : String
  lastUpdated? : Option Instant
  createdAt? : Option Instant
  deriving DecidableEq, Repr

namespace IndexMetadata

/-- The instant that a field holds, if it is there and can be read. -/
def instantIn? (fields : Table String) (name : String) : Option Instant :=
  (fields.get? name).bind Instant.ofRfc3339?

/-- The metadata in some fields; the fingerprint must not be empty. -/
def ofFields? (fields : Table String) : Option IndexMetadata :=
  match fields.get? "fingerprint" with
  | none => none
  | some fingerprint =>
    if fingerprint = "" then none
    else some ⟨fingerprint, instantIn? fields "last_updated", instantIn? fields "created_at"⟩

/-- The field of an instant, if there is one. -/
def instantField (name : String) (t? : Option Instant) : List (String × String) :=
  match t? with
  | some t => [(name, t.rfc3339)]
  | none => []

/-- The fields that hold the metadata. -/
def toFields (m : IndexMetadata) : List (String × String) :=
  ("fingerprint", m.fingerprint) ::
    (instantField "last_updated" m.lastUpdated? ++ instantField "created_at" m.createdAt?)

end IndexMetadata

end RecordSearch
