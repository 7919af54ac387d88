/-!
# Storage failures

What can go wrong between the engine and the store behind it.

## Main definitions

* `StorageError` — the causes.
* `StorageError.message` — their wording.
* `StorageError.isUnknownIndex` — whether the failure says that an index does not exist.
-/

namespace RecordSearch

/-- Why a storage command failed. -/
inductive StorageError where
  /-- The store reported a failure in words of its own. -/
  | backend (report : String)
  | unknownIndex (index : String)
  | malformedReply (command reason : String)
  deriving DecidableEq, Repr

/-- Whether a text occurs among some characters. -/
def occursIn (pattern : List Char) : List Char → Bool
  | [] => pattern.isEmpty
  | c :: rest => pattern.isPrefixOf (c :: rest) || occursIn pattern rest

/-- Whether a report says, in any ASCII case, that an index does not exist. -/
def reportsUnknownIndex (report : String) : Bool :=
  let words := report.toList.map Char.toLower
  occursIn "unknown index name".toList words || occursIn "no such index".toList words

namespace StorageError

/-- The failure in words. -/
def message : StorageError → String
  | backend report => "Storage backend error: " ++ report
  | unknownIndex index => "Unknown index '" ++ index ++ "'"
  | malformedReply command reason => "Malformed reply to " ++ command ++ ": " ++ reason

/-- Whether the failure says that an index does not exist. -/
def isUnknownIndex : StorageError → Bool
  | unknownIndex _ => true
  | backend report => reportsUnknownIndex report
  | malformedReply .. => false

end StorageError

end RecordSearch
