/-!
# Configuration

## Main definitions

* `Config` — the settings of an engine.
* `Config.scope?` — the namespace in effect; an empty one counts as none.
* `Config.metadataKey` — where the metadata of an index is kept.
* `Config.ofSettings?` — reading settings; absent ones take their defaults.
-/

namespace RecordSearch

/-- What a query does when the search behind it fails. -/
inductive FailurePolicy where
  /-- It yields a page without results. -/
  | empty
  /-- It fails. -/
  | propagate
  deriving DecidableEq, Repr, Inhabited

/-- The policy's name. -/
def FailurePolicy.label : FailurePolicy → String
  | empty => "Empty"
  | propagate => "Propagate"

/-- The settings of an engine. -/
structure Config where
  /-- Where the server is. -/
  url? : Option String := none
  /-- Put before the names of indexes and the keys of records and metadata. -/
  nameSpace? : Option String := none
  metadataPrefix : String := "index"
  /-- The size of a page where a query names none. -/
  pageSize : UInt64 := 1000
  dialect : UInt32 := 2
  onFailure : FailurePolicy := .empty
  logQueries : Bool := false
  deriving DecidableEq, Repr, Inhabited

/-- A setting as it is written down. -/
inductive Setting where
  | null
  | bool (b : Bool)
  | integer (n : Int)
  | text (s : String)
  /-- Anything that no setting can be. -/
  | other
  deriving DecidableEq, Repr

namespace Setting

/-- A text or nothing. -/
def optionalText? : Setting → Option (Option String)
  | null => some none
  | text s => some (some s)
  | _ => none

/-- A text. -/
def text? : Setting → Option String
  | text s => some s
  | _ => none

/-- A truth value. -/
def bool? : Setting → Option Bool
  | bool b => some b
  | _ => none

/-- A natural number below a limit. -/
def natBelow? (limit : Nat) : Setting → Option Nat
  | integer n => if 0 ≤ n ∧ n < limit then some n.toNat else none
  | _ => none

/-- A policy by its name. -/
def policy? : Setting → Option FailurePolicy
  | text "empty" => some .empty
  | text "propagate" => some .propagate
  | _ => none

end Setting

namespace Config

/-- The namespace in effect. -/
def scope? (c : Config) : Option String :=
  c.nameSpace?.filter (· != "")

/-- The key of an index's metadata. -/
def metadataKey (c : Config) (index : String) : String :=
  c.metadataPrefix ++ ":" ++ index

/-- The value of a setting, or its default where it is absent. -/
def read? {α : Type} (settings : List (String × Setting)) (name : String) (fallback : α)
    (reader : Setting → Option α) : Option α :=
  match settings.lookup name with
  | none => some fallback
  | some s => reader s

/-- The configuration that some settings describe; settings of other names are passed over. -/
def ofSettings? (settings : List (String × Setting)) : Option Config := do
  let defaults : Config := {}
  let url? ← read? settings "redis_url" defaults.url? Setting.optionalText?
  let nameSpace? ← read? settings "namespace" defaults.nameSpace? Setting.optionalText?
  let metadataPrefix ← read? settings "metadata_prefix" defaults.metadataPrefix Setting.text?
  let pageSize ← read? settings "default_page_size" defaults.pageSize.toNat (Setting.natBelow? UInt64.size)
  let dialect ← read? settings "dialect" defaults.dialect.toNat (Setting.natBelow? UInt32.size)
  let onFailure ← read? settings "read_failure_policy" defaults.onFailure Setting.policy?
  let logQueries ← read? settings "log_queries" defaults.logQueries Setting.bool?
  return ⟨url?, nameSpace?, metadataPrefix, UInt64.ofNat pageSize, UInt32.ofNat dialect, onFailure,
    logQueries⟩

end Config

end RecordSearch
