import RecordSearch.Config
import RecordSearch.Index.Definition
import RecordSearch.Index.Metadata

/-!
# The record of an index

The record of an index is a hash like any other. What matters to the next synchronization is the
fingerprint that is read from it, and with it the time of first creation.

## Main results

* `IndexDefinition.fingerprint_ne_empty` — no definition has the fingerprint that counts as missing.
* `IndexMetadata.fingerprint_of_toFields` — a record written over any hash is read back with its
  fingerprint.
* `IndexMetadata.createdAt?_of_toFields` — and with its time of first creation as far as that is read.
* `Config.metadataKey_injective` — indexes do not share records.
-/

namespace RecordSearch

namespace Table

variable {α : Type}

theorem insertAll_cons (t : Table α) (key : String) (value : α) (pairs : List (String × α)) :
    t.insertAll ((key, value) :: pairs) = (t.insert key value).insertAll pairs := rfl

theorem insertAll_append (t : Table α) (xs ys : List (String × α)) :
    t.insertAll (xs ++ ys) = (t.insertAll xs).insertAll ys :=
  List.foldl_append

/-- Pairs under other names leave a value as it is. -/
theorem get?_insertAll_of_ne (t : Table α) {name : String} {pairs : List (String × α)}
    (h : ∀ p ∈ pairs, p.1 ≠ name) : (t.insertAll pairs).get? name = t.get? name := by
  induction pairs generalizing t with
  | nil => rfl
  | cons p pairs ih =>
    obtain ⟨hp, hpairs⟩ := List.forall_mem_cons.1 h
    rw [insertAll_cons, ih _ hpairs, get?_insert, if_neg hp]

end Table

theorem hexDigest_ne_empty (text : String) : hexDigest text ≠ "" := by
  intro h
  have hchars := congrArg String.toList h
  rw [hexDigest, String.toList_ofList] at hchars
  simp [sha256, Sha256.bigEndian, hexByte, List.range_succ] at hchars

theorem IndexDefinition.fingerprint_ne_empty (i : IndexDefinition) : i.fingerprint ≠ "" :=
  hexDigest_ne_empty i.shape

theorem Config.metadataKey_injective (c : Config) {a b : String}
    (h : c.metadataKey a = c.metadataKey b) : a = b := by
  have hchars := congrArg String.toList h
  simp only [metadataKey, String.toList_append, List.append_cancel_left_eq] at hchars
  exact String.toList_injective hchars

namespace IndexMetadata

theorem fst_of_mem_instantField {name : String} {t? : Option Instant} {p : String × String}
    (h : p ∈ instantField name t?) : p.1 = name := by
  cases t? with
  | none => contradiction
  | some t => rw [List.mem_singleton.1 h]

/-- The instants are written under names of their own. -/
theorem get?_insertAll_instantField_of_ne (fields : Table String) {name other : String}
    (h : other ≠ name) (t? : Option Instant) :
    (fields.insertAll (instantField other t?)).get? name = fields.get? name := by
  refine Table.get?_insertAll_of_ne fields fun p hp => ?_
  rwa [fst_of_mem_instantField hp]

theorem get?_fingerprint_toFields (m : IndexMetadata) (fields : Table String) :
    (fields.insertAll m.toFields).get? "fingerprint" = some m.fingerprint := by
  rw [toFields, Table.insertAll_cons, Table.insertAll_append,
    get?_insertAll_instantField_of_ne _ (by decide), get?_insertAll_instantField_of_ne _ (by decide),
    Table.get?_insert_self]

/-- A record written over any hash is read back with its fingerprint. -/
theorem fingerprint_of_toFields {m : IndexMetadata} (hm : m.fingerprint ≠ "") (fields : Table String) :
    (ofFields? (fields.insertAll m.toFields)).map (·.fingerprint) = some m.fingerprint := by
  rw [ofFields?, get?_fingerprint_toFields]
  simp [hm]

/-- An instant is written over what was in its field, and nothing is if there is none. -/
theorem get?_insertAll_instantField (fields : Table String) (name : String) (t? : Option Instant) :
    (fields.insertAll (instantField name t?)).get? name =
      (t?.map (·.rfc3339)).or (fields.get? name) := by
  cases t? with
  | none => rfl
  | some t => exact Table.get?_insert_self fields name t.rfc3339

theorem get?_lastUpdated_toFields (m : IndexMetadata) (fields : Table String) :
    (fields.insertAll m.toFields).get? "last_updated" =
      (m.lastUpdated?.map (·.rfc3339)).or (fields.get? "last_updated") := by
  rw [toFields, Table.insertAll_cons, Table.insertAll_append,
    get?_insertAll_instantField_of_ne _ (by decide), get?_insertAll_instantField, Table.get?_insert,
    if_neg (by decide)]

theorem get?_createdAt_toFields (m : IndexMetadata) (fields : Table String) :
    (fields.insertAll m.toFields).get? "created_at" =
      (m.createdAt?.map (·.rfc3339)).or (fields.get? "created_at") := by
  rw [toFields, Table.insertAll_cons, Table.insertAll_append, get?_insertAll_instantField,
    get?_insertAll_instantField_of_ne _ (by decide), Table.get?_insert, if_neg (by decide)]

/-- The time of first creation that is read from a record written over any hash. -/
theorem createdAt?_of_toFields {m : IndexMetadata} (hm : m.fingerprint ≠ "") {t : Instant}
    (ht : m.createdAt? = some t) (fields : Table String) :
    (ofFields? (fields.insertAll m.toFields)).bind (·.createdAt?) =
      Instant.ofRfc3339? t.rfc3339 := by
  have hfield : (fields.insertAll m.toFields).get? "created_at" = some t.rfc3339 := by
    rw [get?_createdAt_toFields, ht]
    rfl
  rw [ofFields?, get?_fingerprint_toFields]
  simp [hm, instantIn?, hfield]

end IndexMetadata

end RecordSearch
