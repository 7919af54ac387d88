import RecordSearch.Proofs.Calendar.Instant
import RecordSearch.Proofs.Index.Metadata
import RecordSearch.Storage.Memory

/-!
# Records outlive what wrote them

A record is merged into whatever hash is stored under its key, and what is read from the hash afterwards is the
record again. Every part that is written stands over what was there, however malformed that was, and is read
as it was written. Only a time that is not written leaves what was there: it is missing again exactly if no
time could be read in its place. Fields that are no part of a record are left alone.

## Main definitions

* `IndexMetadata.times` — the times in a record.

## Main results

* `IndexMetadata.ofFields?_insertAll_toFields_iff` — a record that is merged into some fields is read back
  exactly if no old time takes the place of a missing one.
* `MemoryStore.readHash_writeHash_record` — the same of a hash in a store, whose other fields stay.
-/

namespace RecordSearch

namespace IndexMetadata

/-- The times in a record. -/
def times (m : IndexMetadata) : List Instant :=
  m.lastUpdated?.toList ++ m.createdAt?.toList

variable {m : IndexMetadata} {fields : Table String}

/-- A time that is written is read back, and one that is not leaves what was there. -/
theorem instantIn?_eq_iff {written : Table String} {name : String} {t? : Option Instant}
    (hwritten : written.get? name = (t?.map (·.rfc3339)).or (fields.get? name))
    (htime : ∀ t ∈ t?, t.IsProper ∧ t.HasPlainYear) :
    instantIn? written name = t? ↔ (t? = none → instantIn? fields name = none) := by
  rw [instantIn?, hwritten]
  cases t? with
  | none =>
    rw [Option.map_none, Option.none_or]
    exact ⟨fun h _ => h, fun h => h rfl⟩
  | some t =>
    obtain ⟨hproper, hyear⟩ := htime t rfl
    rw [Option.map_some, Option.some_or, Option.bind_some, Instant.ofRfc3339?_of_hasPlainYear hproper hyear]
    exact iff_of_true rfl fun h => absurd h (Option.some_ne_none t)

/-- A record that is merged into some fields is read back exactly if no old time takes the place of a missing
one. -/
theorem ofFields?_insertAll_toFields_iff (hm : m.fingerprint ≠ "")
    (htimes : ∀ t ∈ m.times, t.IsProper ∧ t.HasPlainYear) :
    ofFields? (fields.insertAll m.toFields) = some m ↔
      (m.lastUpdated? = none → instantIn? fields "last_updated" = none) ∧
      (m.createdAt? = none → instantIn? fields "created_at" = none) := by
  obtain ⟨hlast, hcreated⟩ := List.forall_mem_append.1 htimes
  simp only [Option.mem_toList] at hlast hcreated
  rw [ofFields?, get?_fingerprint_toFields, ← instantIn?_eq_iff (get?_lastUpdated_toFields m fields) hlast,
    ← instantIn?_eq_iff (get?_createdAt_toFields m fields) hcreated]
  dsimp only
  rw [if_neg hm, Option.some.injEq]
  generalize fields.insertAll m.toFields = written
  obtain ⟨fingerprint, lastUpdated?, createdAt?⟩ := m
  rw [mk.injEq, eq_self_iff_true, true_and]

end IndexMetadata

/-- A record with a fingerprint and times in years of four digits is read back from the hash it is merged into,
whatever the hash held, unless the record lacks a time where the hash held one. No other field of the hash
changes. -/
theorem MemoryStore.readHash_writeHash_record (store : MemoryStore) (key : String) {m : IndexMetadata}
    (hm : m.fingerprint ≠ "") (htimes : ∀ t ∈ m.times, t.IsProper ∧ t.HasPlainYear) :
    let old := (store.hashes.get? key).getD .empty
    let written := (Storage.respond (.writeHash key m.toFields) store).2
    ∃ fields, (Storage.respond (.readHash key) written).1 = .ok fields ∧
      (IndexMetadata.ofFields? fields = some m ↔
        (m.lastUpdated? = none → IndexMetadata.instantIn? old "last_updated" = none) ∧
        (m.createdAt? = none → IndexMetadata.instantIn? old "created_at" = none)) ∧
      ∀ name ∉ m.toFields.map Prod.fst, fields.get? name = old.get? name := by
  intro old written
  have hread : (Storage.respond (.readHash key) written).1 = .ok (old.insertAll m.toFields) := by
    change Except.ok (((store.writeHash key m.toFields).hashes.get? key).getD .empty) = _
    rw [MemoryStore.writeHash, Table.get?_insert_self]
    rfl
  refine ⟨_, hread, IndexMetadata.ofFields?_insertAll_toFields_iff hm htimes, fun name hname => ?_⟩
  apply Table.get?_insertAll_of_ne
  rintro p hp rfl
  exact hname (List.mem_map_of_mem hp)

/-- The last leap second that can be written goes over a date that does not exist. No time of first creation
is written, and the text in its field is none. -/
theorem MemoryStore.readHash_writeHash_record_of_malformed :
    let store := MemoryStore.insert {} "index:notes" [("created_at", "yesterday"), ("fingerprint", "stale"),
      ("last_updated", "2019-02-30T00:00:00Z"), ("owner", "Ada")]
    let m : IndexMetadata := ⟨"fresh", some ⟨253402300799, 1500000000⟩, none⟩
    let written := (Storage.respond (.writeHash "index:notes" m.toFields) store).2
    m.fingerprint ≠ "" ∧ (∀ t ∈ m.times, t.IsProper ∧ t.HasPlainYear) ∧
    ∃ fields, (Storage.respond (.readHash "index:notes") written).1 = .ok fields ∧
      IndexMetadata.ofFields? fields = some m ∧ fields.get? "owner" = some "Ada" := by
  intro store m written
  have hm : m.fingerprint ≠ "" := by decide
  have htimes : ∀ t ∈ m.times, t.IsProper ∧ t.HasPlainYear := by
    intro t ht
    obtain rfl := List.mem_singleton.1 ht
    exact ⟨.inr (by decide), by decide⟩
  obtain ⟨fields, hread, hsame, hkept⟩ :=
    readHash_writeHash_record store "index:notes" hm htimes
  refine ⟨hm, htimes, fields, hread, hsame.2 ⟨nofun, fun _ => by decide +kernel⟩, ?_⟩
  rw [hkept "owner" (by decide)]
  decide +kernel

end RecordSearch
