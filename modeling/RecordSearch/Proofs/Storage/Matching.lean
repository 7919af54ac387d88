import Mathlib.Data.List.Nodup
import RecordSearch.Storage.Memory

/-!
# The records a search matches

Whatever orders them, the records that a search in memory matches are those under the key prefix, each
once.

## Main results

* `matching_perm` — an order only moves records about.
* `mem_matchingKeys`, `nodup_matchingKeys` — the keys of the matches.
* `append_stripStart` — a key is its prefix and its id.
-/

namespace RecordSearch

/-- What is cut off a text can be put back. -/
theorem append_stripStart {start text : String} (h : hasStart start text = true) :
    start ++ stripStart start text = text := by
  obtain ⟨rest, hrest⟩ := List.isPrefixOf_iff_prefix.1 h
  apply String.toList_injective
  rw [stripStart, if_pos h, String.toList_append, String.toList_ofList, ← hrest, List.drop_left]

namespace MemoryStore

variable (m : MemoryStore) (start : String) (sorting? : Option (String × Bool))

/-- An order only moves records about. -/
theorem matching_perm : (m.matching start sorting?).Perm (m.under start) := by
  unfold matching
  cases sorting? with
  | none => exact .refl _
  | some order => exact List.mergeSort_perm _ _

theorem mem_matching {e : Entry} :
    e ∈ m.matching start sorting? ↔ m.hashes.get? e.1 = some e.2 ∧ hasStart start e.1 = true := by
  rw [(m.matching_perm start sorting?).mem_iff, under, List.mem_filter, Table.get?_eq_some_iff]

theorem length_matching_le : (m.matching start sorting?).length ≤ m.hashes.size := by
  rw [(m.matching_perm start sorting?).length_eq]
  exact List.length_filter_le _ _

/-- The keys of the matches are the stored keys under the prefix. -/
theorem mem_matchingKeys {key : String} :
    key ∈ m.matchingKeys start sorting? ↔
      m.hashes.contains key = true ∧ hasStart start key = true := by
  rw [matchingKeys, List.mem_map, Table.contains, Option.isSome_iff_exists]
  constructor
  · rintro ⟨e, he, rfl⟩
    obtain ⟨hstored, hstart⟩ := (m.mem_matching start sorting?).1 he
    exact ⟨⟨e.2, hstored⟩, hstart⟩
  · rintro ⟨⟨fields, hstored⟩, hstart⟩
    exact ⟨(key, fields), (m.mem_matching start sorting?).2 ⟨hstored, hstart⟩, rfl⟩

/-- No key matches twice. -/
theorem nodup_matchingKeys : (m.matchingKeys start sorting?).Nodup := by
  -- The keys of a table ascend, so no two are equal, and matches are some of them moved about.
  have hkeys : (m.hashes.entries.map Prod.fst).Nodup := by
    rw [List.nodup_iff_pairwise_ne, List.pairwise_map]
    refine m.hashes.ascending.imp fun {a b} hlt heq => ?_
    rw [heq] at hlt
    exact String.lt_irrefl _ hlt
  have hunder : ((m.under start).map Prod.fst).Nodup :=
    hkeys.sublist (List.filter_sublist.map Prod.fst)
  exact ((m.matching_perm start sorting?).map Prod.fst).nodup_iff.2 hunder

end MemoryStore

end RecordSearch
