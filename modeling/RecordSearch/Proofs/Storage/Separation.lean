import RecordSearch.Proofs.Engine.States
import RecordSearch.Proofs.Storage.Matching

/-!
# Whose records a search matches

The keys of a model's records start with the name of its index and a colon, and a search matches every key
that starts so. A name may hold colons itself, and so may an id; then the keys of two models run into each
other. That happens where one name goes on behind the other at a colon, and nowhere else: names without
colons keep models apart, and so do names that only share a beginning.

## Main definitions

* `Config.recordKey` — the key of a model's record.
* `MemoryStore.Matches` — a key is among those that a search on an index matches.
* `RunsInto` — the records of one model lie under the prefix of another.

## Main results

* `hasStart_keyStart_iff` — when a key starts with the prefix of another model.
* `matches_foreign_iff` — when a search on one model matches a record of another.
-/

namespace RecordSearch

/-- The key of a model's record. -/
def Config.recordKey (c : Config) (d : Descriptor) (id : String) : String :=
  keyStart (physicalName d.indexName c.scope?) ++ id

/-- The key is among those that a search on an index matches. -/
def MemoryStore.Matches (m : MemoryStore) (index : String) (sorting? : Option (String × Bool))
    (key : String) : Prop :=
  ∃ start, m.keyStart? index = some start ∧ key ∈ m.matchingKeys start sorting?

/-- The name of the record's model goes on behind the other name at a colon; or the other name goes on
behind it, and the id goes on alike. -/
def RunsInto (other own id : String) : Prop :=
  (∃ rest, own = other ++ ":" ++ rest) ∨
    ∃ rest, other = own ++ ":" ++ rest ∧ hasStart (rest ++ ":") id = true

/-- A list closed by a mark begins another one with that mark in it if they agree up to one of its marks. -/
theorem concat_prefix_append_cons_iff {α : Type} {a b after : List α} {c : α} :
    a ++ [c] <+: b ++ c :: after ↔
      (∃ rest, b = a ++ c :: rest) ∨ a = b ∨
        ∃ rest, a = b ++ c :: rest ∧ rest ++ [c] <+: after := by
  constructor
  · rintro ⟨tail, hwhole⟩
    rw [List.append_assoc, List.append_eq_append_iff] at hwhole
    -- One of the two lists is the longer one; what it has more is nothing, or starts with the mark.
    rcases hwhole with ⟨_ | ⟨x, more⟩, hb, hmark⟩ | ⟨_ | ⟨x, more⟩, ha, hmark⟩
    · exact .inr (.inl (by rw [hb, List.append_nil]))
    · obtain ⟨rfl, -⟩ := List.cons.inj hmark
      exact .inl ⟨more, hb⟩
    · exact .inr (.inl (by rw [ha, List.append_nil]))
    · obtain ⟨rfl, hafter⟩ := List.cons.inj hmark
      refine .inr (.inr ⟨more, ha, tail, ?_⟩)
      rw [List.append_assoc]
      exact hafter.symm
  · rintro (⟨rest, rfl⟩ | rfl | ⟨rest, rfl, hrest⟩)
    · exact ⟨rest ++ c :: after, by simp⟩
    · exact ⟨after, by simp⟩
    · rw [List.append_assoc, List.cons_append, List.prefix_append_right_inj]
      exact List.cons_prefix_cons.2 ⟨rfl, hrest⟩

theorem hasStart_iff {start text : String} :
    hasStart start text = true ↔ start.toList <+: text.toList :=
  List.isPrefixOf_iff_prefix

/-- A record's key starts with the prefix of a model of another name exactly if the names run into each
other. -/
theorem hasStart_keyStart_iff {a b : String} (hne : a ≠ b) (nameSpace? : Option String) (id : String) :
    hasStart (keyStart (physicalName a nameSpace?)) (keyStart (physicalName b nameSpace?) ++ id) = true ↔
      RunsInto a b id := by
  have hlists : a.toList ≠ b.toList := fun h => hne (String.toList_injective h)
  have hcolon : ":".toList = [':'] := rfl
  have hsame (s t : String) (rest : List Char) :
      s.toList = t.toList ++ ':' :: rest ↔ s = t ++ ":" ++ String.ofList rest := by
    rw [← String.toList_inj]
    simp [hcolon]
  have hid (rest : List Char) :
      rest ++ [':'] <+: id.toList ↔ hasStart (String.ofList rest ++ ":") id = true := by
    rw [hasStart_iff, String.toList_append, String.toList_ofList, hcolon]
  rw [hasStart_iff]
  simp only [keyStart, physicalName, String.toList_append, List.append_assoc, hcolon]
  rw [List.prefix_append_right_inj, List.singleton_append, concat_prefix_append_cons_iff,
    or_iff_right_of_imp (a := a.toList = b.toList) fun h => absurd h hlists]
  simp only [hsame, hid]
  constructor
  · rintro (⟨rest, hrest⟩ | ⟨rest, hrest, hstart⟩)
    · exact .inl ⟨_, hrest⟩
    · exact .inr ⟨_, hrest, hstart⟩
  · rintro (⟨rest, hrest⟩ | ⟨rest, hrest, hstart⟩)
    · exact .inl ⟨rest.toList, by rwa [String.ofList_toList]⟩
    · exact .inr ⟨rest.toList, by rwa [String.ofList_toList], by rwa [String.ofList_toList]⟩

/-- Names without colons keep models apart. -/
theorem not_runsInto_of_plain {a b : String} (ha : ':' ∉ a.toList) (hb : ':' ∉ b.toList) (id : String) :
    ¬ RunsInto a b id := by
  rintro (⟨rest, rfl⟩ | ⟨rest, rfl, -⟩)
  · simp at hb
  · simp at ha

/-- Of two models of different index names: the key of a record of the one starts with the prefix of the
other exactly if the names run into each other; and exactly then a search on the live index of the other
matches the record, if it is stored. -/
theorem matches_foreign_iff {d e : Descriptor} (hne : d.indexName ≠ e.indexName) (config : Config)
    (id : String) :
    (hasStart (keyStart (config.indexOf d)) (config.recordKey e id) = true ↔
      RunsInto d.indexName e.indexName id) ∧
    ∀ (index : IndexDefinition) (m : MemoryStore) (sorting? : Option (String × Bool)),
      IndexDefinition.ofDescriptor? d config.scope? = some index →
      m.indexes.get? index.name = some index.createArguments →
      (m.Matches index.name sorting? (config.recordKey e id) ↔
        m.hashes.contains (config.recordKey e id) = true ∧ RunsInto d.indexName e.indexName id) := by
  have hkeys := hasStart_keyStart_iff hne config.scope? id
  refine ⟨hkeys, fun index m sorting? hindex hlive => ?_⟩
  have hcovers : m.keyStart? index.name = some index.keyStart := by
    rw [MemoryStore.keyStart?, hlive]
    rfl
  have hstart : index.keyStart = keyStart (physicalName d.indexName config.scope?) := by
    rw [keyStart_of_ofDescriptor? hindex, name_of_ofDescriptor? hindex]
  have hmatches : m.Matches index.name sorting? (config.recordKey e id) ↔
      config.recordKey e id ∈ m.matchingKeys index.keyStart sorting? := by
    rw [MemoryStore.Matches, hcovers]
    simp
  rw [hmatches, m.mem_matchingKeys index.keyStart sorting?, hstart]
  exact and_congr_right fun _ => hkeys

/-- Notes with a rank, under some index name. -/
def rankedNotes (indexName : String) : Descriptor :=
  ⟨indexName, [⟨"rank", .numeric, false, .int64⟩], []⟩

/-- A note under its key, and the live indexes of two models whose names go on one behind the other. -/
def nestedStore (key : String) : MemoryStore where
  hashes := .ofList [(key, .ofList [("rank", "1")])]
  indexes := .ofList [("notes", ["notes", "ON", "HASH", "PREFIX", "1", "notes:", "SCHEMA", "rank", "NUMERIC"]),
    ("notes:old",
      ["notes:old", "ON", "HASH", "PREFIX", "1", "notes:old:", "SCHEMA", "rank", "NUMERIC"])]

/-- An id that goes on like the name of another model, whose index is live. -/
theorem matches_foreign_of_id :
    (nestedStore "notes:old:7").indexes.get? "notes:old" =
      some ["notes:old", "ON", "HASH", "PREFIX", "1", "notes:old:", "SCHEMA", "rank", "NUMERIC"] ∧
    (rankedNotes "notes:old").indexName ≠ (rankedNotes "notes").indexName ∧
    (nestedStore "notes:old:7").Matches "notes:old" none
      (Config.recordKey {} (rankedNotes "notes") "old:7") := by
  have hindex : IndexDefinition.ofDescriptor? (rankedNotes "notes:old") (Config.scope? {}) =
      some ⟨"notes:old", "notes:old:", [⟨"rank", .numeric, false⟩]⟩ := by decide
  have hlive : (nestedStore "notes:old:7").indexes.get? "notes:old" = some
      (IndexDefinition.mk "notes:old" "notes:old:" [⟨"rank", .numeric, false⟩]).createArguments := by
    decide +kernel
  have hne : (rankedNotes "notes:old").indexName ≠ (rankedNotes "notes").indexName := by decide
  obtain ⟨-, hmatches⟩ := matches_foreign_iff hne {} "old:7"
  exact ⟨hlive, hne,
    (hmatches _ _ none hindex hlive).2 ⟨by decide +kernel, .inr ⟨"old", rfl, by decide⟩⟩⟩

/-- Models of different names, both with their index live: a search on the one matches a record of the
other. -/
theorem matches_nested_name :
    (rankedNotes "notes").indexName ≠ (rankedNotes "notes:old").indexName ∧
    (IndexDefinition.ofDescriptor? (rankedNotes "notes") (Config.scope? {})).map (·.createArguments) =
      (nestedStore "notes:old:1").indexes.get? "notes" ∧
    Config.recordKey {} (rankedNotes "notes:old") "1" = "notes:old:1" ∧
    (nestedStore "notes:old:1").Matches "notes" none "notes:old:1" := by
  refine ⟨by decide, by decide +kernel, by decide, "notes:", by decide +kernel, by decide +kernel⟩

end RecordSearch
