import RecordSearch.Proofs.Except
import RecordSearch.Proofs.Index.Metadata
import RecordSearch.Proofs.Storage.Matching
import RecordSearch.Storage.Server

/-!
# What a store in memory holds

What a new store holds after some commands is known from its writes alone. A hash is stored under every key
that was written to, and its fields are those that were written there, the last value of each. A key that no
field was ever written to is no exception: it has a hash without fields, and searches count it, though reading
the hash tells nothing of it. A store on a server has no such keys, for writing no fields sends nothing there.

## Main definitions

* `Command.written?` — the fields that a command writes to a key.
* `MemoryStore.run` — a store after some commands.
* `MemoryStore.HasFields` — reading a hash shows fields.
* `Reply.Tallies` — a reply to a search counts some keys, and returns no others.

## Main results

* `MemoryStore.get?_hashes_run` — what any store holds under a key after some commands.
* `MemoryStore.tallied_have_fields_iff` — when all keys that a search counts have fields, and when writing no
  fields changes nothing.
-/

namespace RecordSearch

theorem Table.insert_ne_empty {α : Type} (t : Table α) (key : String) (value : α) :
    t.insert key value ≠ .empty := by
  intro h
  have hget := t.get?_insert_self key value
  rw [h, get?_empty] at hget
  contradiction

/-- What is inserted into a table leaves it empty only if it was, and nothing is. -/
theorem Table.insertAll_eq_empty_iff {α : Type} {t : Table α} {pairs : List (String × α)} :
    t.insertAll pairs = .empty ↔ t = .empty ∧ pairs = [] := by
  induction pairs generalizing t with
  | nil => exact (and_iff_left rfl).symm
  | cons p pairs ih =>
    rw [insertAll_cons, ih]
    exact iff_of_false (fun h => t.insert_ne_empty p.1 p.2 h.1) (fun h => absurd h.2 (List.cons_ne_nil _ _))

theorem Table.insert_eq_self {α : Type} {t : Table α} {key : String} {value : α}
    (h : t.get? key = some value) : t.insert key value = t := by
  apply Table.ext_get?
  intro other
  rw [get?_insert]
  split
  case isTrue heq => rw [← heq, h]
  case isFalse => rfl

/-! ## Writes -/

/-- The fields that a command writes to a key, if it is a write to that key. -/
def Command.written? (key : String) : Command → Option (List (String × String))
  | .writeHash k fields => if k = key then some fields else none
  | _ => none

theorem Command.written?_eq_some_iff {c : Command} {key : String} {fields : List (String × String)} :
    c.written? key = some fields ↔ c = .writeHash key fields := by
  cases c with
  | writeHash k written => simp [written?]
  | createIndex | dropIndex | search | readHash => simp [written?]

/-- The lists of fields that some commands write to a key, in turn. -/
def writesTo (key : String) (cs : List Command) : List (List (String × String)) :=
  cs.filterMap (Command.written? key)

theorem mem_writesTo_iff {key : String} {cs : List Command} {fields : List (String × String)} :
    fields ∈ writesTo key cs ↔ .writeHash key fields ∈ cs := by
  simp [writesTo, List.mem_filterMap, Command.written?_eq_some_iff]

theorem writesTo_ne_nil_iff {key : String} {cs : List Command} :
    writesTo key cs ≠ [] ↔ ∃ fields, .writeHash key fields ∈ cs := by
  simp only [← mem_writesTo_iff, Ne, List.eq_nil_iff_forall_not_mem, not_forall, not_not]

namespace MemoryStore

/-- A store after some commands. -/
def run (m : MemoryStore) (cs : List Command) : MemoryStore :=
  cs.foldl (fun m c => (Storage.respond c m).2) m

theorem run_cons (m : MemoryStore) (c : Command) (cs : List Command) :
    m.run (c :: cs) = (Storage.respond c m).2.run cs := rfl

theorem hashes_createIndex (m : MemoryStore) (arguments : List String) :
    (m.createIndex arguments).2.hashes = m.hashes := by
  unfold createIndex
  split
  · rfl
  · cases arguments with
    | nil => rfl
    | cons name rest =>
      dsimp only
      split <;> rfl

/-- Only a write to a key changes what is stored under it. -/
theorem get?_hashes_respond (m : MemoryStore) (c : Command) (key : String) :
    (Storage.respond c m).2.hashes.get? key =
      ((c.written? key).map ((m.hashes.get? key).getD .empty).insertAll).or (m.hashes.get? key) := by
  cases c with
  | writeHash k fields =>
    change (m.hashes.insert k _).get? key = _
    rw [Table.get?_insert, Command.written?]
    split
    case isTrue heq => rw [heq]; rfl
    case isFalse => rfl
  | createIndex arguments => exact congrArg (Table.get? · key) (m.hashes_createIndex arguments)
  | dropIndex | search | readHash => rfl

/-- What a store holds under a key after some commands: what it held, and the fields written there put over
it; but a key that is written to has a hash even if there are none. -/
theorem get?_hashes_run (m : MemoryStore) (cs : List Command) (key : String) :
    (m.run cs).hashes.get? key =
      if writesTo key cs = [] then m.hashes.get? key
      else some (((m.hashes.get? key).getD .empty).insertAll (writesTo key cs).flatten) := by
  -- The first command may find a hash or make one, so the rest starts from any store.
  induction cs generalizing m with
  | nil => rfl
  | cons c cs ih =>
    rw [run_cons, ih, get?_hashes_respond]
    unfold writesTo
    rw [List.filterMap_cons]
    cases c.written? key with
    | none => rfl
    | some fields =>
      dsimp only
      rw [if_neg (List.cons_ne_nil _ _), List.flatten_cons, Table.insertAll_append]
      split
      case isTrue hnone => rw [hnone]; rfl
      case isFalse => rfl

/-- Writing no fields to a key changes nothing exactly if there is a hash under it. -/
theorem respond_writeHash_nil_iff (m : MemoryStore) (key : String) :
    (Storage.respond (.writeHash key []) m).2 = m ↔ m.hashes.contains key = true := by
  change m.writeHash key [] = m ↔ _
  constructor
  · intro h
    rw [← h, writeHash, Table.contains, Table.get?_insert_self]
    rfl
  · intro h
    obtain ⟨fields, hfields⟩ := Option.isSome_iff_exists.1 h
    rw [writeHash, hfields, Option.getD_some]
    exact congrArg (fun hashes => { m with hashes := hashes }) (Table.insert_eq_self hfields)

/-! ## A store that was new -/

/-- Reading the hash under a key shows fields. -/
def HasFields (m : MemoryStore) (key : String) : Prop :=
  ∃ fields, (Storage.respond (.readHash key) m).1 = .ok fields ∧ fields ≠ .empty

variable {cs : List Command} {key : String}

/-- A hash is stored under every key that was written to. -/
theorem contains_run_iff :
    (run {} cs).hashes.contains key = true ↔ ∃ fields, .writeHash key fields ∈ cs := by
  rw [← writesTo_ne_nil_iff, Table.contains, get?_hashes_run]
  split
  case isTrue hnone => exact iff_of_false Bool.false_ne_true fun h => h hnone
  case isFalse hsome => exact iff_of_true rfl hsome

/-- Reading a hash shows what was written to its key. -/
theorem respond_readHash_run :
    (Storage.respond (.readHash key) (run {} cs)).1 = .ok (.ofList (writesTo key cs).flatten) := by
  change Except.ok (((run {} cs).hashes.get? key).getD .empty) = _
  rw [get?_hashes_run]
  split
  case isTrue hnone => rw [hnone]; rfl
  case isFalse => rfl

/-- A hash shows fields if any were written to its key. -/
theorem hasFields_run_iff :
    (run {} cs).HasFields key ↔ ∃ fields, fields ≠ [] ∧ .writeHash key fields ∈ cs := by
  have hfields : (run {} cs).HasFields key ↔ (writesTo key cs).flatten ≠ [] := by
    simp only [HasFields, respond_readHash_run, Except.ok.injEq, exists_eq_left', Table.ofList]
    rw [Ne, Table.insertAll_eq_empty_iff, eq_self_iff_true, true_and]
  rw [hfields, Ne, List.flatten_eq_nil_iff]
  simp only [not_forall, mem_writesTo_iff, exists_prop, and_comm]

end MemoryStore

/-! ## Searches -/

/-- The reply to a search counts some keys, each once, and returns no others. -/
def Reply.Tallies (reply : Reply) (keys : List String) : Prop :=
  keys.Nodup ∧ ∃ items, reply = .array (.int (Int64.ofNat keys.length) :: items) ∧
    ∀ key, Reply.ofText key ∈ items → key ∈ keys

theorem Reply.ofText_injective {a b : String} (h : Reply.ofText a = Reply.ofText b) : a = b := by
  have htext := congrArg Reply.text? h
  rw [text?_ofText, text?_ofText] at htext
  exact Option.some.inj htext

namespace MemoryStore

theorem eq_of_ofText_mem_hitItems {o : SearchOptions} {e : Entry} {key : String}
    (h : Reply.ofText key ∈ hitItems o e) : key = e.1 := by
  unfold hitItems at h
  split at h
  · exact Reply.ofText_injective (List.mem_singleton.1 h)
  · -- Behind the key there is only the list of its fields, which is no text.
    rcases List.mem_cons.1 h with h | h
    · exact Reply.ofText_injective h
    · exact absurd (List.mem_singleton.1 h) nofun

/-- A search counts the keys that it matches, and returns some of them. -/
theorem searchReply_tallies (m : MemoryStore) (start : String) (o : SearchOptions) :
    (m.searchReply start o).Tallies (m.matchingKeys start o.sorting?) := by
  have hlength : (m.matchingKeys start o.sorting?).length = (m.matching start o.sorting?).length :=
    List.length_map _
  unfold Reply.Tallies
  rw [hlength]
  refine ⟨m.nodup_matchingKeys start o.sorting?, _, rfl, fun key hkey => ?_⟩
  obtain ⟨e, he, hitem⟩ := List.mem_flatMap.1 hkey
  rw [eq_of_ofText_mem_hitItems hitem]
  exact List.mem_map_of_mem (List.mem_of_mem_drop (List.mem_of_mem_take he))

/-- A search that is answered is one on a live index. -/
theorem exists_of_search_eq_ok {m : MemoryStore} {arguments : List String} {reply : Reply}
    (h : m.search arguments = .ok reply) :
    ∃ start o, arguments.head?.bind m.keyStart? = some start ∧ reply = m.searchReply start o := by
  unfold search at h
  split at h
  · contradiction
  · cases arguments with
    | nil => contradiction
    | cons index rest =>
      dsimp only at h
      cases hstart : m.keyStart? index with
      | none =>
        rw [hstart] at h
        contradiction
      | some start =>
        rw [hstart] at h
        obtain ⟨o, -, rfl⟩ := map_eq_ok_iff.1 h
        exact ⟨start, o, hstart, rfl⟩

/-- After any commands on a new store, a search that is answered counts the keys under the prefix of its index
that were written to. They all have fields exactly if some field was written to each of them. Writing no
fields changes nothing exactly if the key was written to before, while on a server it never does. -/
theorem tallied_have_fields_iff (cs : List Command) :
    let m := run {} cs
    (∀ arguments reply, (Storage.respond (.search arguments) m).1 = .ok reply →
      ∃ start keys, arguments.head?.bind m.keyStart? = some start ∧ reply.Tallies keys ∧
        (∀ key, key ∈ keys ↔ hasStart start key = true ∧ ∃ fields, .writeHash key fields ∈ cs) ∧
        ((∀ key ∈ keys, m.HasFields key) ↔
          ∀ key fields, hasStart start key = true → .writeHash key fields ∈ cs →
            ∃ more, more ≠ [] ∧ .writeHash key more ∈ cs)) ∧
    (∀ key, (Storage.respond (.writeHash key []) m).2 = m ↔ ∃ fields, .writeHash key fields ∈ cs) ∧
    ∀ (key : String) (s : ServerScript), Storage.respond (.writeHash key []) s = (.ok (), s) := by
  intro m
  refine ⟨fun arguments reply h => ?_, fun key => ?_, fun _ _ => rfl⟩
  · obtain ⟨start, o, hstart, rfl⟩ := exists_of_search_eq_ok h
    have hkeys (key : String) : key ∈ m.matchingKeys start o.sorting? ↔
        hasStart start key = true ∧ ∃ fields, .writeHash key fields ∈ cs := by
      rw [mem_matchingKeys, contains_run_iff, and_comm]
    refine ⟨start, _, hstart, m.searchReply_tallies start o, hkeys, ?_⟩
    constructor
    · intro hall key fields hunder hwritten
      exact hasFields_run_iff.1 (hall key ((hkeys key).2 ⟨hunder, fields, hwritten⟩))
    · intro hwrites key hkey
      obtain ⟨hunder, fields, hwritten⟩ := (hkeys key).1 hkey
      exact hasFields_run_iff.2 (hwrites key fields hunder hwritten)
  · rw [respond_writeHash_nil_iff, contains_run_iff]

/-- The arguments that create an index of notes. -/
def notesIndex : List String :=
  ["notes", "ON", "HASH", "PREFIX", "1", "notes:", "SCHEMA", "rank", "NUMERIC"]

/-- A note is given its first field late, and a draft never. -/
def lateFields : List Command :=
  [.createIndex notesIndex, .writeHash "notes:1" [], .writeHash "drafts:1" [],
    .writeHash "notes:1" [("rank", "1")]]

/-- The draft is no note, so all that a search for notes counts has fields. -/
theorem tallied_have_fields_of_late :
    let m := run {} lateFields
    ∃ reply keys, (Storage.respond (.search ["notes", "*"]) m).1 = .ok reply ∧ reply.Tallies keys ∧
      "notes:1" ∈ keys ∧ ∀ key ∈ keys, m.HasFields key := by
  intro m
  have hwrites {key : String} {fields : List (String × String)} (h : .writeHash key fields ∈ lateFields) :
      key = "notes:1" ∨ key = "drafts:1" := by
    grind [lateFields]
  obtain ⟨hsearch, -⟩ := tallied_have_fields_iff lateFields
  have hok : (Storage.respond (.search ["notes", "*"]) m).1.isOk = true := by decide +kernel
  cases hreply : (Storage.respond (.search ["notes", "*"]) m).1 with
  | error e => rw [hreply] at hok; contradiction
  | ok reply =>
    obtain ⟨start, keys, hstart, htallies, hkeys, hfields⟩ := hsearch ["notes", "*"] reply hreply
    have hnotes : m.keyStart? "notes" = some "notes:" := by decide +kernel
    obtain rfl : "notes:" = start := Option.some.inj (hnotes.symm.trans hstart)
    refine ⟨reply, keys, rfl, htallies, (hkeys _).2 ⟨by decide, [], by simp [lateFields]⟩,
      hfields.2 fun key fields hunder hwritten => ?_⟩
    rcases hwrites hwritten with rfl | rfl
    · exact ⟨[("rank", "1")], List.cons_ne_nil _ _, by simp [lateFields]⟩
    · contradiction

/-- A note that no field was written to is counted and returned. -/
theorem tallied_without_fields :
    let m := run {} [.createIndex notesIndex]
    let written := (Storage.respond (.writeHash "notes:1" []) m).2
    (Storage.respond (.search ["notes", "*", "NOCONTENT"]) written).1 =
      .ok (.array [.int 1, .ofText "notes:1"]) ∧
    ¬ written.HasFields "notes:1" ∧ written ≠ m := by
  intro m written
  refine ⟨?_, ?_, by decide +kernel⟩
  · have hstart : written.keyStart? "notes" = some "notes:" := by decide +kernel
    have hunder : written.under "notes:" = [("notes:1", .empty)] := by decide +kernel
    have hread : SearchOptions.read ["NOCONTENT"] = .ok { noContent := true } := by decide +kernel
    have hsearch : written.search ["notes", "*", "NOCONTENT"] =
        (SearchOptions.read ["NOCONTENT"]).map (written.searchReply "notes:") := by
      rw [search, if_neg (by decide +kernel), hstart]
      rfl
    change written.search ["notes", "*", "NOCONTENT"] = _
    rw [hsearch, hread]
    change Except.ok (written.searchReply "notes:" { noContent := true }) = _
    unfold searchReply matching
    dsimp only
    rw [hunder]
    rfl
  · have hrun : written = run {} [.createIndex notesIndex, .writeHash "notes:1" []] := rfl
    rw [hrun, hasFields_run_iff]
    simp

end MemoryStore

end RecordSearch
