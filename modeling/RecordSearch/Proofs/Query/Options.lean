import RecordSearch.Proofs.Numeric.Word
import RecordSearch.Query.Arguments

/-!
# Search arguments read back

The options that a store reads from the arguments of a search are those that the query and the page stand
for. Names of fields may be anything, the names of options among them, since their number is written
before them.

## Main definitions

* `CompiledQuery.options` — what a query and a page stand for.

## Main results

* `read_searchArguments` — reading gives back what was written.
* `exists_options_searchArguments` — the same, option by option.
-/

namespace RecordSearch

/-- The window, order and content that a query and a page stand for. -/
def CompiledQuery.options (q : CompiledQuery) (page pageSize : UInt64) : SearchOptions where
  noContent := !q.withContent
  returned? := if q.withContent && !q.returnFields.isEmpty then some q.returnFields else none
  offset := UInt64.ofNat (pageOffset page pageSize)
  count := UInt64.ofNat (max pageSize.toNat 1)
  sorting? := q.sorting?.map fun s => (s.field, decide (s.direction = .descending))

namespace SearchOptions

/-! ## One option after another -/

theorem takeWord_toString {n : Nat} (h : n < 2 ^ 64) (rest : List String) :
    takeWord (toString n :: rest) = .ok (UInt64.ofNat n, rest) := by
  rw [takeWord, readWord?_toString h]

/-- Whatever is taken from a written number and what follows it is that number. -/
theorem eq_of_takeWord_toString {n : Nat} (h : n < 2 ^ 64) {rest left : List String} {word : UInt64}
    (htaken : takeWord (toString n :: rest) = .ok (word, left)) :
    UInt64.ofNat n = word ∧ rest = left := by
  rw [takeWord_toString h] at htaken
  exact Prod.mk.inj (Except.ok.inj htaken)

theorem takeWord_toString_ne_error {n : Nat} (h : n < 2 ^ 64) (rest : List String) (e : StorageError) :
    takeWord (toString n :: rest) ≠ .error e := by
  rw [takeWord_toString h]
  nofun

/-- Option names are written in capitals, as they are compared. -/
theorem map_toUpper_eq_self {name : String} (h : name.toList.map Char.toUpper = name.toList) :
    name.map Char.toUpper = name := by
  apply String.toList_injective
  rw [String.toList_map, h]

theorem readOnto_nil (o : SearchOptions) : readOnto o [] = .ok o := by
  rw [readOnto.eq_def]

theorem readOnto_noContent (o : SearchOptions) (rest : List String) :
    readOnto o ("NOCONTENT" :: rest) = readOnto { o with noContent := true } rest := by
  rw [readOnto.eq_def]
  dsimp only
  rw [map_toUpper_eq_self (by decide), if_pos rfl]

theorem readOnto_return (o : SearchOptions) {names : List String} (hnames : names.length < 2 ^ 64)
    (rest : List String) :
    readOnto o ("RETURN" :: toString names.length :: (names ++ rest)) =
      readOnto { o with returned? := some names } rest := by
  have hcount : (UInt64.ofNat names.length).toNat = names.length := UInt64.toNat_ofNat_of_lt' hnames
  rw [readOnto.eq_def]
  dsimp only
  rw [map_toUpper_eq_self (by decide), if_neg (by decide), if_pos rfl]
  split
  · next h => exact absurd h (takeWord_toString_ne_error hnames _ _)
  · next h =>
    obtain ⟨rfl, rfl⟩ := eq_of_takeWord_toString hnames h
    -- As many names are there as are announced, whatever they look like.
    rw [hcount, if_neg (by simp), List.take_left, List.drop_left]

theorem readOnto_limit (o : SearchOptions) {offset count : Nat} (hoffset : offset < 2 ^ 64)
    (hcount : count < 2 ^ 64) (rest : List String) :
    readOnto o ("LIMIT" :: toString offset :: toString count :: rest) =
      readOnto { o with offset := UInt64.ofNat offset, count := UInt64.ofNat count } rest := by
  rw [readOnto.eq_def]
  dsimp only
  rw [map_toUpper_eq_self (by decide), if_neg (by decide), if_neg (by decide), if_pos rfl]
  split
  · next h => exact absurd h (takeWord_toString_ne_error hoffset _ _)
  · next h =>
    obtain ⟨rfl, rfl⟩ := eq_of_takeWord_toString hoffset h
    split
    · next h => exact absurd h (takeWord_toString_ne_error hcount _ _)
    · next h =>
      obtain ⟨rfl, rfl⟩ := eq_of_takeWord_toString hcount h
      rfl

theorem readOnto_sortBy (o : SearchOptions) (s : Sorting) (rest : List String) :
    readOnto o ("SORTBY" :: s.field :: s.direction.keyword :: rest) =
      readOnto { o with sorting? := some (s.field, decide (s.direction = .descending)) } rest := by
  rw [readOnto.eq_def]
  dsimp only
  rw [map_toUpper_eq_self (by decide), if_neg (by decide), if_neg (by decide), if_neg (by decide),
    if_pos rfl]
  cases s.direction with
  | ascending =>
    rw [SortDirection.keyword, map_toUpper_eq_self (by decide)]
    rfl
  | descending =>
    rw [SortDirection.keyword, map_toUpper_eq_self (by decide)]
    rfl

theorem readOnto_dialect (o : SearchOptions) {n : Nat} (hn : n < 2 ^ 64) (rest : List String) :
    readOnto o ("DIALECT" :: toString n :: rest) = readOnto o rest := by
  rw [readOnto.eq_def]
  dsimp only
  rw [map_toUpper_eq_self (by decide), if_neg (by decide), if_neg (by decide), if_neg (by decide),
    if_neg (by decide), if_pos rfl]
  split
  · next h => exact absurd h (takeWord_toString_ne_error hn _ _)
  · next h =>
    obtain ⟨rfl, rfl⟩ := eq_of_takeWord_toString hn h
    rfl

/-! ## All of them -/

theorem readOnto_contentArguments {q : CompiledQuery} (hnames : q.returnFields.length < 2 ^ 64)
    (rest : List String) :
    readOnto {} (q.contentArguments ++ rest) =
      readOnto
        { noContent := !q.withContent
          returned? :=
            if q.withContent && !q.returnFields.isEmpty then some q.returnFields else none }
        rest := by
  unfold CompiledQuery.contentArguments
  cases hcontent : q.withContent with
  | false => exact readOnto_noContent {} rest
  | true =>
    cases hreturned : q.returnFields.isEmpty with
    | true => rfl
    | false => exact readOnto_return {} hnames rest

/-- An order is read into options that have none. -/
theorem readOnto_sortArguments (o : SearchOptions) (ho : o.sorting? = none) (q : CompiledQuery)
    (rest : List String) :
    readOnto o (q.sortArguments ++ rest) =
      readOnto { o with
        sorting? := q.sorting?.map fun s => (s.field, decide (s.direction = .descending)) } rest := by
  unfold CompiledQuery.sortArguments
  cases q.sorting? with
  | none =>
    cases o
    cases ho
    rfl
  | some s => exact readOnto_sortBy o s rest

theorem pageOffset_lt (page pageSize : UInt64) : pageOffset page pageSize < 2 ^ 64 := by
  have hheld : pageOffset page pageSize ≤ maxWord := Nat.min_le_right _ _
  exact Nat.lt_of_le_of_lt hheld (by decide)

/-- Reading gives back what was written. -/
theorem read_searchArguments (index : String) {q : CompiledQuery} (page pageSize : UInt64)
    (dialect : UInt32) (hnames : q.returnFields.length < 2 ^ 64) :
    read ((searchArguments index q page pageSize dialect).drop 2) = .ok (q.options page pageSize) := by
  have hcount : max pageSize.toNat 1 < 2 ^ 64 := by
    have hsize := pageSize.toNat_lt
    omega
  have hdialect : dialect.toNat < 2 ^ 64 := Nat.lt_trans dialect.toNat_lt (by decide)
  have harguments : (searchArguments index q page pageSize dialect).drop 2 =
      q.contentArguments ++ "LIMIT" :: toString (pageOffset page pageSize) ::
        toString (max pageSize.toNat 1) ::
          (q.sortArguments ++ ["DIALECT", toString dialect.toNat]) := by
    simp [searchArguments]
  rw [read, harguments, readOnto_contentArguments hnames,
    readOnto_limit _ (pageOffset_lt page pageSize) hcount, readOnto_sortArguments _ rfl,
    readOnto_dialect _ hdialect, readOnto_nil]
  rfl

/-- Behind the index and the query's text stand options that are read as what the query and the page ask
for, whatever the fields are called: whether content is wanted, and of which fields if any are named, from
which match on, held at the greatest word, how many matches, at least one, and in which order. A list in
memory has fewer than `2 ^ 64` members. -/
theorem exists_options_searchArguments (index : String) (q : CompiledQuery) (page pageSize : UInt64)
    (dialect : UInt32) (hnames : q.returnFields.length < 2 ^ 64) :
    ∃ options o, searchArguments index q page pageSize dialect = index :: q.text :: options ∧
      read options = .ok o ∧
      o.noContent = !q.withContent ∧
      o.returned? =
        (if q.withContent = true ∧ q.returnFields ≠ [] then some q.returnFields else none) ∧
      o.offset.toNat = min (page.toNat * pageSize.toNat) (2 ^ 64 - 1) ∧
      o.count.toNat = max 1 pageSize.toNat ∧
      o.sorting? = q.sorting?.map fun s => (s.field, decide (s.direction = .descending)) := by
  refine ⟨_, q.options page pageSize, rfl,
    read_searchArguments index page pageSize dialect hnames, rfl, ?_, ?_, ?_, rfl⟩
  · simp [CompiledQuery.options]
  · exact UInt64.toNat_ofNat_of_lt' (pageOffset_lt page pageSize)
  · have hcount : max pageSize.toNat 1 < 2 ^ 64 := by
      have hsize := pageSize.toNat_lt
      omega
    have hread : (q.options page pageSize).count.toNat = max pageSize.toNat 1 :=
      UInt64.toNat_ofNat_of_lt' hcount
    rw [hread, Nat.max_comm]

/-- Fields that are called like options, and a page that begins beyond the greatest word. -/
def optionNames : CompiledQuery where
  sorting? := some ⟨"NOCONTENT", .descending⟩
  withContent := true
  returnFields := ["LIMIT", "RETURN", "7", "sortby", "LIMIT"]

theorem exists_options_of_optionNames :
    optionNames.returnFields.length < 2 ^ 64 ∧
    ∃ options o, searchArguments "notes" optionNames 9223372036854775808 5 2 =
        "notes" :: "*" :: options ∧
      read options = .ok o ∧ o.noContent = false ∧
      o.returned? = some ["LIMIT", "RETURN", "7", "sortby", "LIMIT"] ∧
      o.offset.toNat = 2 ^ 64 - 1 ∧ o.count.toNat = 5 ∧
      o.sorting? = some ("NOCONTENT", true) := by
  have hnames : optionNames.returnFields.length < 2 ^ 64 := by decide
  obtain ⟨options, o, hargs, hread, hcontent, hreturned, hoffset, hcount, hsorting⟩ :=
    exists_options_searchArguments "notes" optionNames 9223372036854775808 5 2 hnames
  refine ⟨hnames, options, o, hargs, hread, hcontent, ?_, ?_, ?_, hsorting⟩
  · rw [hreturned]
    rfl
  · rw [hoffset]
    decide
  · rw [hcount]
    decide

end SearchOptions

end RecordSearch
