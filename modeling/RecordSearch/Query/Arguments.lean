import RecordSearch.Numeric.Literal
import RecordSearch.Query.Basic
import RecordSearch.Storage.Error

/-!
# Search arguments

A compiled query and a page become the flat argument list of a search command, and a store reads the
options back from the arguments that follow the query text.

## Main definitions

* `searchArguments` — writing the list.
* `SearchOptions`, `SearchOptions.read` — reading it; option names may be in any ASCII case, and unknown
  ones are passed over.
-/

namespace RecordSearch

/-- The greatest unsigned 64-bit integer. -/
def maxWord : Nat := UInt64.size - 1

/-- Where a page starts, held at the greatest word. -/
def pageOffset (page pageSize : UInt64) : Nat :=
  min (page.toNat * pageSize.toNat) maxWord

/-- The arguments that decide what is returned. -/
def CompiledQuery.contentArguments (q : CompiledQuery) : List String :=
  if !q.withContent then ["NOCONTENT"]
  else if q.returnFields.isEmpty then []
  else "RETURN" :: toString q.returnFields.length :: q.returnFields

/-- The arguments that decide the order. -/
def CompiledQuery.sortArguments (q : CompiledQuery) : List String :=
  match q.sorting? with
  | none => []
  | some s => ["SORTBY", s.field, s.direction.keyword]

/-- The arguments of a search for one page; a page of size zero still asks for one record. -/
def searchArguments (index : String) (q : CompiledQuery) (page pageSize : UInt64) (dialect : UInt32) :
    List String :=
  [index, q.text] ++ q.contentArguments ++
    ["LIMIT", toString (pageOffset page pageSize), toString (max pageSize.toNat 1)] ++
    q.sortArguments ++ ["DIALECT", toString dialect.toNat]

/-- The options of a search. -/
structure SearchOptions where
  noContent : Bool := false
  /-- The fields wanted; `none` means all. -/
  returned? : Option (List String) := none
  offset : UInt64 := 0
  count : UInt64 := 10
  /-- The field that orders the results, and whether the largest comes first. -/
  sorting? : Option (String × Bool) := none
  deriving DecidableEq, Repr

namespace SearchOptions

/-- The failure of a search whose arguments cannot be read. -/
def malformed (reason : String) : StorageError :=
  .malformedReply "FT.SEARCH" reason

/-- The number at the front of some arguments, and the arguments after it. -/
def takeWord : List String → Except StorageError (UInt64 × List String)
  | [] => .error (malformed "expected a number")
  | arg :: rest =>
    match readWord? arg with
    | some n => .ok (n, rest)
    | none => .error (malformed "expected a number")

theorem length_of_takeWord {args rest : List String} {n : UInt64}
    (h : takeWord args = .ok (n, rest)) : rest.length < args.length := by
  cases args with
  | nil => simp [takeWord] at h
  | cons arg tail =>
    cases hw : readWord? arg with
    | none => simp [takeWord, hw] at h
    | some m => simp only [takeWord, hw, Except.ok.injEq, Prod.mk.injEq] at h; simp [h.2]

/-- Read options one after another onto those read before. -/
def readOnto (o : SearchOptions) : List String → Except StorageError SearchOptions
  | [] => .ok o
  | arg :: rest =>
    let name := arg.map Char.toUpper
    if name = "NOCONTENT" then readOnto { o with noContent := true } rest
    else if name = "RETURN" then
      match h : takeWord rest with
      | .error e => .error e
      | .ok (n, rest') =>
        have := length_of_takeWord h
        if rest'.length < n.toNat then .error (malformed "short RETURN list")
        else readOnto { o with returned? := some (rest'.take n.toNat) } (rest'.drop n.toNat)
    else if name = "LIMIT" then
      match h : takeWord rest with
      | .error e => .error e
      | .ok (offset, rest') =>
        have := length_of_takeWord h
        match h' : takeWord rest' with
        | .error e => .error e
        | .ok (count, rest'') =>
          have := length_of_takeWord h'
          readOnto { o with offset := offset, count := count } rest''
    else if name = "SORTBY" then
      match rest with
      | [] => .error (malformed "SORTBY without field")
      | [field] => readOnto { o with sorting? := some (field, false) } []
      | field :: direction :: rest' =>
        readOnto { o with sorting? := some (field, direction.map Char.toUpper = "DESC") } rest'
    else if name = "DIALECT" then
      match h : takeWord rest with
      | .error e => .error e
      | .ok (_, rest') =>
        have := length_of_takeWord h
        readOnto o rest'
    else readOnto o rest
termination_by args => args.length
decreasing_by
  all_goals
    simp only [List.length_cons, List.length_drop, List.length_nil]
    omega

/-- The options in the arguments after the query text. -/
def read (args : List String) : Except StorageError SearchOptions :=
  readOnto {} args

end SearchOptions

end RecordSearch
