import RecordSearch.Proofs.Query.Tree

/-!
# Reading query text

A reader of the query syntax. It looks at the text alone, from left to right, and never goes back: the
first characters of a piece decide what the piece is. Each step of the reader gives what it read with the
text that is left.

## Main definitions

* `takeLiteral`, `takePattern?` — literals, with and without wildcards.
* `takeTest?`, `takeField?` — leaves.
* `takeGroup?`, `takeClause?` — what stands between parentheses, and whole clauses.
* `readQuery?` — the tree of a query's text.
-/

namespace RecordSearch

/-- The text after a character that has to come first. -/
def takeChar? (expected : Char) : List Char → Option (List Char)
  | [] => none
  | c :: rest => if c = expected then some rest else none

/-- The text before a character, and the text after it. -/
def takeUntil? (stop : Char) : List Char → Option (List Char × List Char)
  | [] => none
  | c :: rest =>
    if c = stop then some ([], rest)
    else (takeUntil? stop rest).map (Prod.map (c :: ·) id)

/-- A literal up to the first reserved character that no backslash precedes. -/
def takeLiteral : List Char → List Char × List Char
  | [] => ([], [])
  | c :: rest =>
    if c = '\\' then
      match rest with
      | [] => ([], [c])
      | d :: rest => (takeLiteral rest).map (d :: ·) id
    else if isReserved c then ([], c :: rest)
    else (takeLiteral rest).map (c :: ·) id

theorem takeLiteral_backslash (c : Char) (rest : List Char) :
    takeLiteral ('\\' :: c :: rest) = (takeLiteral rest).map (c :: ·) id := by
  rw [takeLiteral.eq_def]
  rfl

theorem takeLiteral_cons_of_ne {c : Char} (h : c ≠ '\\') (rest : List Char) :
    takeLiteral (c :: rest) =
      if isReserved c then ([], c :: rest) else (takeLiteral rest).map (c :: ·) id := by
  rw [takeLiteral.eq_def]
  exact if_neg h

/-- The wildcard, if it comes first. -/
def takeWildcard : List Char → Bool × List Char
  | [] => (false, [])
  | c :: rest => if c = '*' then (true, rest) else (false, c :: rest)

/-- A literal that is not empty, and the wildcards around it. -/
def takePattern? (text : List Char) : Option (Pattern × List Char) :=
  let (leading, text) := takeWildcard text
  let (literal, text) := takeLiteral text
  let (trailing, rest) := takeWildcard text
  if literal = [] then none else some (⟨leading, .ofList literal, trailing⟩, rest)

/-- A range between brackets, a tag between braces, or a word. -/
def takeTest? : List Char → Option (FieldTest × List Char)
  | '[' :: text => do
    let (low, text) ← takeUntil? ' ' text
    let (high, rest) ← takeUntil? ']' text
    return (.within (.ofList low) (.ofList high), rest)
  | '{' :: text => do
    let (pattern, text) ← takePattern? text
    return (.tag pattern, ← takeChar? '}' text)
  | text => do
    let (pattern, rest) ← takePattern? text
    return (.word pattern, rest)

/-- A name up to the first reserved character, a colon, and what is asked of the field. -/
def takeField? (negated : Bool) (text : List Char) : Option (QueryTree × List Char) :=
  let (name, text) := text.span (!isReserved ·)
  if name = [] then none
  else do
    let (test, rest) ← takeTest? (← takeChar? ':' text)
    return (.field negated (.ofList name) test, rest)

/-- Parts with a blank before each, up to the closing parenthesis; at most as many as the bound. -/
def takeParts? (take : List Char → Option (QueryTree × List Char)) :
    Nat → List Char → Option (List QueryTree × List Char)
  | 0, _ => none
  | _, ')' :: rest => some ([], rest)
  | bound + 1, ' ' :: text => do
    let (part, text) ← take text
    let (parts, rest) ← takeParts? take bound text
    return (part :: parts, rest)
  | _, _ => none

/-- What an opening parenthesis begins: one of two alternatives, or parts that all have to hold. -/
def takeGroup? (take : List Char → Option (QueryTree × List Char)) (text : List Char) :
    Option (QueryTree × List Char) := do
  match ← take text with
  | (first, ' ' :: '|' :: ' ' :: text) =>
    let (second, text) ← take text
    return (.either first second, ← takeChar? ')' text)
  | (first, text) =>
    let (parts, rest) ← takeParts? take text.length text
    return (.all (first :: parts), rest)

/-- A clause whose parentheses are nested less deep than the bound. -/
def takeClause? : Nat → List Char → Option (QueryTree × List Char)
  | 0, _ => none
  | depth + 1, '(' :: text => takeGroup? (takeClause? depth) text
  | depth + 1, '-' :: '(' :: text => do
    let (operand, text) ← takeClause? depth text
    return (.neg operand, ← takeChar? ')' text)
  | _, '-' :: '@' :: text => takeField? true text
  | _, '@' :: text => takeField? false text
  | _, text =>
    let (literal, rest) := takeLiteral text
    if literal = [] then none else some (.literal (.ofList literal), rest)

theorem takeClause?_group (depth : Nat) (text : List Char) :
    takeClause? (depth + 1) ('(' :: text) = takeGroup? (takeClause? depth) text :=
  rfl

/-- The tree of a query's text, if it is one clause or the star that asks for everything. -/
def readQuery? (text : String) : Option QueryTree :=
  if text = "*" then some (.all [])
  else match takeClause? text.length text.toList with
    | some (tree, []) => some tree
    | _ => none

end RecordSearch
