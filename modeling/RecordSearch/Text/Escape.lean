import RecordSearch.Text.Blank

/-!
# Escaped literals

Query syntax reserves a set of punctuation characters and all white space. A literal is written with a
backslash before each of them, and read by dropping each backslash and keeping what follows it.

## Main definitions

* `isReserved` — whether a character needs a backslash.
* `escape`, `unescape` — writing and reading a literal.
* `hasFieldMarker` — whether a clause mentions a field: an `@` that no backslash precedes.
* `unescape_escape` — reading undoes writing.
-/

namespace RecordSearch

/-- Punctuation with a meaning in query syntax. -/
def reservedChars : List Char :=
  [',', '.', '<', '>', '{', '}', '[', ']', '"', '\x27', ':', ';', '!', '@', '#', '$', '%', '^', '&', '*',
    '(', ')', '-', '+', '=', '~', '|', '/', '\\', '?', '\x60']

/-- Whether a character of a literal needs a backslash. -/
def isReserved (c : Char) : Bool :=
  isBlank c || reservedChars.contains c

/-- Characters with a backslash before each reserved one. -/
def escapeChars : List Char → List Char
  | [] => []
  | c :: rest => if isReserved c then '\\' :: c :: escapeChars rest else c :: escapeChars rest

/-- A literal as it stands in a query. -/
def escape (text : String) : String :=
  String.ofList (escapeChars text.toList)

/-- Each backslash gives way to the character after it; one at the very end stands for itself. -/
def unescapeChars : List Char → List Char
  | [] => []
  | ['\\'] => ['\\']
  | '\\' :: c :: rest => c :: unescapeChars rest
  | c :: rest => c :: unescapeChars rest

/-- The literal that a piece of a query writes. -/
def unescape (text : String) : String :=
  String.ofList (unescapeChars text.toList)

/-- Whether an `@` stands among the characters without a backslash before it. -/
def hasMarker : List Char → Bool
  | [] => false
  | '@' :: _ => true
  | ['\\'] => false
  | '\\' :: _ :: rest => hasMarker rest
  | _ :: rest => hasMarker rest

/-- Whether a clause mentions a field. -/
def hasFieldMarker (clause : String) : Bool :=
  hasMarker clause.toList

theorem isReserved_backslash : isReserved '\\' = true := by decide

theorem unescapeChars_escapeChars (cs : List Char) : unescapeChars (escapeChars cs) = cs := by
  induction cs with
  | nil => rfl
  | cons c rest ih =>
    by_cases h : isReserved c
    · simp [escapeChars, h, unescapeChars, ih]
    · have hc : c ≠ '\\' := fun e => h (e ▸ isReserved_backslash)
      rw [escapeChars, if_neg h]
      cases rest with
      | nil => simp [escapeChars, unescapeChars, hc]
      | cons d r => simp [unescapeChars, hc, ih]

/-- Reading a written literal gives it back. -/
theorem unescape_escape (text : String) : unescape (escape text) = text := by
  simp [unescape, escape, unescapeChars_escapeChars]

end RecordSearch
