/-!
# Common beginnings

Keys of records are told apart by what they start with.

## Main definitions

* `hasStart` — whether a text starts with another one.
* `stripStart` — a text without the beginning it shares with another one, if it has all of it.
* `hasStart_append`, `stripStart_append` — both on a text put behind a beginning.
-/

namespace RecordSearch

/-- Whether a text starts with another one. -/
def hasStart (start text : String) : Bool :=
  start.toList.isPrefixOf text.toList

/-- A text without the beginning given, or the whole text if it starts otherwise. -/
def stripStart (start text : String) : String :=
  if hasStart start text then String.ofList (text.toList.drop start.toList.length) else text

@[simp] theorem hasStart_append (start rest : String) : hasStart start (start ++ rest) = true := by
  simp [hasStart]

@[simp] theorem stripStart_append (start rest : String) : stripStart start (start ++ rest) = rest := by
  simp [stripStart]

end RecordSearch
