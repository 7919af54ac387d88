import RecordSearch.Text.Printable

/-!
# Quoted text

Messages and renderings show a text between double quotes. A quote and a backslash get a backslash
before them, tab, line feed, carriage return and NUL their letter, and every other character that is not
printable its code point in hexadecimal between braces.

## Main definitions

* `quoteChar` — one character inside quotes.
* `quoted` — a text in quotes.
-/

namespace RecordSearch

/-- A character as it is written between double quotes. -/
def quoteChar (c : Char) : List Char :=
  if c = '"' then ['\\', '"']
  else if c = '\\' then ['\\', '\\']
  else if c = '\t' then ['\\', 't']
  else if c = '\n' then ['\\', 'n']
  else if c = '\r' then ['\\', 'r']
  else if c = '\x00' then ['\\', '0']
  else if isPrintable c then [c]
  else '\\' :: 'u' :: '\x7b' :: Nat.toDigits 16 c.toNat ++ ['\x7d']

/-- A text between double quotes. -/
def quoted (text : String) : String :=
  String.ofList ('"' :: text.toList.flatMap quoteChar ++ ['"'])

end RecordSearch
