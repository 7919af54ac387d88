import RecordSearch.Calendar.Date
import RecordSearch.Numeric.Literal

/-!
# Instants and spans of time

An instant is counted in seconds since 1970-01-01T00:00:00 and nanoseconds after that second; a leap
second is the second before it with a thousand million nanoseconds or more. A span is counted alike, its
nanoseconds always forward.

## Main definitions

* `Instant`, `Instant.rfc3339` — a point in time and its text.
* `Instant.ofRfc3339?` — the instant that a text in that format denotes.
* `Span`, `Span.wholeSeconds` — a length of time, and its seconds with the fraction cut off.
-/

namespace RecordSearch

/-- Nanoseconds in a second. -/
def nanosPerSecond : Nat := 1000000000

/-- A point in time. -/
structure Instant where
  seconds : Int
  nanos : Nat
  deriving DecidableEq, Repr

/-- A length of time: whole seconds and a forward fraction. -/
structure Span where
  seconds : Int
  nanos : Nat
  deriving DecidableEq, Repr

/-- The seconds of a span, its fraction cut off toward zero. -/
def Span.wholeSeconds (s : Span) : Int :=
  if s.seconds < 0 ∧ 0 < s.nanos then s.seconds + 1 else s.seconds

/-- A number with zeros before it up to a width. -/
def padded (width n : Nat) : String :=
  let digits := Nat.toDigits 10 n
  String.ofList (List.replicate (width - digits.length) '0' ++ digits)

namespace Instant

/-- Four digits at least; years outside `0` to `9999` carry their sign. -/
def yearText (year : Int) : String :=
  if 0 ≤ year ∧ year ≤ 9999 then padded 4 year.toNat
  else (if year < 0 then "-" else "+") ++ padded 4 year.natAbs

/-- A fraction of a second in the first of no, three, six or nine digits that is exact. -/
def fractionText (nanos : Nat) : String :=
  if nanos = 0 then ""
  else if nanos % 1000000 = 0 then "." ++ padded 3 (nanos / 1000000)
  else if nanos % 1000 = 0 then "." ++ padded 6 (nanos / 1000)
  else "." ++ padded 9 nanos

/-- Date and time of day without an offset. -/
def dateTimeText (t : Instant) : String :=
  let date := Date.ofDays (t.seconds / 86400)
  let second := (t.seconds % 86400).toNat
  yearText date.year ++ "-" ++ padded 2 date.month ++ "-" ++ padded 2 date.day ++ "T" ++
    padded 2 (second / 3600) ++ ":" ++ padded 2 (second / 60 % 60) ++ ":" ++
    padded 2 (second % 60 + t.nanos / nanosPerSecond) ++ fractionText (t.nanos % nanosPerSecond)

/-- The text of an instant, with the offset of universal time. -/
def rfc3339 (t : Instant) : String :=
  t.dateTimeText ++ "+00:00"

/-- The number that exactly `width` digits write, and what follows them. -/
def takeNumber? (width : Nat) (cs : List Char) : Option (Nat × List Char) :=
  let digits := cs.take width
  if digits.length = width ∧ digits.all Char.isDigit then
    some (ofDigits digits, cs.drop width)
  else none

/-- What follows one of the given characters. -/
def takeOneOf? (allowed : List Char) : List Char → Option (List Char)
  | [] => none
  | c :: rest => if allowed.contains c then some rest else none

/-- An optional fraction of a second in nanoseconds; digits beyond the ninth are dropped. -/
def takeFraction? : List Char → Option (Nat × List Char)
  | '.' :: rest =>
    let digits := rest.takeWhile Char.isDigit
    if digits.isEmpty then none
    else
      some (ofDigits ((digits ++ List.replicate 9 '0').take 9), rest.dropWhile Char.isDigit)
  | cs => some (0, cs)

/-- The offset from universal time in seconds, which has to end the text. -/
def readOffset? : List Char → Option Int
  | ['Z'] => some 0
  | ['z'] => some 0
  | sign :: rest => do
    guard (sign = '+' ∨ sign = '-' ∨ sign = '\u2212')
    let (hours, rest) ← takeNumber? 2 rest
    let rest ← takeOneOf? [':'] rest
    let (minutes, rest) ← takeNumber? 2 rest
    guard (rest = [] ∧ hours < 24 ∧ minutes < 60)
    let seconds : Int := hours * 3600 + minutes * 60
    return if sign = '+' then seconds else -seconds
  | [] => none

/-- The instant that a text denotes: a date that exists, a time of day, and an offset. -/
def ofRfc3339? (text : String) : Option Instant := do
  let (year, cs) ← takeNumber? 4 text.toList
  let cs ← takeOneOf? ['-'] cs
  let (month, cs) ← takeNumber? 2 cs
  let cs ← takeOneOf? ['-'] cs
  let (day, cs) ← takeNumber? 2 cs
  let cs ← takeOneOf? ['T', 't', ' '] cs
  let (hour, cs) ← takeNumber? 2 cs
  let cs ← takeOneOf? [':'] cs
  let (minute, cs) ← takeNumber? 2 cs
  let cs ← takeOneOf? [':'] cs
  let (second, cs) ← takeNumber? 2 cs
  let (nanos, cs) ← takeFraction? cs
  let offset ← readOffset? cs
  let date : Date := ⟨year, month, day⟩
  guard (date.isValid ∧ hour < 24 ∧ minute < 60 ∧ second ≤ 60)
  let clock : Int := date.toDays * 86400 + hour * 3600 + minute * 60 + min second 59
  return ⟨clock - offset, if second = 60 then nanos + nanosPerSecond else nanos⟩

end Instant

end RecordSearch
