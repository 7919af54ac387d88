/-!
# Bytes read as text

Bytes are read as UTF-8. Where they are not, each longest run of bytes that begins a character but does
not finish it is read as one replacement character, and so is each byte that begins none.

## Main definitions

* `expectedTail` — what may follow a first byte.
* `decodeLossy` — bytes to characters, with replacements.
* `textOfBytes`, `validText?` — the text of bytes, with and without replacements.
* `textOfBytes_toByteArray` — the bytes of a text read as that text.
-/

namespace RecordSearch

/-- Stands for bytes that are no character. -/
def replacementChar : Char := '\ufffd'

/-- The payload bits of a first byte, and the range of each byte that has to follow it. -/
def expectedTail (first : Nat) : Option (Nat × List (Nat × Nat)) :=
  if first < 0x80 then some (first, [])
  else if first < 0xc2 then none
  else if first < 0xe0 then some (first % 0x20, [(0x80, 0xbf)])
  else if first = 0xe0 then some (0, [(0xa0, 0xbf), (0x80, 0xbf)])
  else if first = 0xed then some (0xd, [(0x80, 0x9f), (0x80, 0xbf)])
  else if first < 0xf0 then some (first % 0x10, [(0x80, 0xbf), (0x80, 0xbf)])
  else if first = 0xf0 then some (0, [(0x90, 0xbf), (0x80, 0xbf), (0x80, 0xbf)])
  else if first < 0xf4 then some (first % 8, [(0x80, 0xbf), (0x80, 0xbf), (0x80, 0xbf)])
  else if first = 0xf4 then some (4, [(0x80, 0x8f), (0x80, 0xbf), (0x80, 0xbf)])
  else none

/-- Finish a character whose next bytes have to lie in the given ranges. -/
def finishChar : List (Nat × Nat) → Nat → List UInt8 → Char × List UInt8
  | [], code, bytes => (Char.ofNat code, bytes)
  | _ :: _, _, [] => (replacementChar, [])
  | (low, high) :: ranges, code, b :: rest =>
    if low ≤ b.toNat && b.toNat ≤ high then finishChar ranges (code * 64 + b.toNat % 64) rest
    else (replacementChar, b :: rest)

theorem length_finishChar_le (ranges : List (Nat × Nat)) (code : Nat) (bytes : List UInt8) :
    (finishChar ranges code bytes).2.length ≤ bytes.length := by
  fun_induction finishChar ranges code bytes <;> simp_all
  omega

/-- One character from the front of some bytes, whose first one is given. -/
def nextChar (first : UInt8) (rest : List UInt8) : Char × List UInt8 :=
  match expectedTail first.toNat with
  | some (code, ranges) => finishChar ranges code rest
  | none => (replacementChar, rest)

theorem length_nextChar_le (first : UInt8) (rest : List UInt8) :
    (nextChar first rest).2.length ≤ rest.length := by
  unfold nextChar
  split
  · exact length_finishChar_le ..
  · exact Nat.le_refl _

/-- The characters of some bytes. -/
def decodeLossy : List UInt8 → List Char
  | [] => []
  | first :: rest =>
    have := length_nextChar_le first rest
    (nextChar first rest).1 :: decodeLossy (nextChar first rest).2
termination_by bytes => bytes.length
decreasing_by simp; omega

/-- The text of some bytes if they are UTF-8 throughout. -/
def validText? (bytes : ByteArray) : Option String :=
  String.fromUTF8? bytes

/-- The text of some bytes, with replacements where they are not UTF-8. -/
def textOfBytes (bytes : ByteArray) : String :=
  (validText? bytes).getD (String.ofList (decodeLossy bytes.data.toList))

@[simp] theorem validText?_toByteArray (text : String) :
    validText? text.toByteArray = some text := by
  simp [validText?, String.fromUTF8?, String.fromUTF8, text.isValidUTF8]

/-- The bytes of a text read as that text. -/
@[simp] theorem textOfBytes_toByteArray (text : String) : textOfBytes text.toByteArray = text := by
  simp [textOfBytes]

end RecordSearch
