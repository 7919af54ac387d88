/-!
# SHA-256

The digest of a byte string by the Secure Hash Standard. A message is padded to whole blocks of sixteen
words; each block is stretched to sixty-four words, which drive as many rounds on eight state words.

## Main definitions

* `sha256` — the digest of some bytes.
* `hexDigest` — the digest of a text in lower-case hexadecimal.
-/

namespace RecordSearch

namespace Sha256

/-- Fractional parts of the cube roots of the first sixty-four primes. -/
def roundConstants : List UInt32 := [
  0x428a2f98, 0x71374491, 0xb5c0fbcf, 0xe9b5dba5, 0x3956c25b, 0x59f111f1, 0x923f82a4, 0xab1c5ed5,
  0xd807aa98, 0x12835b01, 0x243185be, 0x550c7dc3, 0x72be5d74, 0x80deb1fe, 0x9bdc06a7, 0xc19bf174,
  0xe49b69c1, 0xefbe4786, 0x0fc19dc6, 0x240ca1cc, 0x2de92c6f, 0x4a7484aa, 0x5cb0a9dc, 0x76f988da,
  0x983e5152, 0xa831c66d, 0xb00327c8, 0xbf597fc7, 0xc6e00bf3, 0xd5a79147, 0x06ca6351, 0x14292967,
  0x27b70a85, 0x2e1b2138, 0x4d2c6dfc, 0x53380d13, 0x650a7354, 0x766a0abb, 0x81c2c92e, 0x92722c85,
  0xa2bfe8a1, 0xa81a664b, 0xc24b8b70, 0xc76c51a3, 0xd192e819, 0xd6990624, 0xf40e3585, 0x106aa070,
  0x19a4c116, 0x1e376c08, 0x2748774c, 0x34b0bcb5, 0x391c0cb3, 0x4ed8aa4a, 0x5b9cca4f, 0x682e6ff3,
  0x748f82ee, 0x78a5636f, 0x84c87814, 0x8cc70208, 0x90befffa, 0xa4506ceb, 0xbef9a3f7, 0xc67178f2]

/-- The eight words that a digest is made of. -/
structure State where
  a : UInt32
  b : UInt32
  c : UInt32
  d : UInt32
  e : UInt32
  f : UInt32
  g : UInt32
  h : UInt32
  deriving DecidableEq, Repr

/-- Fractional parts of the square roots of the first eight primes. -/
def initial : State where
  a := 0x6a09e667
  b := 0xbb67ae85
  c := 0x3c6ef372
  d := 0xa54ff53a
  e := 0x510e527f
  f := 0x9b05688c
  g := 0x1f83d9ab
  h := 0x5be0cd19

/-- A word with its bits turned to the right. -/
def rotate (x amount : UInt32) : UInt32 :=
  (x >>> amount) ||| (x <<< (32 - amount))

/-- The word that follows sixteen earlier ones, oldest first. -/
def nextWord (window : List UInt32) : UInt32 :=
  let early := window.getD 1 0
  let late := window.getD 14 0
  (rotate late 17 ^^^ rotate late 19 ^^^ (late >>> 10)) + window.getD 9 0 +
    (rotate early 7 ^^^ rotate early 18 ^^^ (early >>> 3)) + window.getD 0 0

/-- Sixteen words and as many more as asked for. -/
def stretch : Nat → List UInt32 → List UInt32
  | 0, window => window
  | n + 1, window => window.getD 0 0 :: stretch n (window.drop 1 ++ [nextWord window])

/-- One round, with the sum of its constant and its word. -/
def step (s : State) (input : UInt32) : State :=
  let choice := (s.e &&& s.f) ^^^ (~~~s.e &&& s.g)
  let majority := (s.a &&& s.b) ^^^ (s.a &&& s.c) ^^^ (s.b &&& s.c)
  let t₁ := s.h + (rotate s.e 6 ^^^ rotate s.e 11 ^^^ rotate s.e 25) + choice + input
  let t₂ := (rotate s.a 2 ^^^ rotate s.a 13 ^^^ rotate s.a 22) + majority
  ⟨t₁ + t₂, s.a, s.b, s.c, s.d + t₁, s.e, s.f, s.g⟩

/-- Word by word sum of two states. -/
def State.add (s t : State) : State :=
  ⟨s.a + t.a, s.b + t.b, s.c + t.c, s.d + t.d, s.e + t.e, s.f + t.f, s.g + t.g, s.h + t.h⟩

/-- The state after a block of sixteen words. -/
def compress (s : State) (block : List UInt32) : State :=
  s.add ((List.zipWith (· + ·) roundConstants (stretch 48 block)).foldl step s)

/-- Bytes in fours, the first of each the most significant. -/
def toWords : List UInt8 → List UInt32
  | p :: q :: r :: s :: rest =>
    ((p.toUInt32 <<< 24) ||| (q.toUInt32 <<< 16) ||| (r.toUInt32 <<< 8) ||| s.toUInt32) ::
      toWords rest
  | _ => []

/-- The bytes of a number, most significant first. -/
def bigEndian (width n : Nat) : List UInt8 :=
  (List.range width).reverse.map fun i => UInt8.ofNat (n >>> (8 * i))

/-- A message with the bit that ends it, zeros, and its length in bits, in whole blocks. -/
def pad (message : List UInt8) : List UInt8 :=
  message ++ 0x80 :: List.replicate ((119 - message.length % 64) % 64) 0 ++
    bigEndian 8 (8 * message.length)

/-- The state after as many blocks as asked for. -/
def run : Nat → State → List UInt32 → State
  | 0, s, _ => s
  | n + 1, s, words => run n (compress s (words.take 16)) (words.drop 16)

end Sha256

open Sha256 in
/-- The thirty-two bytes of the digest. -/
def sha256 (message : List UInt8) : List UInt8 :=
  let words := toWords (pad message)
  let s := run (words.length / 16) initial words
  [s.a, s.b, s.c, s.d, s.e, s.f, s.g, s.h].flatMap fun w => bigEndian 4 w.toNat

/-- The two hexadecimal digits of a byte. -/
def hexByte (b : UInt8) : List Char :=
  [Nat.digitChar (b.toNat / 16), Nat.digitChar (b.toNat % 16)]

/-- The digest of a text in hexadecimal. -/
def hexDigest (text : String) : String :=
  String.ofList ((sha256 text.toByteArray.data.toList).flatMap hexByte)

end RecordSearch
