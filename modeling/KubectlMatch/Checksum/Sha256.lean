import KubectlMatch.Text.Blank
/-!
# SHA-256

The digest of a byte string: 32 bytes from which the string cannot be made up, and which two
different strings have never been seen to share.  The string is padded to whole blocks of 64
bytes, and each block in turn is mixed into a state of eight words.  `sha256` is that chain, and a
`Checksum` is a digest as mirrors publish it, in hexadecimal digits.
-/
namespace KubectlMatch

namespace Checksum

/-- The eight words that a block is mixed into. -/
structure DigestState where
  a : UInt32
  b : UInt32
  c : UInt32
  d : UInt32
  e : UInt32
  f : UInt32
  g : UInt32
  h : UInt32
deriving DecidableEq

/-- One word for each round, from the cube roots of the first primes. -/
def roundWords : List UInt32 := [
  0x428a2f98, 0x71374491, 0xb5c0fbcf, 0xe9b5dba5, 0x3956c25b, 0x59f111f1,
  0x923f82a4, 0xab1c5ed5, 0xd807aa98, 0x12835b01, 0x243185be, 0x550c7dc3,
  0x72be5d74, 0x80deb1fe, 0x9bdc06a7, 0xc19bf174, 0xe49b69c1, 0xefbe4786,
  0x0fc19dc6, 0x240ca1cc, 0x2de92c6f, 0x4a7484aa, 0x5cb0a9dc, 0x76f988da,
  0x983e5152, 0xa831c66d, 0xb00327c8, 0xbf597fc7, 0xc6e00bf3, 0xd5a79147,
  0x06ca6351, 0x14292967, 0x27b70a85, 0x2e1b2138, 0x4d2c6dfc, 0x53380d13,
  0x650a7354, 0x766a0abb, 0x81c2c92e, 0x92722c85, 0xa2bfe8a1, 0xa81a664b,
  0xc24b8b70, 0xc76c51a3, 0xd192e819, 0xd6990624, 0xf40e3585, 0x106aa070,
  0x19a4c116, 0x1e376c08, 0x2748774c, 0x34b0bcb5, 0x391c0cb3, 0x4ed8aa4a,
  0x5b9cca4f, 0x682e6ff3, 0x748f82ee, 0x78a5636f, 0x84c87814, 0x8cc70208,
  0x90befffa, 0xa4506ceb, 0xbef9a3f7, 0xc67178f2]

/-- The state to begin with, from the square roots of the first primes. -/
def initialState : DigestState := ⟨
  0x6a09e667, 0xbb67ae85, 0x3c6ef372, 0xa54ff53a, 0x510e527f, 0x9b05688c,
  0x1f83d9ab, 0x5be0cd19⟩

def rotateRight (x : UInt32) (n : UInt32) : UInt32 := (x >>> n) ||| (x <<< (32 - n))

/-! ## Words and bytes -/

/-- The number that four bytes spell, the first of them counting most. -/
def wordOf (a b c d : UInt8) : UInt32 :=
  (a.toUInt32 <<< 24) ||| (b.toUInt32 <<< 16) ||| (c.toUInt32 <<< 8) ||| d.toUInt32

def wordsOf : List UInt8 → List UInt32
  | a :: b :: c :: d :: rest => wordOf a b c d :: wordsOf rest
  | _ => []

def bytesOf (x : UInt32) : List UInt8 :=
  [(x >>> 24).toUInt8, (x >>> 16).toUInt8, (x >>> 8).toUInt8, x.toUInt8]

def lengthBytes (n : Nat) : List UInt8 :=
  (List.range 8).map fun i => UInt8.ofNat (n >>> (8 * (7 - i)))

/-- What is put behind `n` bytes: a mark, zeros up to the end of a block, and the count of bits. -/
def padding (n : Nat) : List UInt8 :=
  0x80 :: List.replicate ((119 - n % 64) % 64) 0 ++ lengthBytes (8 * n)

/-! ## Mixing -/

/-- The words that follow sixteen in the schedule of a block.  The list has the last word first. -/
def nextWord (words : List UInt32) : UInt32 :=
  let x := words.getD 14 0
  let y := words.getD 1 0
  (rotateRight x 7 ^^^ rotateRight x 18 ^^^ (x >>> 3)) +
    (rotateRight y 17 ^^^ rotateRight y 19 ^^^ (y >>> 10)) + words.getD 15 0 + words.getD 6 0

def extend : Nat → List UInt32 → List UInt32
  | 0, words => words
  | n + 1, words => extend n (nextWord words :: words)

def schedule (block : List UInt32) : List UInt32 := (extend 48 block.reverse).reverse

namespace DigestState

def round (s : DigestState) (word : UInt32) : DigestState :=
  let sum1 := rotateRight s.e 6 ^^^ rotateRight s.e 11 ^^^ rotateRight s.e 25
  let choice := (s.e &&& s.f) ^^^ (~~~s.e &&& s.g)
  let sum0 := rotateRight s.a 2 ^^^ rotateRight s.a 13 ^^^ rotateRight s.a 22
  let majority := (s.a &&& s.b) ^^^ (s.a &&& s.c) ^^^ (s.b &&& s.c)
  let step := s.h + sum1 + choice + word
  ⟨step + sum0 + majority, s.a, s.b, s.c, s.d + step, s.e, s.f, s.g⟩

def add (s t : DigestState) : DigestState :=
  ⟨s.a + t.a, s.b + t.b, s.c + t.c, s.d + t.d, s.e + t.e, s.f + t.f, s.g + t.g, s.h + t.h⟩

def mix (s : DigestState) (block : List UInt32) : DigestState :=
  s.add ((List.zipWith (· + ·) roundWords (schedule block)).foldl round s)

def mixAll (s : DigestState) (words : List UInt32) : DigestState :=
  if words.length < 16 then s else mixAll (s.mix (words.take 16)) (words.drop 16)
termination_by words.length
decreasing_by simp; omega

def bytes (s : DigestState) : List UInt8 :=
  [s.a, s.b, s.c, s.d, s.e, s.f, s.g, s.h].flatMap bytesOf

end DigestState

def sha256 (content : List UInt8) : List UInt8 :=
  (initialState.mixAll (wordsOf (content ++ padding content.length))).bytes

end Checksum

/-! ## Checksums as they are published -/

structure Checksum where
  digits : List Char
deriving DecidableEq

namespace Checksum

def hex (bytes : List UInt8) : List Char :=
  bytes.flatMap fun b => [Nat.digitChar (b.toNat / 16), Nat.digitChar (b.toNat % 16)]

def ofBytes (content : List UInt8) : Checksum := ⟨hex (sha256 content)⟩

def isHexDigit (c : Char) : Bool :=
  c.isDigit || ('a' ≤ c && c ≤ 'f') || ('A' ≤ c && c ≤ 'F')

/-- The checksum that a file publishes; capital letters are taken for small ones. -/
def published? (body : String) : Option Checksum :=
  let word := (Text.firstWord body.toList).map Char.toLower
  if word.length = 64 ∧ word.all isHexDigit then some ⟨word⟩ else none

def text (checksum : Checksum) : String := String.ofList checksum.digits

end Checksum

end KubectlMatch
