import DebugRecovery.Text.Numeral

/-!
The SHA-256 digest of a byte string. The message is padded to whole blocks of 64
bytes with its length in bits at the end, and each block is mixed into eight
words in 64 rounds.
-/

set_option autoImplicit false

namespace DebugRecovery.Digest.Sha256

/-- The working words, in the order in which they are written out. -/
structure Words where
  a : UInt32
  b : UInt32
  c : UInt32
  d : UInt32
  e : UInt32
  f : UInt32
  g : UInt32
  h : UInt32
  deriving DecidableEq, Repr

namespace Words

def start : Words :=
  ⟨0x6a09e667, 0xbb67ae85, 0x3c6ef372, 0xa54ff53a, 0x510e527f, 0x9b05688c, 0x1f83d9ab, 0x5be0cd19⟩

def add (left right : Words) : Words :=
  ⟨left.a + right.a, left.b + right.b, left.c + right.c, left.d + right.d, left.e + right.e,
    left.f + right.f, left.g + right.g, left.h + right.h⟩

def toList (words : Words) : List UInt32 :=
  [words.a, words.b, words.c, words.d, words.e, words.f, words.g, words.h]

end Words

def roundConstants : List UInt32 :=
  [0x428a2f98, 0x71374491, 0xb5c0fbcf, 0xe9b5dba5, 0x3956c25b, 0x59f111f1, 0x923f82a4, 0xab1c5ed5,
    0xd807aa98, 0x12835b01, 0x243185be, 0x550c7dc3, 0x72be5d74, 0x80deb1fe, 0x9bdc06a7, 0xc19bf174,
    0xe49b69c1, 0xefbe4786, 0x0fc19dc6, 0x240ca1cc, 0x2de92c6f, 0x4a7484aa, 0x5cb0a9dc, 0x76f988da,
    0x983e5152, 0xa831c66d, 0xb00327c8, 0xbf597fc7, 0xc6e00bf3, 0xd5a79147, 0x06ca6351, 0x14292967,
    0x27b70a85, 0x2e1b2138, 0x4d2c6dfc, 0x53380d13, 0x650a7354, 0x766a0abb, 0x81c2c92e, 0x92722c85,
    0xa2bfe8a1, 0xa81a664b, 0xc24b8b70, 0xc76c51a3, 0xd192e819, 0xd6990624, 0xf40e3585, 0x106aa070,
    0x19a4c116, 0x1e376c08, 0x2748774c, 0x34b0bcb5, 0x391c0cb3, 0x4ed8aa4a, 0x5b9cca4f, 0x682e6ff3,
    0x748f82ee, 0x78a5636f, 0x84c87814, 0x8cc70208, 0x90befffa, 0xa4506ceb, 0xbef9a3f7, 0xc67178f2]

def rotate (word count : UInt32) : UInt32 := word >>> count ||| word <<< (32 - count)

def mixEarly (word : UInt32) : UInt32 := rotate word 7 ^^^ rotate word 18 ^^^ word >>> 3

def mixLate (word : UInt32) : UInt32 := rotate word 17 ^^^ rotate word 19 ^^^ word >>> 10

def nextWord (newest : List UInt32) : UInt32 :=
  mixLate (newest.getD 1 0) + newest.getD 6 0 + mixEarly (newest.getD 14 0) + newest.getD 15 0

/-- A schedule, the newest word first, with `count` more words. -/
def extend : Nat → List UInt32 → List UInt32
  | 0, newest => newest
  | count + 1, newest => extend count (nextWord newest :: newest)

def bigEndianWords : List UInt8 → List UInt32
  | first :: second :: third :: fourth :: rest =>
      (first.toUInt32 <<< 24 ||| second.toUInt32 <<< 16 ||| third.toUInt32 <<< 8 |||
        fourth.toUInt32) :: bigEndianWords rest
  | _ => []

/-- The words that the rounds over a block take in, in their order. -/
def schedule (block : List UInt8) : List UInt32 :=
  (extend 48 (bigEndianWords block).reverse).reverse

def mix (words : Words) (input : UInt32) : Words :=
  let choice := (words.e &&& words.f) ^^^ ((words.e ^^^ 0xFFFFFFFF) &&& words.g)
  let majority := (words.a &&& words.b) ^^^ (words.a &&& words.c) ^^^ (words.b &&& words.c)
  let early := rotate words.a 2 ^^^ rotate words.a 13 ^^^ rotate words.a 22
  let late := rotate words.e 6 ^^^ rotate words.e 11 ^^^ rotate words.e 25
  let change := words.h + late + choice + input
  ⟨change + early + majority, words.a, words.b, words.c, words.d + change, words.e, words.f,
    words.g⟩

def absorb (words : Words) (block : List UInt8) : Words :=
  words.add ((List.zipWith (· + ·) roundConstants (schedule block)).foldl mix words)

/-- The number of zero bytes between the end mark and the length. -/
def paddingLength (length : Nat) : Nat := (119 - length % 64) % 64

def bigEndianBytes : Nat → Nat → List UInt8
  | 0, _ => []
  | count + 1, value => bigEndianBytes count (value / 256) ++ [UInt8.ofNat value]

def padded (message : List UInt8) : List UInt8 :=
  message ++ 0x80 :: (List.replicate (paddingLength message.length) 0 ++
    bigEndianBytes 8 (8 * message.length))

def absorbBlocks : Nat → List UInt8 → Words → Words
  | 0, _, words => words
  | count + 1, bytes, words => absorbBlocks count (bytes.drop 64) (absorb words (bytes.take 64))

def digest (message : List UInt8) : Words :=
  let bytes := padded message
  absorbBlocks (bytes.length / 64) bytes .start

/-- The digest in hexadecimal. -/
def text (message : List UInt8) : String :=
  String.ofList ((digest message).toList.flatMap fun word => Text.hexDigits 8 word.toNat)

end DebugRecovery.Digest.Sha256
