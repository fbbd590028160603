/-
**SHA-256.**

The message is padded to whole blocks of sixty-four bytes (one bit, zeros, the length in bits as
eight bytes); every block is expanded to sixty-four words and mixed into eight words of state in
sixty-four rounds. The digest is the state in big-endian bytes.
-/

import ResourceGraph.Text.Hex

namespace ResourceGraph.Sha256

/-- The eight words of state. -/
structure State where
  a : UInt32
  b : UInt32
  c : UInt32
  d : UInt32
  e : UInt32
  f : UInt32
  g : UInt32
  h : UInt32
deriving DecidableEq, Repr

/-- The state before the first block: fractions of the square roots of the first primes. -/
def initial : State :=
  ⟨0x6a09e667, 0xbb67ae85, 0x3c6ef372, 0xa54ff53a,
    0x510e527f, 0x9b05688c, 0x1f83d9ab, 0x5be0cd19⟩

/-- One constant a round: fractions of the cube roots of the first primes. -/
def roundConstants : List UInt32 :=
  [
    0x428a2f98, 0x71374491, 0xb5c0fbcf, 0xe9b5dba5, 0x3956c25b, 0x59f111f1, 0x923f82a4, 0xab1c5ed5,
    0xd807aa98, 0x12835b01, 0x243185be, 0x550c7dc3, 0x72be5d74, 0x80deb1fe, 0x9bdc06a7, 0xc19bf174,
    0xe49b69c1, 0xefbe4786, 0x0fc19dc6, 0x240ca1cc, 0x2de92c6f, 0x4a7484aa, 0x5cb0a9dc, 0x76f988da,
    0x983e5152, 0xa831c66d, 0xb00327c8, 0xbf597fc7, 0xc6e00bf3, 0xd5a79147, 0x06ca6351, 0x14292967,
    0x27b70a85, 0x2e1b2138, 0x4d2c6dfc, 0x53380d13, 0x650a7354, 0x766a0abb, 0x81c2c92e, 0x92722c85,
    0xa2bfe8a1, 0xa81a664b, 0xc24b8b70, 0xc76c51a3, 0xd192e819, 0xd6990624, 0xf40e3585, 0x106aa070,
    0x19a4c116, 0x1e376c08, 0x2748774c, 0x34b0bcb5, 0x391c0cb3, 0x4ed8aa4a, 0x5b9cca4f, 0x682e6ff3,
    0x748f82ee, 0x78a5636f, 0x84c87814, 0x8cc70208, 0x90befffa, 0xa4506ceb, 0xbef9a3f7, 0xc67178f2]

/-- A word rotated to the right. -/
def rotate (word count : UInt32) : UInt32 :=
  (word >>> count) ||| (word <<< (32 - count))

/-- Four bytes as a big-endian word. -/
def wordOfBytes (a b c d : UInt8) : UInt32 :=
  (a.toUInt32 <<< 24) ||| (b.toUInt32 <<< 16) ||| (c.toUInt32 <<< 8) ||| d.toUInt32

/-- A word as four big-endian bytes. -/
def bytesOfWord (word : UInt32) : List UInt8 :=
  [(word >>> 24).toUInt8, (word >>> 16).toUInt8, (word >>> 8).toUInt8, word.toUInt8]

/-- The big-endian words of a sequence of bytes. -/
def wordsOfBytes : List UInt8 → List UInt32
  | a :: b :: c :: d :: rest => wordOfBytes a b c d :: wordsOfBytes rest
  | _ => []

/-- A number of bytes in the last eight bytes of the padding, counted in bits. -/
def lengthBytes (length : Nat) : List UInt8 :=
  (List.range 8).map fun index => UInt8.ofNat (length * 8 / Nat.pow 256 (7 - index))

/-- The message followed by its padding. -/
def padded (message : List UInt8) : List UInt8 :=
  let length := message.length
  message ++ 0x80 :: (List.replicate ((119 - length % 64) % 64) 0 ++ lengthBytes length)

/-- The next word of the expansion, from the words before it, latest first. -/
def nextWord (latest : List UInt32) : UInt32 :=
  let word (back : Nat) := latest.getD (back - 1) 0
  let far := word 15
  let near := word 2
  let low := rotate far 7 ^^^ rotate far 18 ^^^ (far >>> 3)
  let high := rotate near 17 ^^^ rotate near 19 ^^^ (near >>> 10)
  word 16 + low + word 7 + high

/-- Adds words to an expansion, latest first. -/
def expand (latest : List UInt32) : Nat → List UInt32
  | 0 => latest
  | count + 1 => expand (nextWord latest :: latest) count

/-- The sixty-four words of a block of sixteen. -/
def schedule (block : List UInt32) : List UInt32 :=
  (expand block.reverse 48).reverse

/-- One round, with its constant and its word. -/
def round (state : State) (input : UInt32 × UInt32) : State :=
  let ⟨a, b, c, d, e, f, g, h⟩ := state
  let choice := (e &&& f) ^^^ (~~~e &&& g)
  let majority := (a &&& b) ^^^ (a &&& c) ^^^ (b &&& c)
  let high := rotate e 6 ^^^ rotate e 11 ^^^ rotate e 25
  let low := rotate a 2 ^^^ rotate a 13 ^^^ rotate a 22
  let first := h + high + choice + input.1 + input.2
  ⟨first + low + majority, a, b, c, d + first, e, f, g⟩

/-- The word-wise sum of two states. -/
def State.add (x y : State) : State :=
  ⟨x.a + y.a, x.b + y.b, x.c + y.c, x.d + y.d, x.e + y.e, x.f + y.f, x.g + y.g, x.h + y.h⟩

/-- Mixes a block of sixteen words into the state. -/
def absorb (state : State) (block : List UInt32) : State :=
  state.add ((roundConstants.zip (schedule block)).foldl round state)

/-- Mixes blocks of sixteen words into the state; the count bounds the number of blocks. -/
def absorbAll (state : State) (words : List UInt32) : Nat → State
  | 0 => state
  | count + 1 =>
    if words.isEmpty then state else absorbAll (absorb state (words.take 16)) (words.drop 16) count

/-- The thirty-two bytes of the digest. -/
def digest (message : List UInt8) : List UInt8 :=
  let words := wordsOfBytes (padded message)
  let ⟨a, b, c, d, e, f, g, h⟩ := absorbAll initial words words.length
  [a, b, c, d, e, f, g, h].flatMap bytesOfWord

/-- The digest in hexadecimal digits. -/
def hex (message : List UInt8) : String :=
  Text.hexOfBytes (digest message)

end ResourceGraph.Sha256
