import CdnPublish.Text.Utf8

/-!
# SHA-256

The digest that names blobs, by the book: the message is padded to whole blocks of sixty-four
bytes, every block is expanded to sixty-four words and mixed into eight state words, and the state
words written in big-endian order are the digest. A `Hasher` takes a message that comes in chunks
and keeps no more of it than the start of a block.
-/

namespace CdnPublish.Sha256

/-- The round constants: the fractional parts of the cube roots of the first sixty-four primes. -/
def roundConstants : List UInt32 :=
  [0x428a2f98, 0x71374491, 0xb5c0fbcf, 0xe9b5dba5, 0x3956c25b, 0x59f111f1, 0x923f82a4, 0xab1c5ed5,
   0xd807aa98, 0x12835b01, 0x243185be, 0x550c7dc3, 0x72be5d74, 0x80deb1fe, 0x9bdc06a7, 0xc19bf174,
   0xe49b69c1, 0xefbe4786, 0x0fc19dc6, 0x240ca1cc, 0x2de92c6f, 0x4a7484aa, 0x5cb0a9dc, 0x76f988da,
   0x983e5152, 0xa831c66d, 0xb00327c8, 0xbf597fc7, 0xc6e00bf3, 0xd5a79147, 0x06ca6351, 0x14292967,
   0x27b70a85, 0x2e1b2138, 0x4d2c6dfc, 0x53380d13, 0x650a7354, 0x766a0abb, 0x81c2c92e, 0x92722c85,
   0xa2bfe8a1, 0xa81a664b, 0xc24b8b70, 0xc76c51a3, 0xd192e819, 0xd6990624, 0xf40e3585, 0x106aa070,
   0x19a4c116, 0x1e376c08, 0x2748774c, 0x34b0bcb5, 0x391c0cb3, 0x4ed8aa4a, 0x5b9cca4f, 0x682e6ff3,
   0x748f82ee, 0x78a5636f, 0x84c87814, 0x8cc70208, 0x90befffa, 0xa4506ceb, 0xbef9a3f7, 0xc67178f2]

/-- The eight state words. -/
structure State where
  a : UInt32
  b : UInt32
  c : UInt32
  d : UInt32
  e : UInt32
  f : UInt32
  g : UInt32
  h : UInt32

/-- The state before the first block: the fractional parts of the square roots of the first eight
primes. -/
def initial : State :=
  ⟨0x6a09e667, 0xbb67ae85, 0x3c6ef372, 0xa54ff53a, 0x510e527f, 0x9b05688c, 0x1f83d9ab, 0x5be0cd19⟩

/-- A word rotated to the right. -/
def rotateRight (word : UInt32) (count : UInt32) : UInt32 :=
  (word >>> count) ||| (word <<< (32 - count))

/-- One round of mixing. -/
def round (state : State) (constant word : UInt32) : State :=
  let sum1 := rotateRight state.e 6 ^^^ rotateRight state.e 11 ^^^ rotateRight state.e 25
  let choice := (state.e &&& state.f) ^^^ ((~~~state.e) &&& state.g)
  let first := state.h + sum1 + choice + constant + word
  let sum0 := rotateRight state.a 2 ^^^ rotateRight state.a 13 ^^^ rotateRight state.a 22
  let majority := (state.a &&& state.b) ^^^ (state.a &&& state.c) ^^^ (state.b &&& state.c)
  ⟨first + (sum0 + majority), state.a, state.b, state.c, state.d + first, state.e, state.f, state.g⟩

/-- The next word of a schedule whose last sixteen words are given. -/
def nextWord (window : List UInt32) : UInt32 :=
  match window with
  | [w0, w1, _, _, _, _, _, _, _, w9, _, _, _, _, w14, _] =>
    let s0 := rotateRight w1 7 ^^^ rotateRight w1 18 ^^^ (w1 >>> 3)
    let s1 := rotateRight w14 17 ^^^ rotateRight w14 19 ^^^ (w14 >>> 10)
    w0 + s0 + w9 + s1
  | _ => 0

/-- The rounds of one block: each takes the first word of the window, and the window moves on. -/
def rounds (state : State) (window : List UInt32) : List UInt32 → State
  | [] => state
  | constant :: constants =>
    rounds (round state constant (window.headD 0)) (window.tail ++ [nextWord window]) constants

/-- Four bytes as a word, the most significant first. -/
def word (b0 b1 b2 b3 : UInt8) : UInt32 :=
  (b0.toUInt32 <<< 24) ||| (b1.toUInt32 <<< 16) ||| (b2.toUInt32 <<< 8) ||| b3.toUInt32

/-- The words of a byte string; fewer than four bytes at the end are dropped. -/
def words : Bytes → List UInt32
  | b0 :: b1 :: b2 :: b3 :: rest => word b0 b1 b2 b3 :: words rest
  | _ => []

/-- The state after one block. -/
def compress (state : State) (block : Bytes) : State :=
  let mixed := rounds state (words block) roundConstants
  ⟨state.a + mixed.a, state.b + mixed.b, state.c + mixed.c, state.d + mixed.d,
    state.e + mixed.e, state.f + mixed.f, state.g + mixed.g, state.h + mixed.h⟩

/-- The bytes of a number in big-endian order, in the given width. -/
def bigEndian : Nat → Nat → Bytes
  | 0, _ => []
  | width + 1, value => bigEndian width (value / 256) ++ [UInt8.ofNat value]

/-- What is appended to a message: a one bit, zero bits up to eight bytes before a block boundary,
and the length in bits. -/
def padding (length : Nat) : Bytes :=
  0x80 :: List.replicate ((119 - length % 64) % 64) 0 ++ bigEndian 8 (8 * length)

/-- The whole blocks of a byte string absorbed one after the other; `count` of them are there. -/
def absorbBlocks : Nat → State → Bytes → State
  | 0, state, _ => state
  | count + 1, state, bytes => absorbBlocks count (compress state (bytes.take 64)) (bytes.drop 64)

/-- The bytes of a state. -/
def State.bytes (state : State) : Bytes :=
  [state.a, state.b, state.c, state.d, state.e, state.f, state.g, state.h].flatMap fun value =>
    bigEndian 4 value.toNat

/-- The digest of a message. -/
def digest (message : Bytes) : Bytes :=
  let padded := message ++ padding message.length
  (absorbBlocks (padded.length / 64) initial padded).bytes

/-- The state after all whole blocks of a byte string. -/
def absorbAll (state : State) (bytes : Bytes) : State :=
  absorbBlocks (bytes.length / 64) state bytes

/-- The bytes after the last whole block of a byte string. -/
def leftOver (bytes : Bytes) : Bytes :=
  bytes.drop (64 * (bytes.length / 64))

theorem leftOver_length_lt (bytes : Bytes) : (leftOver bytes).length < 64 := by
  rw [leftOver, List.length_drop]
  omega

/-- A digest under way: the state after the whole blocks that came, the bytes that came after them,
too few for a block, and the number of all bytes that came. -/
structure Hasher where
  state : State
  pending : Bytes
  length : Nat
  pending_lt : pending.length < 64

namespace Hasher

/-- The hasher to which nothing came. -/
def start : Hasher :=
  ⟨initial, [], 0, by decide⟩

/-- The hasher after a further chunk: whole blocks are absorbed and the rest is kept. -/
def update (hasher : Hasher) (chunk : Bytes) : Hasher where
  state := absorbAll hasher.state (hasher.pending ++ chunk)
  pending := leftOver (hasher.pending ++ chunk)
  length := hasher.length + chunk.length
  pending_lt := leftOver_length_lt _

/-- The digest of all that came; the padding fills the last block. -/
def finish (hasher : Hasher) : Bytes :=
  (hasher.update (padding hasher.length)).state.bytes

end Hasher

end CdnPublish.Sha256
