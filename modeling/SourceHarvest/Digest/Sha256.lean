import SourceHarvest.Blocks
import SourceHarvest.Digest.Hexadecimal
import SourceHarvest.Digest.Words

/-!
# The digest SHA-256

Preparation of the message is in `Digest.Words`; this module holds the schedule,
the compression of one block and the digest.  The digest of every message has 32
bytes, so its hexadecimal text has 64 digits.
-/

namespace SourceHarvest.Digest.Sha256

/-- The first 32 bits of the fractional parts of the cube roots of the first 64 primes. -/
def roundConstants : List UInt32 := [
    0x428a2f98, 0x71374491, 0xb5c0fbcf, 0xe9b5dba5, 0x3956c25b, 0x59f111f1,
    0x923f82a4, 0xab1c5ed5, 0xd807aa98, 0x12835b01, 0x243185be, 0x550c7dc3,
    0x72be5d74, 0x80deb1fe, 0x9bdc06a7, 0xc19bf174, 0xe49b69c1, 0xefbe4786,
    0x0fc19dc6, 0x240ca1cc, 0x2de92c6f, 0x4a7484aa, 0x5cb0a9dc, 0x76f988da,
    0x983e5152, 0xa831c66d, 0xb00327c8, 0xbf597fc7, 0xc6e00bf3, 0xd5a79147,
    0x06ca6351, 0x14292967, 0x27b70a85, 0x2e1b2138, 0x4d2c6dfc, 0x53380d13,
    0x650a7354, 0x766a0abb, 0x81c2c92e, 0x92722c85, 0xa2bfe8a1, 0xa81a664b,
    0xc24b8b70, 0xc76c51a3, 0xd192e819, 0xd6990624, 0xf40e3585, 0x106aa070,
    0x19a4c116, 0x1e376c08, 0x2748774c, 0x34b0bcb5, 0x391c0cb3, 0x4ed8aa4a,
    0x5b9cca4f, 0x682e6ff3, 0x748f82ee, 0x78a5636f, 0x84c87814, 0x8cc70208,
    0x90befffa, 0xa4506ceb, 0xbef9a3f7, 0xc67178f2]

/-- The eight working words. -/
structure State where
  a : UInt32
  b : UInt32
  c : UInt32
  d : UInt32
  e : UInt32
  f : UInt32
  g : UInt32
  h : UInt32

namespace State

/-- The first 32 bits of the fractional parts of the square roots of the first eight primes. -/
def initial : State :=
  ⟨0x6a09e667, 0xbb67ae85, 0x3c6ef372, 0xa54ff53a,
   0x510e527f, 0x9b05688c, 0x1f83d9ab, 0x5be0cd19⟩

/-- Wordwise sum modulo `2 ^ 32`. -/
def add (left right : State) : State :=
  ⟨left.a + right.a, left.b + right.b, left.c + right.c, left.d + right.d,
   left.e + right.e, left.f + right.f, left.g + right.g, left.h + right.h⟩

/-- One round, with its constant and its schedule word already added up. -/
def step (state : State) (input : UInt32) : State :=
  let choice := (state.e &&& state.f) ^^^ (~~~state.e &&& state.g)
  let majority := (state.a &&& state.b) ^^^ (state.a &&& state.c) ^^^ (state.b &&& state.c)
  let spreadE := rotateRight state.e 6 ^^^ rotateRight state.e 11 ^^^ rotateRight state.e 25
  let spreadA := rotateRight state.a 2 ^^^ rotateRight state.a 13 ^^^ rotateRight state.a 22
  let first := state.h + spreadE + choice + input
  ⟨first + spreadA + majority, state.a, state.b, state.c, state.d + first,
   state.e, state.f, state.g⟩

/-- The eight words in order. -/
def words (state : State) : List UInt32 :=
  [state.a, state.b, state.c, state.d, state.e, state.f, state.g, state.h]

end State

/-- The schedule word that follows sixteen earlier ones, given latest first. -/
def nextScheduleWord (latestFirst : List UInt32) : UInt32 :=
  let at2 := latestFirst.getD 1 0
  let at7 := latestFirst.getD 6 0
  let at15 := latestFirst.getD 14 0
  let at16 := latestFirst.getD 15 0
  let small0 := rotateRight at15 7 ^^^ rotateRight at15 18 ^^^ at15 >>> 3
  let small1 := rotateRight at2 17 ^^^ rotateRight at2 19 ^^^ at2 >>> 10
  at16 + small0 + at7 + small1

/-- Add `count` further words in front of a schedule that is kept latest first. -/
def extendSchedule : Nat → List UInt32 → List UInt32
  | 0, latestFirst => latestFirst
  | count + 1, latestFirst =>
      extendSchedule count (nextScheduleWord latestFirst :: latestFirst)

/-- The 64 schedule words of one block of sixteen. -/
def schedule (block : List UInt32) : List UInt32 :=
  (extendSchedule 48 block.reverse).reverse

/-- Absorb one block of sixteen words. -/
def compress (state : State) (block : List UInt32) : State :=
  let inputs := List.zipWith (· + ·) roundConstants (schedule block)
  state.add (inputs.foldl State.step state)

/-- The 32 bytes of the digest. -/
def digest (message : List UInt8) : List UInt8 :=
  let blocks := blocksOf 15 (ByteOrder.bigEndian.words (ByteOrder.bigEndian.padded message))
  ByteOrder.bigEndian.bytes (blocks.foldl compress State.initial).words

theorem length_digest (message : List UInt8) : (digest message).length = 32 := by
  simp [digest, ByteOrder.length_bytes, State.words]

/-- The digest as 64 hexadecimal digits. -/
def hexDigest (message : List UInt8) : String :=
  hexText (digest message)

end SourceHarvest.Digest.Sha256
