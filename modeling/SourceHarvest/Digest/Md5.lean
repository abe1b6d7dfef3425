import SourceHarvest.Blocks
import SourceHarvest.Digest.Hexadecimal
import SourceHarvest.Digest.Words

/-!
# The digest MD5

Used for short record keys, never where an adversary matters.  The digest of
every message has 16 bytes, so its hexadecimal text has 32 digits.
-/

namespace SourceHarvest.Digest.Md5

/-- The integer parts of `2 ^ 32 * |sin n|` for `n` from 1 to 64. -/
def roundConstants : List UInt32 := [
    0xd76aa478, 0xe8c7b756, 0x242070db, 0xc1bdceee, 0xf57c0faf, 0x4787c62a,
    0xa8304613, 0xfd469501, 0x698098d8, 0x8b44f7af, 0xffff5bb1, 0x895cd7be,
    0x6b901122, 0xfd987193, 0xa679438e, 0x49b40821, 0xf61e2562, 0xc040b340,
    0x265e5a51, 0xe9b6c7aa, 0xd62f105d, 0x02441453, 0xd8a1e681, 0xe7d3fbc8,
    0x21e1cde6, 0xc33707d6, 0xf4d50d87, 0x455a14ed, 0xa9e3e905, 0xfcefa3f8,
    0x676f02d9, 0x8d2a4c8a, 0xfffa3942, 0x8771f681, 0x6d9d6122, 0xfde5380c,
    0xa4beea44, 0x4bdecfa9, 0xf6bb4b60, 0xbebfbc70, 0x289b7ec6, 0xeaa127fa,
    0xd4ef3085, 0x04881d05, 0xd9d4d039, 0xe6db99e5, 0x1fa27cf8, 0xc4ac5665,
    0xf4292244, 0x432aff97, 0xab9423a7, 0xfc93a039, 0x655b59c3, 0x8f0ccc92,
    0xffeff47d, 0x85845dd1, 0x6fa87e4f, 0xfe2ce6e0, 0xa3014314, 0x4e0811a1,
    0xf7537e82, 0xbd3af235, 0x2ad7d2bb, 0xeb86d391]

/-- The four working words. -/
structure State where
  a : UInt32
  b : UInt32
  c : UInt32
  d : UInt32

namespace State

/-- The words that every message starts from. -/
def initial : State :=
  ⟨0x67452301, 0xefcdab89, 0x98badcfe, 0x10325476⟩

/-- Wordwise sum modulo `2 ^ 32`. -/
def add (left right : State) : State :=
  ⟨left.a + right.a, left.b + right.b, left.c + right.c, left.d + right.d⟩

/-- The four words in order. -/
def words (state : State) : List UInt32 :=
  [state.a, state.b, state.c, state.d]

end State

/-- The four rotation counts of each group of sixteen rounds, used in turn. -/
def rotations : Nat → List UInt32
  | 0 => [7, 12, 17, 22]
  | 1 => [5, 9, 14, 20]
  | 2 => [4, 11, 16, 23]
  | _ => [6, 10, 15, 21]

/-- The bitwise function of a group of rounds. -/
def mix (group : Nat) (b c d : UInt32) : UInt32 :=
  match group with
  | 0 => (b &&& c) ||| (~~~b &&& d)
  | 1 => (d &&& b) ||| (~~~d &&& c)
  | 2 => b ^^^ c ^^^ d
  | _ => c ^^^ (b ||| ~~~d)

/-- Which word of the block a round reads. -/
def wordIndex (round : Nat) : Nat :=
  match round / 16 with
  | 0 => round % 16
  | 1 => (5 * round + 1) % 16
  | 2 => (3 * round + 5) % 16
  | _ => 7 * round % 16

/-- One round over a block of sixteen words. -/
def step (block : Array UInt32) (state : State) (constant : UInt32 × Nat) : State :=
  let round := constant.2
  let group := round / 16
  let input := block.getD (wordIndex round) 0
  let count := (rotations group).getD (round % 4) 0
  let total := mix group state.b state.c state.d + state.a + constant.1 + input
  ⟨state.d, state.b + rotateLeft total count, state.b, state.c⟩

/-- Absorb one block of sixteen words. -/
def compress (state : State) (block : List UInt32) : State :=
  state.add (roundConstants.zipIdx.foldl (step block.toArray) state)

/-- The 16 bytes of the digest. -/
def digest (message : List UInt8) : List UInt8 :=
  let blocks := blocksOf 15 (ByteOrder.littleEndian.words (ByteOrder.littleEndian.padded message))
  ByteOrder.littleEndian.bytes (blocks.foldl compress State.initial).words

theorem length_digest (message : List UInt8) : (digest message).length = 16 := by
  simp [digest, ByteOrder.length_bytes, State.words]

/-- The digest as 32 hexadecimal digits. -/
def hexDigest (message : List UInt8) : String :=
  hexText (digest message)

end SourceHarvest.Digest.Md5
