/-!
# Padded message blocks

The 32-bit digests of this library share one message preparation: the message
is followed by the byte `0x80`, by zeros up to 56 modulo 64, and by its length
in bits as eight bytes.  They differ only in the byte order of words and of that
length, which is a parameter here.
-/

namespace SourceHarvest.Digest

/-- Which byte of a word comes first. -/
inductive ByteOrder where
  | bigEndian
  | littleEndian
deriving DecidableEq, Repr

/-- `count` bytes of `value`, least significant first. -/
def lowBytesFirst : Nat → Nat → List UInt8
  | 0, _ => []
  | count + 1, value => UInt8.ofNat (value % 256) :: lowBytesFirst count (value / 256)

theorem length_lowBytesFirst (count value : Nat) :
    (lowBytesFirst count value).length = count := by
  induction count generalizing value with
  | zero => rfl
  | succ count inductionHypothesis => simp [lowBytesFirst, inductionHypothesis]

namespace ByteOrder

/-- The bytes of a number of fixed width, in this order. -/
def encode (order : ByteOrder) (count value : Nat) : List UInt8 :=
  match order with
  | bigEndian => (lowBytesFirst count value).reverse
  | littleEndian => lowBytesFirst count value

theorem length_encode (order : ByteOrder) (count value : Nat) :
    (order.encode count value).length = count := by
  cases order <;> simp [encode, length_lowBytesFirst]

/-- The word that four bytes stand for, in this order. -/
def word (order : ByteOrder) (first second third fourth : UInt8) : UInt32 :=
  match order with
  | bigEndian =>
      first.toUInt32 <<< 24 ||| second.toUInt32 <<< 16 ||| third.toUInt32 <<< 8 ||| fourth.toUInt32
  | littleEndian =>
      fourth.toUInt32 <<< 24 ||| third.toUInt32 <<< 16 ||| second.toUInt32 <<< 8 ||| first.toUInt32

/-- Group bytes into words; up to three bytes left over are dropped. -/
def words (order : ByteOrder) : List UInt8 → List UInt32
  | first :: second :: third :: fourth :: rest =>
      order.word first second third fourth :: words order rest
  | _ => []

/-- The bytes of a list of words, in this order. -/
def bytes (order : ByteOrder) (values : List UInt32) : List UInt8 :=
  values.flatMap fun value => order.encode 4 value.toNat

theorem length_bytes (order : ByteOrder) (values : List UInt32) :
    (order.bytes values).length = 4 * values.length := by
  induction values with
  | nil => rfl
  | cons value rest inductionHypothesis =>
      have unfolded : order.bytes (value :: rest) =
          order.encode 4 value.toNat ++ order.bytes rest := rfl
      rw [unfolded, List.length_append, length_encode, inductionHypothesis, List.length_cons]
      omega

/-- The message followed by its padding and by its length in bits. -/
def padded (order : ByteOrder) (message : List UInt8) : List UInt8 :=
  let zeros := (119 - message.length % 64) % 64
  message ++ 0x80 :: (List.replicate zeros 0 ++ order.encode 8 (8 * message.length % 0x10000000000000000))

end ByteOrder

/-- Rotate a word to the left. -/
def rotateLeft (value : UInt32) (count : UInt32) : UInt32 :=
  value <<< count ||| value >>> (32 - count)

/-- Rotate a word to the right. -/
def rotateRight (value : UInt32) (count : UInt32) : UInt32 :=
  value >>> count ||| value <<< (32 - count)

end SourceHarvest.Digest
