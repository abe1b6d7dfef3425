/-!
# Hexadecimal text of byte strings

Every byte becomes two lowercase hexadecimal digits, the high half first.  The
text of `n` bytes therefore has `2 * n` characters, each one of `0`-`9` and
`a`-`f`.
-/

namespace SourceHarvest.Digest

/-- The lowercase hexadecimal digit of a value below sixteen. -/
def hexDigit (value : Nat) : Char :=
  if value < 10 then Char.ofNat (48 + value) else Char.ofNat (87 + value)

/-- The two digits of one byte, high half first. -/
def hexByte (byte : UInt8) : List Char :=
  [hexDigit (byte.toNat / 16), hexDigit (byte.toNat % 16)]

/-- The hexadecimal text of a byte string. -/
def hexText (bytes : List UInt8) : String :=
  String.ofList (bytes.flatMap hexByte)

theorem length_flatMap_hexByte (bytes : List UInt8) :
    (bytes.flatMap hexByte).length = 2 * bytes.length := by
  induction bytes with
  | nil => rfl
  | cons byte rest inductionHypothesis =>
      simp only [List.flatMap_cons, List.length_append, inductionHypothesis,
        List.length_cons, hexByte]
      simp
      omega

/-- The value of a hexadecimal digit of either case. -/
def hexValue? (digit : Char) : Option Nat :=
  if '0' ≤ digit ∧ digit ≤ '9' then some (digit.toNat - 48)
  else if 'a' ≤ digit ∧ digit ≤ 'f' then some (digit.toNat - 87)
  else if 'A' ≤ digit ∧ digit ≤ 'F' then some (digit.toNat - 55)
  else none

/-- Read a hexadecimal text back into bytes; an odd or foreign text has none. -/
def bytesOfHex? : List Char → Option (List UInt8)
  | [] => some []
  | [_] => none
  | high :: low :: rest => do
      let upper ← hexValue? high
      let lower ← hexValue? low
      let bytes ← bytesOfHex? rest
      pure (UInt8.ofNat (16 * upper + lower) :: bytes)

end SourceHarvest.Digest
