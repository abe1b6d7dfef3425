import SourceHarvest.Http.DomainName

/-!
# Hosts of addresses

A host is a domain name in its usual form, or an internet address in its shortest one.  A
name whose last label is a number is read as an address of version 4; brackets hold an
address of version 6.
-/

namespace SourceHarvest.Http

open SourceHarvest.Digest (hexValue?)
open SourceHarvest.Text (splitAtMark)

/-- The bytes of a text in which a percent sign with two digits stands for one byte. -/
def percentDecode : List Char → List UInt8
  | '%' :: high :: low :: rest =>
      match hexValue? high, hexValue? low with
      | some upper, some lower => UInt8.ofNat (16 * upper + lower) :: percentDecode rest
      | _, _ => 37 :: percentDecode (high :: low :: rest)
  | c :: rest => (String.singleton c).toUTF8.toList ++ percentDecode rest
  | [] => []

/-- The number that digits to a base stand for. -/
def numberOf? (base : Nat) (digits : List Char) : Option Nat :=
  digits.foldl (fun value digit => do
    let sum ← value
    let next ← hexValue? digit
    if next < base then some (base * sum + next) else none) (some 0)

/-! ### Addresses of version 4 -/

/-- One part of an address: decimal, octal behind a zero, or hexadecimal behind `0x`. -/
def partOf? : List Char → Option Nat
  | [] => none
  | '0' :: 'x' :: digits => numberOf? 16 digits
  | '0' :: 'X' :: digits => numberOf? 16 digits
  | '0' :: digit :: digits => numberOf? 8 (digit :: digits)
  | digits => numberOf? 10 digits

/-- The labels of a name, without an empty one at its end. -/
def labels (name : List Char) : List (List Char) :=
  let parts := splitAtMark '.' name
  if 1 < parts.length ∧ parts.getLast? = some [] then parts.dropLast else parts

/-- The last label of a name is a number. -/
def endsInNumber (name : List Char) : Bool :=
  match (labels name).getLast? with
  | some label => (label != [] && label.all Char.isDigit) ||
      (match label with
        | '0' :: 'x' :: digits => (numberOf? 16 digits).isSome
        | '0' :: 'X' :: digits => (numberOf? 16 digits).isSome
        | _ => false)
  | none => false

/-- The number that the parts of an address make up: the last part fills all bytes that
the others leave. -/
def joinParts? (parts : List Nat) : Option Nat :=
  match parts.reverse with
  | [] => none
  | last :: earlier =>
      if earlier.length ≤ 3 ∧ earlier.all (· ≤ 255) ∧ last < Nat.pow 256 (4 - earlier.length) then
        some (earlier.reverse.foldl (fun sum part => 256 * sum + part) 0 *
          Nat.pow 256 (4 - earlier.length) + last)
      else none

/-- The four bytes of an address, with dots between them. -/
def dottedText (address : Nat) : String :=
  ".".intercalate ([16777216, 65536, 256, 1].map fun unit => toString (address / unit % 256))

/-- The usual form of an address of version 4. -/
def versionFour? (name : List Char) : Option String :=
  ((labels name).mapM partOf?).bind fun parts => (joinParts? parts).map dottedText

/-! ### Addresses of version 6 -/

/-- A group of one to four hexadecimal digits. -/
def groupOf? (digits : List Char) : Option Nat :=
  if 1 ≤ digits.length ∧ digits.length ≤ 4 then numberOf? 16 digits else none

/-- A byte in decimal, without zeros in front. -/
def byteOf? (digits : List Char) : Option Nat :=
  if digits.isEmpty || !digits.all Char.isDigit || (digits.head? = some '0' && digits != ['0']) then
    none
  else (numberOf? 10 digits).filter (· ≤ 255)

/-- The two groups that four bytes with dots between them make up. -/
def dottedGroups? (part : List Char) : Option (List Nat) := do
  match ← (splitAtMark '.' part).mapM byteOf? with
  | [a, b, c, d] => some [256 * a + b, 256 * c + d]
  | _ => none

/-- The sixteen-bit groups of a list of parts.  At the end of an address, the last part may
be four bytes with dots. -/
def groupsOf? (atEnd : Bool) : List (List Char) → Option (List Nat)
  | [] => some []
  | [part] =>
      if atEnd && part.contains '.' then dottedGroups? part
      else (groupOf? part).map fun group => [group]
  | part :: rest => do
      let group ← groupOf? part
      let groups ← groupsOf? atEnd rest
      pure (group :: groups)

/-- The groups on one side of a gap; a side without text has none. -/
def sideOf? (atEnd : Bool) (text : List Char) : Option (List Nat) :=
  if text.isEmpty then some [] else groupsOf? atEnd (splitAtMark ':' text)

/-- Cut a text at its first two colons in a row. -/
def cutAtGap? : List Char → Option (List Char × List Char)
  | ':' :: ':' :: rest => some ([], rest)
  | c :: rest => (cutAtGap? rest).map fun parts => (c :: parts.1, parts.2)
  | [] => none

/-- The eight groups of an address. -/
def eightGroups? (text : List Char) : Option (List Nat) :=
  match cutAtGap? text with
  | none => (sideOf? true text).filter (·.length = 8)
  | some (before, after) => do
      let left ← sideOf? false before
      let right ← sideOf? true after
      if left.length + right.length ≤ 7 then
        some (left ++ List.replicate (8 - left.length - right.length) 0 ++ right)
      else none

/-- How many zeros a list starts with. -/
def leadingZeros (groups : List Nat) : Nat :=
  (groups.takeWhile (· = 0)).length

/-- Where the first of the longest runs of zeros starts, and its length. -/
def longestGap (groups : List Nat) : Nat × Nat :=
  (List.range groups.length).foldl (fun best start =>
    let length := leadingZeros (groups.drop start)
    if best.2 < length then (start, length) else best) (0, 0)

/-- A group in hexadecimal without zeros in front. -/
def groupText (group : Nat) : String :=
  String.ofList (Nat.toDigits 16 group)

/-- The usual form of an address of version 6, in brackets. -/
def versionSix? (text : List Char) : Option String :=
  (eightGroups? text).map fun groups =>
    let (start, length) := longestGap groups
    let write := fun part : List Nat => ":".intercalate (part.map groupText)
    if length < 2 then "[" ++ write groups ++ "]"
    else "[" ++ write (groups.take start) ++ "::" ++ write (groups.drop (start + length)) ++ "]"

/-! ### Hosts -/

/-- A character of ASCII that no host name has. -/
def isForbidden (c : Char) : Bool :=
  c.toNat ≤ 0x20 || c.toNat = 0x7F || "#/:<>?@[\\]^|%".toList.contains c

/-- The usual form of a host. -/
def hostOf? (text : List Char) : Option String :=
  match text with
  | '[' :: rest =>
      if rest.getLast? = some ']' then versionSix? rest.dropLast else none
  | _ => do
      let decoded ← String.fromUTF8? ⟨(percentDecode text).toArray⟩
      let name ← DomainName.usualForm? decoded.toList
      if name.isEmpty || name.any isForbidden then none
      else if endsInNumber name then versionFour? name
      else some (String.ofList name)

end SourceHarvest.Http
