/-!
# Labels in ASCII

A label with characters outside ASCII can be written in ASCII: first its characters of
ASCII, then a dash, then where the others go.  These are put in by code point and then by
place, and for each a number tells how many pairs of code point and place are passed over
to get to it.  A number has digits from thirty-six, the least one first.  Each place has a
threshold, and a digit below it is the last one of its number.  The thresholds follow a
bias, which adapts to the numbers so far.
-/

namespace SourceHarvest.Http.Punycode

/-! ### Digits and thresholds -/

/-- How many digits there are. -/
def digitCount : Nat := 36

/-- The digit of a value: a letter below twenty-six, else a numeral. -/
def digitChar (value : Nat) : Char :=
  if value < 26 then Char.ofNat (97 + value) else Char.ofNat (22 + value)

/-- The value of a digit. -/
def digitValue? (c : Char) : Option Nat :=
  if c.isLower then some (c.toNat - 97)
  else if c.isUpper then some (c.toNat - 65)
  else if c.isDigit then some (c.toNat - 22)
  else none

/-- The threshold of a place under a bias, from one to twenty-six. -/
def threshold (bias place : Nat) : Nat :=
  max 1 (min 26 (digitCount * (place + 1) - bias))

theorem one_le_threshold (bias place : Nat) : 1 ≤ threshold bias place :=
  Nat.le_max_left ..

theorem threshold_le (bias place : Nat) : threshold bias place ≤ 26 := by
  simp only [threshold]
  omega

/-- The bias before the first number. -/
def firstBias : Nat := 72

/-- The first code point outside ASCII. -/
def firstCode : Nat := 128

/-- Divide a number until it is small: how often that takes, and what is left. -/
def shrink (number : Nat) : Nat × Nat :=
  if 455 < number then
    let (times, rest) := shrink (number / 35)
    (times + 1, rest)
  else (0, number)
termination_by number

/-- The bias behind a number, with which a label gets a count of characters. -/
def adaptedBias (isFirst : Bool) (number count : Nat) : Nat :=
  let damped := if isFirst then number / 700 else number / 2
  let (times, rest) := shrink (damped + damped / count)
  digitCount * times + digitCount * rest / (rest + 38)

/-! ### Writing -/

/-- The digits of a number from a place on. -/
def writeNumber (bias place number : Nat) : List Char :=
  let bound := threshold bias place
  if number < bound then [digitChar number]
  else
    let left := number - bound
    digitChar (bound + left % (digitCount - bound)) ::
      writeNumber bias (place + 1) (left / (digitCount - bound))
termination_by number
decreasing_by
  have least := one_le_threshold bias place
  have most := threshold_le bias place
  have divided := Nat.div_le_self (number - threshold bias place)
    (digitCount - threshold bias place)
  omega

/-- How far a label is written: the pairs passed over since the last number, the bias, how
many characters are written, whether a number is, and the digits. -/
structure Writer where
  passed : Nat
  bias : Nat
  count : Nat
  isFirst : Bool
  digits : List Char

/-- Pass a character of the label while those with a code point are written. -/
def Writer.pass (code : Nat) (writer : Writer) (c : Char) : Writer :=
  if c.toNat < code then { writer with passed := writer.passed + 1 }
  else if c.toNat = code then
    { passed := 0
      bias := adaptedBias writer.isFirst writer.passed (writer.count + 1)
      count := writer.count + 1
      isFirst := false
      digits := writer.digits ++ writeNumber writer.bias 0 writer.passed }
  else writer

/-- Write all characters with a code point; those before `next` are written. -/
def Writer.writeAll (label : List Char) (state : Writer × Nat) (code : Nat) : Writer × Nat :=
  let (writer, next) := state
  let skipped := { writer with passed := writer.passed + (code - next) * (writer.count + 1) }
  let written := label.foldl (Writer.pass code) skipped
  ({ written with passed := written.passed + 1 }, code + 1)

/-- A label in ASCII. -/
def encode (label : List Char) : List Char :=
  let (basic, others) := label.partition fun c => c.toNat < firstCode
  let codes := ((others.map Char.toNat).mergeSort fun left right => decide (left ≤ right)).eraseDups
  let start : Writer := ⟨0, firstBias, basic.length, true, []⟩
  let (writer, _) := codes.foldl (Writer.writeAll label) (start, firstCode)
  basic ++ (if basic.isEmpty then [] else ['-']) ++ writer.digits

/-! ### Reading -/

/-- How far a label is read: its characters, the code point and the place of the next one,
the bias, whether a number was read, and the number that is being read. -/
structure Reader where
  label : List Char
  code : Nat
  position : Nat
  bias : Nat
  isFirst : Bool
  number : Nat
  weight : Nat
  place : Nat

/-- Numbers are below this. -/
def numberLimit : Nat := 0x100000000

/-- Put in the character that a number leads to. -/
def Reader.insert? (reader : Reader) (number : Nat) : Option Reader :=
  let count := reader.label.length + 1
  let code := reader.code + (reader.position + number) / count
  let position := (reader.position + number) % count
  if code.isValidChar ∧ reader.position + number < numberLimit then
    some
      { label := reader.label.insertIdx position (Char.ofNat code)
        code
        position := position + 1
        bias := adaptedBias reader.isFirst number count
        isFirst := false
        number := 0
        weight := 1
        place := 0 }
  else none

/-- Read a digit. -/
def Reader.take? (reader : Reader) (c : Char) : Option Reader := do
  let digit ← digitValue? c
  let bound := threshold reader.bias reader.place
  let number := reader.number + digit * reader.weight
  if digit < bound then reader.insert? number
  else
    let weight := reader.weight * (digitCount - bound)
    if weight < numberLimit then some { reader with number, weight, place := reader.place + 1 }
    else none

/-- The label that is written in ASCII, if it is written well. -/
def decode? (text : List Char) : Option (List Char) := do
  let tail := (text.reverse.takeWhile (· != '-')).reverse
  let basic := text.take (text.length - tail.length - 1)
  let digits := if basic.isEmpty then text else tail
  let start : Reader := ⟨basic, firstCode, 0, firstBias, true, 0, 1, 0⟩
  let reader ← digits.foldlM Reader.take? start
  if reader.place = 0 then some reader.label else none

end SourceHarvest.Http.Punycode
