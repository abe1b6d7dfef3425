import SourceHarvest.Json.Basic
import SourceHarvest.Numeric.Layout

/-!
# Numbers as they are written

A numeral keeps the digits of a number text.  Its value is an integer where the
text has neither fraction nor exponent and 64 bits hold it.  Otherwise the
leading digits that 64 bits hold become a double, which is multiplied or divided
once by a power of ten for each 308 places that the decimal point has to move.
This reading is fast rather than exact: the last bit may differ from the double
nearest to the text.
-/

namespace SourceHarvest.Json

open SourceHarvest.Numeric

/-- The exponent of a numeral: its sign and its digits. -/
structure NumeralExponent where
  negative : Bool
  digits : List (Fin 10)
deriving DecidableEq, Repr

/-- The parts of a number text. -/
structure Numeral where
  negative : Bool
  whole : List (Fin 10)
  fraction : Option (List (Fin 10))
  exponent : Option NumeralExponent
deriving DecidableEq, Repr

namespace Numeral

/-- The number that a list of digits stands for. -/
def digitsValue (digits : List (Fin 10)) : Nat :=
  digits.foldl (fun value digit => 10 * value + digit.val) 0

/-- Append digits to a number while the result has 64 bits; also say how many did not fit. -/
def absorb (value : Nat) : List (Fin 10) → Nat × Nat
  | [] => (value, 0)
  | digit :: rest =>
      let longer := 10 * value + digit.val
      if longer ≤ greatestWord then absorb longer rest else (value, rest.length + 1)

/-- The greatest exponent that is taken at its value. -/
def greatestExponent : Nat := 0x7FFFFFFF

/-- The double nearest to a power of ten up to `10 ^ 308`. -/
def powerOfTen (exponent : Nat) : Binary :=
  Format.double.ofNat (Nat.pow 10 exponent)

/-- Scale a double by a power of ten, at most `10 ^ 308` at a time.  The first
argument bounds the number of divisions.  A result beyond all doubles is none. -/
def scale : Nat → Binary → Int → Option Binary
  | 0, value, _ => some value
  | steps + 1, value, exponent =>
      if exponent.natAbs ≤ 308 then
        let power := powerOfTen exponent.natAbs
        if 0 ≤ exponent then
          let product := Binary.multiply .double value power
          if product.isInfinite then none else some product
        else some (Binary.divide .double value power)
      else if value.isZero then some value
      else if 0 ≤ exponent then none
      else scale steps (Binary.divide .double value (powerOfTen 308)) (exponent + 308)

/-- The double that leading digits and a place of the decimal point stand for.
Two divisions bring every 64-bit number to zero, so five steps always suffice. -/
def doubleOfParts (negative : Bool) (leading : Nat) (exponent : Int) : Option Binary :=
  (scale 5 (Format.double.ofNat leading) exponent).map fun value =>
    if negative then value.negate else value

/-- The leading digits as a number, and how far the decimal point stands to their right. -/
def leading (numeral : Numeral) : Nat × Int :=
  let (whole, wholeLeft) := absorb 0 numeral.whole
  match numeral.fraction with
  | none => (whole, wholeLeft)
  | some digits =>
      let (value, fractionLeft) := absorb whole digits
      (value, (wholeLeft : Int) - ((digits.length : Int) - fractionLeft))

/-- The numeral read as a double; none if it is beyond all doubles. -/
def double? (numeral : Numeral) : Option Binary :=
  let (value, place) := numeral.leading
  match numeral.exponent with
  | none => doubleOfParts numeral.negative value place
  | some exponent =>
      let written := digitsValue exponent.digits
      if greatestExponent < written then
        if value ≠ 0 ∧ exponent.negative = false then none
        else some (.finite numeral.negative 0 Format.double.leastExponent)
      else
        let moved := place + if exponent.negative then -(written : Int) else written
        doubleOfParts numeral.negative value moved

/-- The number that a numeral stands for; none if it is beyond all doubles. -/
def number? (numeral : Numeral) : Option Number :=
  let whole := digitsValue numeral.whole
  let isInteger := numeral.fraction.isNone && numeral.exponent.isNone
  if isInteger && !numeral.negative && whole ≤ greatestWord then some (.natural whole)
  else if isInteger && numeral.negative && 0 < whole && whole ≤ 0x8000000000000000 then some (.negative whole)
  else numeral.double?.map (.real .double)

end Numeral

end SourceHarvest.Json
