import SourceHarvest.Numeric.Shortest

/-!
# Decimal text of binary numbers

The digits are those of the shortest decimal.  A layout says for which positions
of the decimal point they are written out in full; every other number is written
with an exponent.  A whole number that is written out ends in `.0`.
-/

namespace SourceHarvest.Numeric

/-- The range of positions of the decimal point, counted from before the first
digit, for which a number is written without an exponent. -/
structure Layout where
  leastPoint : Int
  greatestPoint : Int

/-- Doubles are written out from `0.00001` up to below `10 ^ 16`. -/
def Layout.double : Layout := ⟨-4, 16⟩

/-- Singles are written out from `0.000001` up to below `10 ^ 13`. -/
def Layout.single : Layout := ⟨-5, 13⟩

/-- The decimal digits of a natural number. -/
def decimalDigits (value : Nat) : List Char :=
  Nat.toDigits 10 value

/-- An integer with a sign in either case, as an exponent is written. -/
def signedDigits (value : Int) : List Char :=
  (if value < 0 then '-' else '+') :: decimalDigits value.natAbs

/-- The digits without zeros at their end, and how many were dropped. -/
def dropFinalZeros (digits : List Char) : List Char × Nat :=
  let kept := (digits.reverse.dropWhile (· == '0')).reverse
  (kept, digits.length - kept.length)

/-- Lay out a positive decimal. -/
def Layout.write (layout : Layout) (decimal : Decimal) : List Char :=
  let (digits, dropped) := dropFinalZeros (decimalDigits decimal.digits)
  let exponent := decimal.exponent + dropped
  let point := exponent + digits.length
  if layout.leastPoint ≤ point ∧ point ≤ layout.greatestPoint then
    if 0 ≤ exponent then digits ++ List.replicate exponent.toNat '0' ++ ['.', '0']
    else if 0 < point then digits.take point.toNat ++ '.' :: digits.drop point.toNat
    else ['0', '.'] ++ List.replicate (-point).toNat '0' ++ digits
  else
    let fraction := match digits.drop 1 with
      | [] => []
      | rest => '.' :: rest
    digits.take 1 ++ fraction ++ 'e' :: signedDigits (point - 1)

/-- The text of a number of a format, or nothing for an infinity. -/
def decimalText? (format : Format) : Binary → Option String
  | .infinite _ => none
  | .finite negative significand exponent =>
      let layout := if format = .single then Layout.single else Layout.double
      let magnitude :=
        if significand = 0 then ['0', '.', '0']
        else layout.write (shortestDecimal format significand exponent)
      some (String.ofList (if negative then '-' :: magnitude else magnitude))

end SourceHarvest.Numeric
