/-!
# Binary floating-point numbers

A number is a sign, a natural significand and a power of two, so all arithmetic
is exact arithmetic on natural numbers followed by one rounding.  Rounding goes
to the nearest number of the format, and from a tie to the even significand; a
magnitude beyond the greatest number becomes infinite.
-/

namespace SourceHarvest.Numeric

/-- A binary format: the bits of a significand, and the exponents of the last
bit of the smallest and of the greatest numbers. -/
structure Format where
  precision : Nat
  leastExponent : Int
  greatestExponent : Int
deriving DecidableEq, Repr

/-- The format with 53 significant bits in 64. -/
def Format.double : Format := ⟨53, -1074, 971⟩

/-- The format with 24 significant bits in 32. -/
def Format.single : Format := ⟨24, -149, 104⟩

/-- A signed zero or number `significand * 2 ^ exponent`, or an infinity. -/
inductive Binary where
  | finite (negative : Bool) (significand : Nat) (exponent : Int)
  | infinite (negative : Bool)
deriving DecidableEq, Repr

/-- A quotient of natural numbers rounded to the nearest, ties to the even one. -/
def roundQuotient (numerator denominator : Nat) : Nat :=
  let floor := numerator / denominator
  let rest := 2 * (numerator % denominator)
  if rest < denominator then floor
  else if denominator < rest then floor + 1
  else floor + floor % 2

/-- The greatest `n` with `2 ^ n * denominator ≤ numerator`, for a positive quotient. -/
def quotientLog2 (numerator denominator : Nat) : Int :=
  let difference : Int := (Nat.log2 numerator : Int) - Nat.log2 denominator
  let scaledUp := numerator <<< (-difference).toNat
  let scaledDown := denominator <<< difference.toNat
  if scaledDown ≤ scaledUp then difference else difference - 1

namespace Format

/-- The number of the format nearest to a quotient; a zero quotient keeps its sign. -/
def round (format : Format) (negative : Bool) (numerator denominator : Nat) : Binary :=
  if numerator = 0 then .finite negative 0 format.leastExponent
  else
    let exponent := max format.leastExponent
      (quotientLog2 numerator denominator - (format.precision - 1))
    let significand := roundQuotient (numerator <<< (-exponent).toNat)
      (denominator <<< exponent.toNat)
    let carried := significand = 1 <<< format.precision
    let exponent := if carried then exponent + 1 else exponent
    let significand := if carried then 1 <<< (format.precision - 1) else significand
    if format.greatestExponent < exponent then .infinite negative
    else .finite negative significand exponent

/-- The number of the format nearest to a natural number. -/
def ofNat (format : Format) (value : Nat) : Binary :=
  format.round false value 1

end Format

namespace Binary

/-- The same magnitude with the other sign. -/
def negate : Binary → Binary
  | finite negative significand exponent => finite (!negative) significand exponent
  | infinite negative => infinite (!negative)

/-- Neither a number nor its negative is beyond all bounds. -/
def isInfinite : Binary → Bool
  | finite .. => false
  | infinite _ => true

/-- Zero of either sign. -/
def isZero : Binary → Bool
  | finite _ significand _ => significand == 0
  | infinite _ => false

/-- The product, rounded once; an infinite factor gives an infinite product. -/
def multiply (format : Format) : Binary → Binary → Binary
  | finite negativeLeft left leftExponent, finite negativeRight right rightExponent =>
      let exponent := leftExponent + rightExponent
      format.round (negativeLeft != negativeRight)
        ((left * right) <<< exponent.toNat) (1 <<< (-exponent).toNat)
  | finite negativeLeft .., infinite negativeRight
  | infinite negativeLeft, finite negativeRight ..
  | infinite negativeLeft, infinite negativeRight => infinite (negativeLeft != negativeRight)

/-- The quotient by a finite nonzero divisor, rounded once. -/
def divide (format : Format) : Binary → Binary → Binary
  | finite negativeLeft left leftExponent, finite negativeRight right rightExponent =>
      let exponent := leftExponent - rightExponent
      format.round (negativeLeft != negativeRight)
        (left <<< exponent.toNat) (right <<< (-exponent).toNat)
  | finite negativeLeft .., infinite negativeRight =>
      finite (negativeLeft != negativeRight) 0 format.leastExponent
  | infinite negativeLeft, finite negativeRight ..
  | infinite negativeLeft, infinite negativeRight => infinite (negativeLeft != negativeRight)

/-- The nearest number of another format. -/
def convert (format : Format) : Binary → Binary
  | finite negative significand exponent =>
      format.round negative (significand <<< exponent.toNat) (1 <<< (-exponent).toNat)
  | infinite negative => infinite negative

theorem negate_negate (value : Binary) : value.negate.negate = value := by
  cases value <;> simp [negate]

end Binary

/-- A rounded quotient is within half a unit of the exact one. -/
theorem roundQuotient_near (numerator denominator : Nat) (positive : 0 < denominator) :
    2 * numerator ≤ 2 * (roundQuotient numerator denominator * denominator) + denominator ∧
      2 * (roundQuotient numerator denominator * denominator) ≤ 2 * numerator + denominator := by
  have parts := Nat.div_add_mod numerator denominator
  have small := Nat.mod_lt numerator positive
  simp only [roundQuotient]
  generalize numerator / denominator = floor at *
  generalize numerator % denominator = rest at *
  have commuted : denominator * floor = floor * denominator := Nat.mul_comm _ _
  have next : (floor + 1) * denominator = floor * denominator + denominator := by
    rw [Nat.add_mul, Nat.one_mul]
  split
  · omega
  · split
    · omega
    · rcases Nat.mod_two_eq_zero_or_one floor with even | odd
      · simp only [even, Nat.add_zero]
        omega
      · simp only [odd]
        omega

end SourceHarvest.Numeric
