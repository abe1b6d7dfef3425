import SourceHarvest.Numeric.Binary

/-!
# The shortest decimal of a binary number

Every binary number is the nearest one to an interval of reals around it.  The
decimal found here lies in that interval, has as few digits as any that does,
and among those is nearest to the number itself, the even last digit winning a
tie.
-/

namespace SourceHarvest.Numeric

/-- The decimal `digits * 10 ^ exponent`. -/
structure Decimal where
  digits : Nat
  exponent : Int
deriving DecidableEq, Repr

/-- How many decimal digits a natural number has; zero has none. -/
def digitCount (value : Nat) : Nat :=
  if value = 0 then 0 else (Nat.toDigits 10 value).length

/-- The reals that round to a number, as a positive value between two bounds over one denominator. -/
structure Interval where
  low : Nat
  value : Nat
  high : Nat
  denominator : Nat
  closed : Bool

namespace Interval

/-- The interval of `significand * 2 ^ exponent`.  Below a power of two the
numbers of a format lie twice as dense, except among the smallest. -/
def around (format : Format) (significand : Nat) (exponent : Int) : Interval :=
  let scale := 1 <<< exponent.toNat
  let narrow := significand = 1 <<< (format.precision - 1) ∧ format.leastExponent < exponent
  { low := (4 * significand - if narrow then 1 else 2) * scale
    value := 4 * significand * scale
    high := (4 * significand + 2) * scale
    denominator := 4 <<< (-exponent).toNat
    closed := significand % 2 == 0 }

/-- The decimal lies in the interval. -/
def contains (interval : Interval) (decimal : Decimal) : Bool :=
  let point := decimal.digits * Nat.pow 10 decimal.exponent.toNat * interval.denominator
  let shift := Nat.pow 10 (-decimal.exponent).toNat
  if interval.closed then interval.low * shift ≤ point && point ≤ interval.high * shift
  else interval.low * shift < point && point < interval.high * shift

/-- The greatest `n` with `10 ^ n` at most the value, for a positive value. -/
def decimalOrder (interval : Interval) : Int :=
  let whole := interval.value / interval.denominator
  if whole = 0 then
    -(digitCount ((interval.denominator + interval.value - 1) / interval.value - 1) : Int)
  else (digitCount whole : Int) - 1

/-- The value's neighbour below on the grid of multiples of `10 ^ exponent`, and
whether the neighbour above is nearer: `lt` for the lower one, `eq` for a tie. -/
def gridFloor (interval : Interval) (exponent : Int) : Nat × Ordering :=
  let numerator := interval.value * Nat.pow 10 (-exponent).toNat
  let denominator := interval.denominator * Nat.pow 10 exponent.toNat
  (numerator / denominator, compare (2 * (numerator % denominator)) denominator)

/-- The better neighbour of the value on a grid that lies in the interval, if any does. -/
def hit? (interval : Interval) (exponent : Int) : Option Decimal :=
  let (floor, side) := interval.gridFloor exponent
  let below : Decimal := ⟨floor, exponent⟩
  let above : Decimal := ⟨floor + 1, exponent⟩
  match interval.contains below, interval.contains above with
  | true, false => some below
  | false, true => some above
  | false, false => none
  | true, true =>
      match side with
      | .lt => some below
      | .gt => some above
      | .eq => if floor % 2 = 0 then some below else some above

/-- Try grids of growing fineness, `remaining` more of them. -/
def search (interval : Interval) : Nat → Int → Option Decimal
  | 0, _ => none
  | remaining + 1, exponent =>
      match interval.hit? exponent with
      | some decimal => some decimal
      | none => interval.search remaining (exponent - 1)

theorem hit?_contains {interval : Interval} {exponent : Int} {decimal : Decimal}
    (found : interval.hit? exponent = some decimal) : interval.contains decimal = true := by
  simp only [hit?] at found
  grind

/-- What the search finds rounds to the number. -/
theorem search_contains {interval : Interval} {remaining : Nat} {exponent : Int}
    {decimal : Decimal} (found : interval.search remaining exponent = some decimal) :
    interval.contains decimal = true := by
  induction remaining generalizing exponent with
  | zero => simp [search] at found
  | succ remaining inductionHypothesis =>
      simp only [search] at found
      split at found
      · rename_i hit
        cases found
        exact hit?_contains hit
      · exact inductionHypothesis found

end Interval

/-- The shortest decimal of a positive number; twenty digits always suffice. -/
def shortestDecimal (format : Format) (significand : Nat) (exponent : Int) : Decimal :=
  let interval := Interval.around format significand exponent
  (interval.search 20 interval.decimalOrder).getD ⟨significand, exponent⟩

end SourceHarvest.Numeric
