import ClassMachine.FloatingPoint.Format

set_option autoImplicit false

/-!
The fewest decimal digits that read back as a given floating-point number. The reals that round to
a number form an interval, which holds its ends if the significand is even. For ever more digits,
the two neighbours of the number on the grid of decimals with that many digits are looked at; the
first grid on which one of them lies in the interval wins, the nearer one of two, and the one above
of two that are as near.
-/

namespace ClassMachine.Shortest

/-- A number and the ends of its interval, as natural numbers over one denominator. -/
structure Interval where
  low : Nat
  value : Nat
  high : Nat
  denominator : Nat
  holdsEnds : Bool

/-- The interval of a positive finite number. Below a power of two the next number is half as far
away as above it. -/
def interval (format : FloatFormat) (significand : Nat) (exponent : Int) : Interval :=
  let isBoundary := significand = 1 <<< format.fractionBits ∧ format.minExponent < exponent
  let quarters := exponent - 2
  let factor := if quarters < 0 then 1 else 1 <<< quarters.natAbs
  { low := (4 * significand - if isBoundary then 1 else 2) * factor
    value := 4 * significand * factor
    high := (4 * significand + 2) * factor
    denominator := if quarters < 0 then 1 <<< quarters.natAbs else 1
    holdsEnds := significand % 2 = 0 }

def Interval.inUnits (interval : Interval) (power : Int) : Interval :=
  if power < 0 then
    { interval with
      low := interval.low * Nat.pow 10 power.natAbs
      value := interval.value * Nat.pow 10 power.natAbs
      high := interval.high * Nat.pow 10 power.natAbs }
  else { interval with denominator := interval.denominator * Nat.pow 10 power.natAbs }

def Interval.contains (interval : Interval) (integer : Nat) : Bool :=
  let scaled := integer * interval.denominator
  if interval.holdsEnds then interval.low ≤ scaled && scaled ≤ interval.high
  else interval.low < scaled && scaled < interval.high

/-- The nearest integer in the interval to its number, if one of its two neighbours lies in it. -/
def Interval.nearest? (interval : Interval) : Option Nat :=
  let below := interval.value / interval.denominator
  let above := below + 1
  let distance := interval.value % interval.denominator
  if interval.contains below && (distance * 2 < interval.denominator || !interval.contains above)
  then some below
  else if interval.contains above then some above
  else none

/-- Tries ever finer grids, from the one of this power of ten on. -/
def search (interval : Interval) : Nat → Int → Nat × Int
  | 0, power => (0, power)
  | grids + 1, power =>
    match (interval.inUnits power).nearest? with
    | some digits => (digits, power)
    | none => search interval grids (power - 1)

/-- The number of decimal digits of a natural number. -/
def digitCount (number : Nat) : Nat :=
  if number < 10 then 1 else digitCount (number / 10) + 1

/-- A power of ten above every number of the interval's size. -/
def startingPower (interval : Interval) : Int :=
  if interval.denominator ≤ interval.value then
    digitCount (interval.value / interval.denominator) + 1
  else 2 - (digitCount (interval.denominator / interval.value) : Int)

/-- An integer and a power of ten whose product is the shortest decimal of a positive number. No
more than 17 digits are ever needed. -/
def decimal (format : FloatFormat) (significand : Nat) (exponent : Int) : Nat × Int :=
  let interval := interval format significand exponent
  search interval 24 (startingPower interval)

end ClassMachine.Shortest
