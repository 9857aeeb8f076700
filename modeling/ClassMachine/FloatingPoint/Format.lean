set_option autoImplicit false

/-!
Binary floating-point formats. A word of a format is a sign bit, a biased exponent and a fraction;
`decode` gives the number that it stands for as an integer times a power of two, and `round` gives
the word nearest to a quotient of natural numbers.
-/

namespace ClassMachine

structure FloatFormat where
  exponentBits : Nat
  fractionBits : Nat

/-- What a word stands for; a finite number is `significand * 2 ^ exponent`. -/
inductive FloatDatum where
  | notANumber
  | infinite (isNegative : Bool)
  | finite (isNegative : Bool) (significand : Nat) (exponent : Int)
  deriving DecidableEq

namespace FloatFormat

def single : FloatFormat := ⟨8, 23⟩

def double : FloatFormat := ⟨11, 52⟩

def signWeight (format : FloatFormat) : Nat := 1 <<< (format.exponentBits + format.fractionBits)

def infinity (format : FloatFormat) : Nat :=
  (1 <<< format.exponentBits - 1) <<< format.fractionBits

/-- The word for the result of an operation that has none. -/
def quietNaN (format : FloatFormat) : Nat := format.infinity + 1 <<< (format.fractionBits - 1)

/-- The exponent of the smallest positive number. -/
def minExponent (format : FloatFormat) : Int :=
  2 - (1 <<< (format.exponentBits - 1) : Nat) - format.fractionBits

def withSign (format : FloatFormat) (isNegative : Bool) (magnitude : Nat) : Nat :=
  if isNegative then format.signWeight + magnitude else magnitude

def decode (format : FloatFormat) (word : Nat) : FloatDatum :=
  let isNegative := format.signWeight ≤ word
  let magnitude := word % format.signWeight
  let biased := magnitude >>> format.fractionBits
  let fraction := magnitude % 1 <<< format.fractionBits
  if format.infinity < magnitude then .notANumber
  else if magnitude = format.infinity then .infinite isNegative
  else if biased = 0 then .finite isNegative fraction format.minExponent
  else .finite isNegative (1 <<< format.fractionBits + fraction) (format.minExponent + biased - 1)

/-- The quotient rounded to the nearest integer, and to the even one of two that are as near. -/
def roundQuotient (numerator denominator : Nat) : Nat :=
  let quotient := numerator / denominator
  let twiceRemainder := 2 * (numerator % denominator)
  if denominator < twiceRemainder ∨ (twiceRemainder = denominator ∧ quotient % 2 = 1) then
    quotient + 1
  else quotient

/-- A natural number times two to a power, as a quotient. -/
def scaled (numerator denominator : Nat) (exponent : Int) : Nat × Nat :=
  if exponent < 0 then (numerator, denominator <<< exponent.natAbs)
  else (numerator <<< exponent.natAbs, denominator)

/-- The power of two in whose multiples the quotient has all bits of a significand, but not less
than the smallest exponent. -/
def roundingExponent (format : FloatFormat) (numerator denominator : Nat) : Int :=
  let estimate : Int := (Nat.log2 numerator : Int) - Nat.log2 denominator - format.fractionBits
  let (top, bottom) := scaled numerator denominator (-estimate)
  let exact := if top < bottom <<< format.fractionBits then estimate - 1 else estimate
  max exact format.minExponent

/-- The word nearest to a quotient with a positive denominator; of two that are as near, the even
one. A quotient beyond all finite numbers gives an infinite word. -/
def round (format : FloatFormat) (isNegative : Bool) (numerator denominator : Nat) : Nat :=
  if numerator = 0 then format.withSign isNegative 0
  else
    let exponent := format.roundingExponent numerator denominator
    let (top, bottom) := scaled numerator denominator (-exponent)
    let steps := (exponent - format.minExponent).toNat
    let magnitude := steps <<< format.fractionBits + roundQuotient top bottom
    format.withSign isNegative (min magnitude format.infinity)

/-- The word of an integer times a power of two that the format can hold. -/
def ofDatum (format : FloatFormat) (isNegative : Bool) (significand : Nat) (exponent : Int) : Nat :=
  let (top, bottom) := scaled significand 1 exponent
  format.round isNegative top bottom

/-- The remainder of dividing toward zero. It is exact and has the sign of the dividend. -/
def remainder (format : FloatFormat) (dividend divisor : Nat) : Nat :=
  match format.decode dividend, format.decode divisor with
  | .finite isNegative significand exponent, .finite _ otherSignificand otherExponent =>
    if otherSignificand = 0 then format.quietNaN
    else
      let common := min exponent otherExponent
      let top := significand <<< (exponent - common).toNat
      let bottom := otherSignificand <<< (otherExponent - common).toNat
      format.ofDatum isNegative (top % bottom) common
  | .finite .., .infinite _ => dividend
  | _, _ => format.quietNaN

end FloatFormat

end ClassMachine
