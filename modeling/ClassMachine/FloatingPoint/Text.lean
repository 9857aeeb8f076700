import ClassMachine.FloatingPoint.Shortest
import ClassMachine.Text.Decimal

set_option autoImplicit false

/-!
Floating-point numbers as text. They are written with the fewest digits that read back, always
positionally and without a fraction where there is none; they are read in positional or scientific
notation and rounded once, to the nearest word.
-/

namespace ClassMachine.FloatFormat

/-- The digits of an integer times a power of ten, with a point where there is a fraction. -/
def positional (digits : List Char) (power : Int) : List Char :=
  if 0 ≤ power then digits ++ List.replicate power.toNat '0'
  else
    let places := power.natAbs
    if places < digits.length then
      digits.take (digits.length - places) ++ '.' :: digits.drop (digits.length - places)
    else '0' :: '.' :: List.replicate (places - digits.length) '0' ++ digits

/-- Moves trailing zeros of an integer into the power of ten. -/
def stripZeros (digits : List Char) (power : Int) : List Char × Int :=
  let kept := (digits.reverse.dropWhile (· == '0')).reverse
  (kept, power + (digits.length - kept.length : Nat))

def signText (isNegative : Bool) : List Char :=
  if isNegative then ['-'] else []

def text (format : FloatFormat) (word : Nat) : String :=
  match format.decode word with
  | .notANumber => "NaN"
  | .infinite isNegative => String.ofList (signText isNegative ++ ['i', 'n', 'f'])
  | .finite isNegative 0 _ => String.ofList (signText isNegative ++ ['0'])
  | .finite isNegative significand exponent =>
    let (integer, power) := Shortest.decimal format significand exponent
    let (digits, power) := stripZeros (Decimal.digits integer) power
    String.ofList (signText isNegative ++ positional digits power)

def spanDigits (characters : List Char) : List Char × List Char :=
  (characters.takeWhile fun c => (Decimal.digitValue? c).isSome,
    characters.dropWhile fun c => (Decimal.digitValue? c).isSome)

def digitsValue (digits : List Char) : Nat :=
  digits.foldl (fun number c => number * 10 + (Decimal.digitValue? c).getD 0) 0

def readExponentDigits (characters : List Char) : Option Nat :=
  match spanDigits characters with
  | ([], _) => none
  | (digits, []) => some (digitsValue digits)
  | _ => none

def readExponent : List Char → Option Int
  | [] => some 0
  | 'e' :: rest | 'E' :: rest =>
    match rest with
    | '-' :: digits => (readExponentDigits digits).map fun power => -(power : Int)
    | '+' :: digits => (readExponentDigits digits).map Int.ofNat
    | digits => (readExponentDigits digits).map Int.ofNat
  | _ => none

/-- An integer and a power of ten: digits, of which some may follow a point, then an exponent. -/
def readDecimal (characters : List Char) : Option (Nat × Int) :=
  let (whole, rest) := spanDigits characters
  let (fraction, rest) :=
    match rest with
    | '.' :: rest => spanDigits rest
    | _ => ([], rest)
  if whole.isEmpty && fraction.isEmpty then none
  else
    (readExponent rest).map fun power =>
      (digitsValue (whole ++ fraction), power - (fraction.length : Int))

/-- The word nearest to an integer times a power of ten. Powers far beyond the format's range are
not computed. -/
def ofDecimal (format : FloatFormat) (isNegative : Bool) (integer : Nat) (power : Int) : Nat :=
  let magnitude := power + (Shortest.digitCount integer : Int)
  if integer = 0 then format.withSign isNegative 0
  else if 2000 < magnitude then format.withSign isNegative format.infinity
  else if magnitude < -2000 then format.withSign isNegative 0
  else if power < 0 then format.round isNegative integer (Nat.pow 10 power.natAbs)
  else format.round isNegative (integer * Nat.pow 10 power.natAbs) 1

def readUnsigned (format : FloatFormat) (isNegative : Bool) (characters : List Char) :
    Option Nat :=
  let word := String.ofList (characters.map Char.toLower)
  if word = "nan" then some (format.withSign isNegative format.quietNaN)
  else if word = "inf" ∨ word = "infinity" then some (format.withSign isNegative format.infinity)
  else
    (readDecimal characters).map fun (integer, power) =>
      format.ofDecimal isNegative integer power

/-- Reads a number after an optional sign. -/
def read? (format : FloatFormat) : List Char → Option Nat
  | '-' :: characters => format.readUnsigned true characters
  | '+' :: characters => format.readUnsigned false characters
  | characters => format.readUnsigned false characters

end ClassMachine.FloatFormat
