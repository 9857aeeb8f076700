set_option autoImplicit false

/-!
Decimal integers. `digits` writes a natural number; `readNatural` and `readInteger` accept an
optional sign and at least one digit, and refuse whatever leaves a given range. Reading goes from
left to right, so of two faults the earlier one is reported.
-/

namespace ClassMachine.Decimal

inductive ReadError where
  | empty
  | invalidDigit
  | tooLarge
  | tooSmall
  deriving DecidableEq

namespace ReadError

def message : ReadError → String
  | .empty => "cannot parse integer from empty string"
  | .invalidDigit => "invalid digit found in string"
  | .tooLarge => "number too large to fit in target type"
  | .tooSmall => "number too small to fit in target type"

end ReadError

def digit (value : Nat) : Char :=
  Char.ofNat (48 + value)

def digitValue? (character : Char) : Option Nat :=
  if '0' ≤ character ∧ character ≤ '9' then some (character.toNat - 48) else none

theorem digitValue?_digit {value : Nat} (isDigit : value < 10) :
    digitValue? (digit value) = some value := by
  have cases : ∀ value : Fin 10, digitValue? (digit value) = some value.val := by decide
  exact cases ⟨value, isDigit⟩

def digits (number : Nat) : List Char :=
  if number < 10 then [digit number] else digits (number / 10) ++ [digit (number % 10)]

def ofInt (number : Int) : String :=
  if number < 0 then String.ofList ('-' :: digits number.natAbs)
  else String.ofList (digits number.natAbs)

/-- Continues a number with further digits, as long as it is at most `limit`. -/
def readDigits (limit : Nat) (overflow : ReadError) : Nat → List Char → Except ReadError Nat
  | number, [] => .ok number
  | number, character :: characters =>
    match digitValue? character with
    | none => .error .invalidDigit
    | some value =>
      if number * 10 + value ≤ limit then
        readDigits limit overflow (number * 10 + value) characters
      else .error overflow

def readNatural (limit : Nat) : List Char → Except ReadError Nat
  | [] => .error .empty
  | ['+'] => .error .invalidDigit
  | '+' :: characters => readDigits limit .tooLarge 0 characters
  | characters => readDigits limit .tooLarge 0 characters

def readInteger (limit : Nat) : List Char → Except ReadError Int
  | ['-'] => .error .invalidDigit
  | '-' :: characters => (readDigits (limit + 1) .tooSmall 0 characters).map fun n => -(n : Int)
  | characters => (readNatural limit characters).map Int.ofNat

end ClassMachine.Decimal
