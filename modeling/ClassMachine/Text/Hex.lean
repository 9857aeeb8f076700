set_option autoImplicit false

/-!
Lower-case hexadecimal numerals of a fixed width.
-/

namespace ClassMachine.Hex

def digit (value : Nat) : Char :=
  if value < 10 then Char.ofNat (48 + value) else Char.ofNat (87 + value)

def digits : Nat → Nat → List Char
  | 0, _ => []
  | width + 1, number => digit (number >>> (4 * width) % 16) :: digits width number

def literal (width number : Nat) : String :=
  "0x" ++ String.ofList (digits width number)

def shortest (number : Nat) : List Char :=
  digits (Nat.log2 number / 4 + 1) number

def ofBytes (bytes : List UInt8) : String :=
  String.ofList (bytes.flatMap fun byte => digits 2 byte.toNat)

end ClassMachine.Hex
