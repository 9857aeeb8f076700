import ClassMachine.Text.Utf16

set_option autoImplicit false

/-!
Modified UTF-8, the text format of class files. Each UTF-16 unit takes one, two or three bytes by
itself, so a supplementary character is two three-byte forms, and the unit zero takes two bytes, so
that no byte is ever zero. Reading does not ask that a unit be in its shortest form.
-/

namespace ClassMachine.ModifiedUtf8

def isContinuation (byte : UInt8) : Bool := byte &&& 0xC0 == 0x80

def payload (byte : UInt8) : UInt16 := (byte &&& 0x3F).toUInt16

def units : List UInt8 → Option (List UInt16)
  | [] => some []
  | first :: rest =>
    if first == 0 then none
    else if first < 0x80 then (units rest).map (first.toUInt16 :: ·)
    else if first < 0xC0 then none
    else if first < 0xE0 then
      match rest with
      | second :: others =>
        if isContinuation second then
          (units others).map (((first &&& 0x1F).toUInt16 <<< 6 ||| payload second) :: ·)
        else none
      | [] => none
    else if first < 0xF0 then
      match rest with
      | second :: third :: others =>
        if isContinuation second && isContinuation third then
          (units others).map
            (((first &&& 0x0F).toUInt16 <<< 12 ||| payload second <<< 6 ||| payload third) :: ·)
        else none
      | _ => none
    else none

def decode (bytes : List UInt8) : Option String :=
  ((units bytes).bind Utf16.decode).map String.ofList

/-- A continuation byte with the six lowest bits of a unit. -/
def continuation (unit : UInt16) : UInt8 := 0x80 ||| (unit &&& 0x3F).toUInt8

def encodeUnit (unit : UInt16) : List UInt8 :=
  if unit ≠ 0 ∧ unit < 0x80 then [unit.toUInt8]
  else if unit < 0x800 then [(0xC0 : UInt8) ||| (unit >>> 6).toUInt8, continuation unit]
  else [(0xE0 : UInt8) ||| (unit >>> 12).toUInt8, continuation (unit >>> 6), continuation unit]

def encode (text : String) : List UInt8 :=
  (Utf16.encode text.toList).flatMap encodeUnit

end ClassMachine.ModifiedUtf8
