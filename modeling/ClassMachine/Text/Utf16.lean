set_option autoImplicit false

/-!
UTF-16. A character outside the basic plane is a high surrogate and then a low one; a surrogate
that stands alone is no text.
-/

namespace ClassMachine.Utf16

def isHigh (unit : UInt16) : Bool := 0xD800 ≤ unit && unit ≤ 0xDBFF

def isLow (unit : UInt16) : Bool := 0xDC00 ≤ unit && unit ≤ 0xDFFF

def combine (high low : UInt16) : Char :=
  Char.ofNat (0x10000 + (high.toNat - 0xD800) * 0x400 + (low.toNat - 0xDC00))

def decode : List UInt16 → Option (List Char)
  | [] => some []
  | unit :: units =>
    if isHigh unit then
      match units with
      | low :: others => if isLow low then (decode others).map (combine unit low :: ·) else none
      | [] => none
    else if isLow unit then none
    else (decode units).map (Char.ofNat unit.toNat :: ·)

def encodeChar (character : Char) : List UInt16 :=
  if character.toNat < 0x10000 then [UInt16.ofNat character.toNat]
  else
    [UInt16.ofNat (0xD800 + (character.toNat - 0x10000) / 0x400),
      UInt16.ofNat (0xDC00 + (character.toNat - 0x10000) % 0x400)]

def encode (characters : List Char) : List UInt16 :=
  characters.flatMap encodeChar

end ClassMachine.Utf16
