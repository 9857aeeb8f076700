import ClassMachine.FloatingPoint.Format
import ClassMachine.Value.Basic

set_option autoImplicit false

/-!
Arithmetic on floating-point words. Sums, products and quotients are rounded to the nearest number;
the remainder is exact; a change of sign only touches the sign bit; conversions to integers go
toward zero and stop at the ends of the range.
-/

namespace ClassMachine

namespace Single

def toFloat32 (number : Single) : Float32 := Float32.ofBits number.bits

def ofFloat32 (number : Float32) : Single := ⟨number.toBits⟩

def add (first second : Single) : Single := ofFloat32 (first.toFloat32 + second.toFloat32)

def sub (first second : Single) : Single := ofFloat32 (first.toFloat32 - second.toFloat32)

def mul (first second : Single) : Single := ofFloat32 (first.toFloat32 * second.toFloat32)

def div (first second : Single) : Single := ofFloat32 (first.toFloat32 / second.toFloat32)

def rem (first second : Single) : Single :=
  ⟨UInt32.ofNat (FloatFormat.single.remainder first.bits.toNat second.bits.toNat)⟩

def neg (number : Single) : Single := ⟨number.bits ^^^ 0x80000000⟩

/-- How two numbers compare; `none` if one of them is no number. -/
def compare? (first second : Single) : Option Ordering :=
  if first.toFloat32 < second.toFloat32 then some .lt
  else if first.toFloat32 == second.toFloat32 then some .eq
  else if second.toFloat32 < first.toFloat32 then some .gt
  else none

def ofInt32 (number : Int32) : Single := ofFloat32 number.toFloat32

def ofInt64 (number : Int64) : Single := ofFloat32 number.toFloat32

def toInt32 (number : Single) : Int32 := number.toFloat32.toInt32

def toInt64 (number : Single) : Int64 := number.toFloat32.toInt64

end Single

namespace Double

def toFloat (number : Double) : Float := Float.ofBits number.bits

def ofFloat (number : Float) : Double := ⟨number.toBits⟩

def add (first second : Double) : Double := ofFloat (first.toFloat + second.toFloat)

def sub (first second : Double) : Double := ofFloat (first.toFloat - second.toFloat)

def mul (first second : Double) : Double := ofFloat (first.toFloat * second.toFloat)

def div (first second : Double) : Double := ofFloat (first.toFloat / second.toFloat)

def rem (first second : Double) : Double :=
  ⟨UInt64.ofNat (FloatFormat.double.remainder first.bits.toNat second.bits.toNat)⟩

def neg (number : Double) : Double := ⟨number.bits ^^^ 0x8000000000000000⟩

/-- How two numbers compare; `none` if one of them is no number. -/
def compare? (first second : Double) : Option Ordering :=
  if first.toFloat < second.toFloat then some .lt
  else if first.toFloat == second.toFloat then some .eq
  else if second.toFloat < first.toFloat then some .gt
  else none

def ofInt32 (number : Int32) : Double := ofFloat number.toFloat

def ofInt64 (number : Int64) : Double := ofFloat number.toFloat

def toInt32 (number : Double) : Int32 := number.toFloat.toInt32

def toInt64 (number : Double) : Int64 := number.toFloat.toInt64

def ofSingle (number : Single) : Double := ofFloat number.toFloat32.toFloat

def toSingle (number : Double) : Single := .ofFloat32 number.toFloat.toFloat32

end Double

end ClassMachine
