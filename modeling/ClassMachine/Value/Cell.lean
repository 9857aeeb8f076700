import ClassMachine.SlotVector
import ClassMachine.Text.Hex
import ClassMachine.Text.Structural

set_option autoImplicit false

/-!
Cells of the operand stack. A cell does not know the type of what it holds, only its size:
`long` and `double` values are wide, everything else is narrow. Floating-point values are kept as
words, so nothing is rounded or made canonical by storing it.
-/

namespace ClassMachine

inductive Cell where
  | narrow (bits : UInt32)
  | wide (bits : UInt64)
  deriving DecidableEq, Inhabited

namespace Cell

instance : HasWidth Cell where
  width
    | .narrow _ => 1
    | .wide _ => 2

@[simp]
theorem width_narrow (bits : UInt32) : width (narrow bits) = 1 := rfl

@[simp]
theorem width_wide (bits : UInt64) : width (wide bits) = 2 := rfl

theorem width_eq (cell : Cell) : width cell = 1 ∨ width cell = 2 := by
  cases cell <;> simp

def isNarrow : Cell → Bool
  | .narrow _ => true
  | .wide _ => false

def narrow? : Cell → Option UInt32
  | .narrow bits => some bits
  | .wide _ => none

def wide? : Cell → Option UInt64
  | .narrow _ => none
  | .wide bits => some bits

/-- The contents of the slots that a cell takes, the high half of a wide one first. -/
def slots : Cell → List UInt32
  | .narrow bits => [bits]
  | .wide bits => [(bits >>> 32).toUInt32, bits.toUInt32]

@[simp]
theorem length_slots (cell : Cell) : cell.slots.length = width cell := by
  cases cell <;> rfl

theorem length_flatMap_slots (cells : List Cell) :
    (cells.flatMap slots).length = totalWidth cells := by
  induction cells with
  | nil => rfl
  | cons cell cells inductionHypothesis => simp [inductionHypothesis]

def ofHalves (high low : UInt32) : Cell :=
  .wide (high.toUInt64 <<< 32 ||| low.toUInt64)

def inspect : Cell → String
  | .narrow bits => Structural.apply "Narrow" [toString bits]
  | .wide bits => Structural.apply "Wide" [toString bits]

def text : Cell → String
  | .narrow bits => Hex.literal 8 bits.toNat
  | .wide bits => Hex.literal 16 bits.toNat

end Cell

end ClassMachine
