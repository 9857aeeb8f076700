import ClassMachine.Fault
import ClassMachine.Value.Cell

set_option autoImplicit false

/-!
The types of values that cells and local variables hold. Writing a value to a cell and reading it
back is exact. A cell of the right size can be read as any type of that size; one of the wrong size
cannot be read.
-/

namespace ClassMachine

structure Single where
  bits : UInt32
  deriving DecidableEq

structure Double where
  bits : UInt64
  deriving DecidableEq

/-- A handle to an object of a heap that is not part of the machine. -/
structure Reference where
  handle : UInt32
  deriving DecidableEq

/-- The offset at which a subroutine's caller goes on. -/
structure ReturnAddress where
  offset : UInt32
  deriving DecidableEq

namespace Reference

def null : Reference := ⟨0⟩

def isNull (reference : Reference) : Bool := reference == null

end Reference

class Value (α : Type) where
  /-- The number of 32-bit slots that a value takes. -/
  slotCount : Nat
  toCell : α → Cell
  ofCell? : Cell → Option α
  width_toCell : ∀ value, width (toCell value) = slotCount
  ofCell?_toCell : ∀ value, ofCell? (toCell value) = some value
  isSome_ofCell? : ∀ cell, (ofCell? cell).isSome = (width cell == slotCount)

namespace Value

def ofCell {α : Type} [Value α] (cell : Cell) : Except Fault α :=
  match ofCell? cell with
  | some value => .ok value
  | none => .error .mismatchedWidth

@[simp]
theorem ofCell_toCell {α : Type} [Value α] (value : α) :
    ofCell (toCell value) = .ok value := by
  simp [ofCell, ofCell?_toCell]

@[reducible]
def ofNarrow {α : Type} (toBits : α → UInt32) (ofBits : UInt32 → α)
    (ofBits_toBits : ∀ value, ofBits (toBits value) = value) : Value α where
  slotCount := 1
  toCell value := .narrow (toBits value)
  ofCell? cell := cell.narrow?.map ofBits
  width_toCell _ := rfl
  ofCell?_toCell value := by simp [Cell.narrow?, ofBits_toBits]
  isSome_ofCell? cell := by cases cell <;> rfl

@[reducible]
def ofWide {α : Type} (toBits : α → UInt64) (ofBits : UInt64 → α)
    (ofBits_toBits : ∀ value, ofBits (toBits value) = value) : Value α where
  slotCount := 2
  toCell value := .wide (toBits value)
  ofCell? cell := cell.wide?.map ofBits
  width_toCell _ := rfl
  ofCell?_toCell value := by simp [Cell.wide?, ofBits_toBits]
  isSome_ofCell? cell := by cases cell <;> rfl

instance : Value Int32 := ofNarrow Int32.toUInt32 UInt32.toInt32 (by simp)

instance : Value Single := ofNarrow Single.bits Single.mk fun _ => rfl

instance : Value Reference := ofNarrow Reference.handle Reference.mk fun _ => rfl

instance : Value ReturnAddress := ofNarrow ReturnAddress.offset ReturnAddress.mk fun _ => rfl

instance : Value Int8 :=
  ofNarrow (fun value => value.toInt32.toUInt32) (fun bits => bits.toInt32.toInt8) (by simp)

instance : Value Int16 :=
  ofNarrow (fun value => value.toInt32.toUInt32) (fun bits => bits.toInt32.toInt16) (by simp)

instance : Value UInt16 := ofNarrow UInt16.toUInt32 UInt32.toUInt16 (by simp)

instance : Value Bool :=
  ofNarrow Bool.toUInt32 (fun bits => bits &&& 1 != 0) (by decide)

instance : Value Int64 := ofWide Int64.toUInt64 UInt64.toInt64 (by simp)

instance : Value Double := ofWide Double.bits Double.mk fun _ => rfl

end Value

end ClassMachine
