import ClassMachine.Value.Basic

set_option autoImplicit false

/-!
Local variables: a row of 32-bit slots. A wide value takes the slot of its index and the next one,
its high half first.
-/

namespace ClassMachine

structure LocalVariables where
  slots : Array UInt32
  deriving DecidableEq

namespace LocalVariables

def zeros (count : Nat) : LocalVariables := ⟨Array.replicate count 0⟩

def size (locals : LocalVariables) : Nat := locals.slots.size

def isEmpty (locals : LocalVariables) : Bool := locals.slots.isEmpty

def storeCell (locals : LocalVariables) (index : UInt16) (cell : Cell) :
    Except Fault LocalVariables :=
  if index.toNat + width cell ≤ locals.size then
    match cell with
    | .narrow bits => .ok ⟨locals.slots.setIfInBounds index.toNat bits⟩
    | .wide bits =>
      .ok ⟨(locals.slots.setIfInBounds index.toNat (bits >>> 32).toUInt32).setIfInBounds
        (index.toNat + 1) bits.toUInt32⟩
  else .error (.invalidLocalIndex index)

/-- The cell in the slots from an index on. -/
def loadCell (locals : LocalVariables) (index : UInt16) (slotCount : Nat) : Except Fault Cell :=
  if index.toNat + slotCount ≤ locals.size then
    match slotCount with
    | 1 => .ok (.narrow (locals.slots.getD index.toNat 0))
    | 2 =>
      .ok (.ofHalves (locals.slots.getD index.toNat 0) (locals.slots.getD (index.toNat + 1) 0))
    | _ => .error .mismatchedWidth
  else .error (.invalidLocalIndex index)

/-- Stores cells one after the other from an index on. -/
def storeCells (index : UInt16) : List Cell → LocalVariables → Except Fault LocalVariables
  | [], locals => .ok locals
  | cell :: cells, locals =>
    match locals.storeCell index cell with
    | .error fault => .error fault
    | .ok locals => storeCells (index + UInt16.ofNat (width cell)) cells locals

section Values

variable {α : Type} [Value α]

def store (locals : LocalVariables) (index : UInt16) (value : α) : Except Fault LocalVariables :=
  locals.storeCell index (Value.toCell value)

def load (α : Type) [Value α] (locals : LocalVariables) (index : UInt16) : Except Fault α := do
  let cell ← locals.loadCell index (Value.slotCount α)
  Value.ofCell cell

end Values

end LocalVariables

end ClassMachine
