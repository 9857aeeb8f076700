import ClassMachine.Value.Basic

set_option autoImplicit false

/-!
Operand stacks. The capacity counts slots, of which a wide cell takes two. Every operation leaves a
stack behind also when it fails: what was popped before a fault stays popped, and what was pushed
stays on the stack.
-/

namespace ClassMachine

structure OperandStack where
  /-- The cells, the top one first. -/
  cells : List Cell
  /-- The most slots that the cells may take. -/
  capacity : Nat
  depth : Nat
  depth_eq : depth = totalWidth cells

abbrev StackOperation (α : Type) := EStateM Fault OperandStack α

namespace OperandStack

/-- A stack with these cells, the top one first. -/
def ofCells (capacity : Nat) (cells : List Cell) : OperandStack :=
  ⟨cells, capacity, totalWidth cells, rfl⟩

def empty (capacity : Nat) : OperandStack := ofCells capacity []

@[simp]
theorem ofCells_cells (stack : OperandStack) : ofCells stack.capacity stack.cells = stack := by
  obtain ⟨cells, capacity, depth, rfl⟩ := stack
  rfl

@[ext]
theorem ext {first second : OperandStack} (cells : first.cells = second.cells)
    (capacity : first.capacity = second.capacity) : first = second := by
  rw [← ofCells_cells first, ← ofCells_cells second, cells, capacity]

instance : DecidableEq OperandStack := fun first second =>
  decidable_of_iff (first.cells = second.cells ∧ first.capacity = second.capacity)
    ⟨fun equal => ext equal.1 equal.2, fun equal => equal ▸ ⟨rfl, rfl⟩⟩

def size (stack : OperandStack) : Nat := stack.cells.length

def isEmpty (stack : OperandStack) : Bool := stack.cells.isEmpty

/-- The stack with one more cell, whether it has room for it or not. -/
def withCell (stack : OperandStack) (cell : Cell) : OperandStack where
  cells := cell :: stack.cells
  capacity := stack.capacity
  depth := width cell + stack.depth
  depth_eq := by simp [stack.depth_eq]

def push (cell : Cell) : StackOperation Unit := fun stack =>
  if stack.depth + width cell ≤ stack.capacity then .ok () (stack.withCell cell)
  else .error .operandStackOverflow stack

/-- Pushes cells from first to last, so that the last one ends up on top. -/
def pushAll : List Cell → StackOperation Unit
  | [] => pure ()
  | cell :: cells => do
    push cell
    pushAll cells

def pop : StackOperation Cell := fun stack =>
  match equal : stack.cells with
  | [] => .error .operandStackUnderflow stack
  | cell :: cells =>
    .ok cell
      { cells
        capacity := stack.capacity
        depth := stack.depth - width cell
        depth_eq := by rw [stack.depth_eq, equal, totalWidth_cons, Nat.add_sub_cancel_left] }

/-- Pops a cell, which must have this width. -/
def popWidth (expected : Nat) : StackOperation Cell := do
  let cell ← pop
  if width cell = expected then pure cell else throw .mismatchedWidth

/-- Pops cells and returns them in the order in which they were pushed. Pops none if there are
fewer. -/
def popCells (count : Nat) : StackOperation (List Cell) := fun stack =>
  if count ≤ stack.cells.length then
    .ok (stack.cells.take count).reverse
      { cells := stack.cells.drop count
        capacity := stack.capacity
        depth := stack.depth - totalWidth (stack.cells.take count)
        depth_eq := by
          have split := totalWidth_append (stack.cells.take count) (stack.cells.drop count)
          rw [List.take_append_drop] at split
          rw [stack.depth_eq, split, Nat.add_sub_cancel_left] }
  else .error .operandStackUnderflow stack

section Values

variable {α : Type} [Value α]

def pushValue (value : α) : StackOperation Unit := push (Value.toCell value)

def popValue (α : Type) [Value α] : StackOperation α := do
  let cell ← pop
  ofExcept (Value.ofCell cell)

/-- Pops values of one type and returns them in the order in which they were pushed. Pops nothing
if there are fewer cells. -/
def popValues (α : Type) [Value α] (count : Nat) : StackOperation (List α) := do
  let cells ← popCells count
  ofExcept (cells.mapM Value.ofCell)

end Values

def top (stack : OperandStack) : Except Fault Cell :=
  match stack.cells with
  | [] => .error .operandStackUnderflow
  | cell :: _ => .ok cell

/-- The cell below this many others. Depths are machine words, and so must be the count of cells
down to the one looked for. -/
def peek (stack : OperandStack) (depth : UInt64) :
    Except SlotVector.DepthOverflow (Except Fault Cell) :=
  if depth.toNat + 1 < UInt64.size then
    match stack.cells[depth.toNat]? with
    | some cell => .ok (.ok cell)
    | none => .ok (.error .operandStackUnderflow)
  else .error .depthOverflow

def clear (stack : OperandStack) : OperandStack := empty stack.capacity

/-- The contents of all slots, from the bottom of the stack to its top. -/
def slots (stack : OperandStack) : List UInt32 := stack.cells.reverse.flatMap Cell.slots

end OperandStack

end ClassMachine
