import ClassMachine.Proofs.Frame.Composite
import ClassMachine.Proofs.Frame.Shuffling

set_option autoImplicit false

/-!
# Instructions leave the bottom of the stack alone

An instruction that succeeds does the same on a stack with more cells at the bottom, as long as
there is room for them too: it does not read, move or take away any of them. This holds of pushing,
popping and looking at the top, so it holds of everything that is made of them.
-/

namespace ClassMachine

open Outcome

namespace OperandStack

/-- The stack with more cells at its bottom and room for more slots. -/
def onBase (stack : OperandStack) (base : List Cell) (room : Nat) : OperandStack :=
  ofCells (stack.capacity + room) (stack.cells ++ base)

section OnBase

variable (stack : OperandStack) (base : List Cell) (room : Nat)

@[simp]
theorem cells_onBase : (stack.onBase base room).cells = stack.cells ++ base := rfl

@[simp]
theorem capacity_onBase : (stack.onBase base room).capacity = stack.capacity + room := rfl

@[simp]
theorem depth_onBase : (stack.onBase base room).depth = stack.depth + totalWidth base := by
  rw [stack.depth_eq, ← totalWidth_append]
  rfl

end OnBase

/-- Where the operation succeeds, it does the same above other cells that there is room for. -/
def LeavesBase {α : Type} (operation : StackOperation α) : Prop :=
  ∀ (base : List Cell) (room : Nat), totalWidth base ≤ room → ∀ stack value after,
    operation stack = .ok value after →
      operation (stack.onBase base room) = .ok value (after.onBase base room)

theorem leavesBase_push (cell : Cell) : LeavesBase (push cell) := by
  intro base room fits stack value after pushed
  obtain ⟨cells_eq, capacity_eq, depth_le⟩ := push_eq_ok.mp pushed
  refine push_eq_ok.mpr ⟨?_, ?_, ?_⟩
  · rw [cells_onBase, cells_eq, cells_onBase, List.cons_append]
  · rw [capacity_onBase, capacity_eq, capacity_onBase]
  · rw [depth_onBase, capacity_onBase]
    exact Nat.add_le_add depth_le fits

theorem leavesBase_pop : LeavesBase pop := by
  intro base room _ stack cell after popped
  obtain ⟨cells_eq, capacity_eq⟩ := pop_eq_ok.mp popped
  refine pop_eq_ok.mpr ⟨?_, ?_⟩
  · rw [cells_onBase, cells_eq, cells_onBase, List.cons_append]
  · rw [capacity_onBase, capacity_eq, capacity_onBase]

theorem leavesBase_top : LeavesBase (get >>= fun stack => ofExcept stack.top) := by
  intro base room _ stack cell after found
  obtain ⟨top_eq, rfl⟩ := ofExcept_eq_ok.mp found
  refine ofExcept_eq_ok.mpr ⟨?_, rfl⟩
  unfold top at top_eq ⊢
  cases cells_eq : stack.cells with
  | nil =>
    rw [cells_eq] at top_eq
    cases top_eq
  | cons first others =>
    rw [cells_eq] at top_eq
    rw [cells_onBase, cells_eq]
    exact top_eq

theorem LeavesBase.bind {α β : Type} {first : StackOperation α} {next : α → StackOperation β}
    (head : LeavesBase first) (tail : ∀ value, LeavesBase (next value)) :
    LeavesBase (first >>= next) := by
  intro base room fits stack result after succeeded
  obtain ⟨value, between, first_eq, next_eq⟩ := bind_eq_ok.mp succeeded
  refine bind_eq_ok.mpr ⟨value, between.onBase base room, ?_, ?_⟩
  · exact head base room fits stack value between first_eq
  · exact tail value base room fits between result after next_eq

theorem Composite.leavesBase {α : Type} {operation : StackOperation α}
    (composite : Composite operation) : LeavesBase operation := by
  induction composite with
  | pure value =>
    intro base room _ stack _ after succeeded
    cases succeeded
    rfl
  | throw fault =>
    intro base room _ stack value after succeeded
    cases succeeded
  | push cell => exact leavesBase_push cell
  | pop => exact leavesBase_pop
  | top => exact leavesBase_top
  | bind _ _ head tail => exact head.bind tail

end OperandStack

namespace Frame

theorem storeWrite_congr {frame other : Frame} (locals_eq : other.locals = frame.locals)
    (write : Option (UInt16 × Cell)) : other.storeWrite write = frame.storeWrite write := by
  unfold storeWrite
  rw [locals_eq]

theorem follow_congr {frame other : Frame} (code_eq : other.code = frame.code)
    (pc_eq : other.pc = frame.pc) (next : Nat) (flow : Flow) :
    other.follow next flow = frame.follow next flow := by
  unfold follow target address opcode?
  rw [code_eq, pc_eq]

/-- An instruction that succeeds in a frame does the same in every frame with the same code, program
counter and local variables that has other cells beneath the same operand stack, and room for them:
it answers the same and leaves those cells where they are. -/
theorem execute_above_base {pool : ConstantPool} {instruction : Instruction} {next : Nat}
    {frame after deeper : Frame} {control : Control} {base : List Cell}
    (executed : execute pool instruction next frame = .ok control after)
    (code_eq : deeper.code = frame.code) (pc_eq : deeper.pc = frame.pc)
    (locals_eq : deeper.locals = frame.locals)
    (cells_eq : deeper.stack.cells = frame.stack.cells ++ base)
    (room : frame.stack.capacity + totalWidth base ≤ deeper.stack.capacity) :
    execute pool instruction next deeper = .ok control
      { deeper with
        pc := after.pc
        locals := after.locals
        stack := .ofCells deeper.stack.capacity (after.stack.cells ++ base) } := by
  obtain ⟨effect, stack, operated, committed⟩ := execute_eq_ok.mp executed
  obtain ⟨more, capacity_eq⟩ := Nat.exists_eq_add_of_le (Nat.le_of_add_right_le room)
  have fits : totalWidth base ≤ more := by omega
  have deeper_eq : deeper.stack = frame.stack.onBase base more :=
    OperandStack.ext cells_eq capacity_eq
  have operated_deeper : operate pool deeper.locals next instruction deeper.stack =
      .ok effect (stack.onBase base more) := by
    rw [locals_eq, deeper_eq]
    exact (composite_operate pool frame.locals next instruction).leavesBase base more fits
      frame.stack effect stack operated
  -- The capacity stays the same, so the room that the deeper stack has left does too.
  have kept : OperandStack.KeepsRoom frame.stack
      (state (operate pool frame.locals next instruction frame.stack)) :=
    Respects.related frame.stack
  rw [operated] at kept
  have stack_eq : stack.onBase base more =
      .ofCells deeper.stack.capacity (stack.cells ++ base) := by
    rw [capacity_eq, ← kept.1]
    rfl
  rw [stack_eq] at operated_deeper
  obtain ⟨locals, pc, stored, followed, rfl⟩ := commit_eq_ok.mp committed
  refine execute_eq_ok.mpr ⟨effect, _, operated_deeper, commit_eq_ok.mpr ⟨locals, pc, ?_, ?_, rfl⟩⟩
  · rw [← stored]
    exact storeWrite_congr locals_eq effect.write
  · rw [← followed]
    exact follow_congr code_eq pc_eq next effect.flow

/-- The frame `wideOverNarrow` with a cell beneath its operand stack and room for it. -/
def wideOverNarrowAndBase : Frame :=
  { wideOverNarrow with
    methodIndex := 5
    stack := .ofCells 7 [.wide 0x0000000100000002, .narrow 3, .narrow 4, .narrow 9] }

/-- The wide cell is copied beneath the two narrow ones, but not beneath the base. -/
theorem execute_above_base_wide_over_narrow :
    ∃ control after, execute .empty (.stack .dup2X2) 1 wideOverNarrow = .ok control after ∧
      execute .empty (.stack .dup2X2) 1 wideOverNarrowAndBase = .ok control
        { wideOverNarrowAndBase with
          pc := after.pc
          locals := after.locals
          stack := .ofCells 7 (after.stack.cells ++ [.narrow 9]) } ∧
      after.stack.slots = [1, 2, 4, 3, 1, 2] := by
  obtain ⟨after, executed, slots_eq⟩ : ∃ after,
      execute .empty (.stack .dup2X2) 1 wideOverNarrow = .ok .continue after ∧
        after.stack.slots = [1, 2, 4, 3, 1, 2] :=
    ⟨_, rfl, by decide⟩
  refine ⟨.continue, after, executed, ?_, slots_eq⟩
  exact execute_above_base executed rfl rfl rfl rfl (by decide)

end Frame

end ClassMachine
