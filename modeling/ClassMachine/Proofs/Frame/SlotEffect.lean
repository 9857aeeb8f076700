import ClassMachine.Proofs.Frame.Shuffling

set_option autoImplicit false

/-!
# Every instruction has a fixed slot effect

An instruction that succeeds makes the operand stack taller or lower by a number of slots that is
known from the instruction alone. It does not depend on operands, on the constant pool or on the
cells found, although the stack instructions have several forms, which take different numbers of
cells.
-/

namespace ClassMachine

open Outcome

namespace Literal

def slotCount : Literal → Nat
  | .long0 | .long1 | .double0 | .double1 => 2
  | .null | .intMinusOne | .int0 | .int1 | .int2 | .int3 | .int4 | .int5 | .float0 | .float1
  | .float2 => 1

theorem width_cell (value : Literal) : width value.cell = value.slotCount := by
  cases value <;> rfl

end Literal

def NumericType.slotCount : NumericType → Nat
  | .long | .double => 2
  | .int | .float => 1

def IntegerType.slotCount : IntegerType → Nat
  | .long => 2
  | .int => 1

def StackShuffle.slotEffect : StackShuffle → Int
  | .pop => -1
  | .pop2 => -2
  | .dup | .dupX1 | .dupX2 => 1
  | .dup2 | .dup2X1 | .dup2X2 => 2
  | .swap => 0

def Conversion.slotEffect : Conversion → Int
  | .intToLong | .intToDouble | .floatToLong | .floatToDouble => 1
  | .longToInt | .longToFloat | .doubleToInt | .doubleToFloat => -1
  | .intToFloat | .longToDouble | .floatToInt | .doubleToLong | .intToByte | .intToChar
  | .intToShort => 0

namespace Instruction

/-- By how many slots the instruction makes the operand stack taller. A call has no effect of its
own, because the thread takes the arguments. Instructions that the machine does not have never
succeed. -/
def slotEffect : Instruction → Int
  | .literal value => value.slotCount
  | .pushByte _ | .pushShort _ | .loadConstant _ | .jumpSubroutine _ => 1
  | .loadWideConstant _ => 2
  | .load type _ => type.slotCount
  | .store type _ | .returnValue type => -type.slotCount
  | .stack kind => kind.slotEffect
  | .arithmetic _ type => -type.slotCount
  | .bitwise _ type => -type.slotCount
  | .shift _ _ => -1
  | .convert conversion => conversion.slotEffect
  | .compareLongs | .compareDoubles _ => -3
  | .compareFloats _ => -1
  | .branchInt .. | .branchNull .. | .tableSwitch .. | .lookupSwitch .. => -1
  | .branchInts .. | .branchReferences .. => -2
  | .nop | .negate _ | .increment .. | .goto _ | .returnFromSubroutine _ | .returnVoid
  | .invoke .. => 0
  | .arrayLoad _ | .arrayStore _ | .field .. | .invokeDynamic _ | .newObject _ | .newArray _
  | .newReferenceArray _ | .arrayLength | .throwReference | .checkCast _ | .instanceOf _
  | .monitorEnter | .monitorExit | .newMultiArray .. | .reserved _ => 0

end Instruction

namespace OperandStack

/-- Where the operation succeeds, the stack takes this many slots more than before. -/
class Shifts (effect : outParam Int) {α : Type} (operation : StackOperation α) : Prop where
  depth_eq : ∀ {before after : OperandStack} {value : α},
    operation before = .ok value after → (after.depth : Int) = before.depth + effect

section Shifts

variable {α β : Type}

theorem shifts_of_eq {effect other : Int} {operation : StackOperation α}
    [shifts : Shifts effect operation] (equal : effect = other) : Shifts other operation :=
  equal ▸ shifts

instance shifts_pure (value : α) : Shifts 0 (pure value : StackOperation α) where
  depth_eq succeeded := by
    cases succeeded
    exact (Int.add_zero _).symm

theorem shifts_throw (effect : Int) (fault : Fault) :
    Shifts effect (throw fault : StackOperation α) where
  depth_eq := nofun

instance shifts_bind {head tail : Int} (first : StackOperation α) (next : α → StackOperation β)
    [Shifts head first] [∀ value, Shifts tail (next value)] :
    Shifts (head + tail) (first >>= next) where
  depth_eq {before after result} succeeded := by
    obtain ⟨value, between, first_eq, next_eq⟩ := bind_eq_ok.mp succeeded
    have first_depth := Shifts.depth_eq first_eq
    have next_depth := Shifts.depth_eq next_eq
    omega

theorem shifts_ofExcept_bind {effect : Int} {result : Except Fault α}
    {next : α → StackOperation β}
    (tail : ∀ value, result = .ok value → Shifts effect (next value)) :
    Shifts effect (ofExcept result >>= next) where
  depth_eq {before after value} succeeded := by
    obtain ⟨found, _, head, rest⟩ := bind_eq_ok.mp succeeded
    obtain ⟨found_eq, rfl⟩ := ofExcept_eq_ok.mp head
    exact (tail found found_eq).depth_eq rest

instance shifts_ofExcept (result : Except Fault α) :
    Shifts 0 (ofExcept result : StackOperation α) where
  depth_eq succeeded := by
    obtain ⟨-, rfl⟩ := ofExcept_eq_ok.mp succeeded
    exact (Int.add_zero _).symm

end Shifts

instance shifts_push (cell : Cell) : Shifts (width cell) (push cell) where
  depth_eq {before after _} pushed := by
    obtain ⟨cells_eq, -, -⟩ := push_eq_ok.mp pushed
    rw [after.depth_eq, cells_eq, totalWidth_cons, ← before.depth_eq]
    omega

theorem depth_of_pop {before after : OperandStack} {cell : Cell}
    (popped : pop before = .ok cell after) : before.depth = width cell + after.depth := by
  obtain ⟨cells_eq, -⟩ := pop_eq_ok.mp popped
  rw [before.depth_eq, cells_eq, totalWidth_cons, after.depth_eq]

instance shifts_popWidth (expected : Nat) : Shifts (-expected) (popWidth expected) where
  depth_eq {before after cell} popped := by
    obtain ⟨cells_eq, capacity_eq, width_eq⟩ := popWidth_eq_ok.mp popped
    have depth_eq := depth_of_pop (pop_eq_ok.mpr ⟨cells_eq, capacity_eq⟩)
    omega

section Values

variable {α : Type} [Value α]

theorem width_of_ofCell {cell : Cell} {value : α} (read : Value.ofCell cell = .ok value) :
    width cell = Value.slotCount α := by
  have readable := Value.isSome_ofCell? (α := α) cell
  unfold Value.ofCell at read
  split at read
  next found =>
    rw [found] at readable
    exact eq_of_beq readable.symm
  next => cases read

instance shifts_pushValue (value : α) : Shifts (Value.slotCount α) (pushValue value) := by
  rw [← Value.width_toCell value]
  exact shifts_push (Value.toCell value)

instance shifts_popValue : Shifts (-Value.slotCount α) (popValue α) where
  depth_eq {before after value} succeeded := by
    obtain ⟨cell, between, popped, rest⟩ := bind_eq_ok.mp succeeded
    obtain ⟨read, rfl⟩ := ofExcept_eq_ok.mp rest
    have depth_eq := depth_of_pop popped
    have width_eq := width_of_ofCell read
    omega

end Values

end OperandStack

theorem LocalVariables.width_loadCell {locals : LocalVariables} {index : UInt16} {slotCount : Nat}
    {cell : Cell} (loaded : locals.loadCell index slotCount = .ok cell) :
    width cell = slotCount := by
  unfold LocalVariables.loadCell at loaded
  split at loaded
  next =>
    split at loaded <;> cases loaded <;> rfl
  next => cases loaded

namespace Operation

open OperandStack

section Generic

variable {α β : Type} [Value α] [Value β]

instance shifts_unary (operation : α → β) :
    Shifts (-Value.slotCount α + Value.slotCount β) (unary operation) := by
  unfold unary
  infer_instance

instance shifts_binary (operation : α → α → Except Fault β) :
    Shifts (-(2 * Value.slotCount α) + Value.slotCount β) (binary operation) := by
  unfold binary
  exact shifts_of_eq (by omega)

instance shifts_total (operation : α → α → β) :
    Shifts (-(2 * Value.slotCount α) + Value.slotCount β) (total operation) :=
  shifts_binary _

end Generic

instance shifts_shuffle (kind : StackShuffle) : Shifts kind.slotEffect (shuffle kind) where
  depth_eq {before after _} shuffled := by
    obtain ⟨others, under, block, divides, after_eq, -⟩ := shuffle_eq_ok.mp shuffled
    have before_depth : before.depth = totalWidth others + (kind.beneath + kind.block) := by
      rw [before.depth_eq, ← totalWidth_reverse, divides.cells_eq, totalWidth_append,
        totalWidth_append, divides.under_width, divides.block_width]
    have after_depth :
        after.depth = totalWidth others + totalWidth (kind.rearrange under block) := by
      rw [after.depth_eq, ← totalWidth_reverse, after_eq, totalWidth_append]
    have under_width := divides.under_width
    have block_width := divides.block_width
    rw [before_depth, after_depth]
    cases kind <;>
      simp only [StackShuffle.rearrange, StackShuffle.beneath, StackShuffle.block,
        StackShuffle.slotEffect, totalWidth_append] at under_width block_width ⊢ <;>
      omega

instance shifts_arithmetic (operation : ArithmeticOperation) (type : NumericType) :
    Shifts (-type.slotCount) (arithmetic operation type) := by
  cases type <;> unfold arithmetic <;> exact shifts_of_eq (by rfl)

instance shifts_negate (type : NumericType) : Shifts 0 (negate type) := by
  cases type <;> unfold negate <;> exact shifts_of_eq (by rfl)

instance shifts_shift (direction : ShiftDirection) (type : IntegerType) :
    Shifts (-1) (shift direction type) := by
  cases type <;> unfold shift <;> exact shifts_of_eq (by rfl)

instance shifts_bitwise (operation : BitwiseOperation) (type : IntegerType) :
    Shifts (-type.slotCount) (bitwise operation type) := by
  cases type <;> unfold bitwise <;> exact shifts_of_eq (by rfl)

instance shifts_convert (conversion : Conversion) :
    Shifts conversion.slotEffect (convert conversion) := by
  cases conversion <;> unfold convert <;> exact shifts_of_eq (by rfl)

instance shifts_loadConstant (pool : ConstantPool) (index : ConstantIndex) :
    Shifts 1 (loadConstant pool index) := by
  unfold loadConstant
  split
  next => exact shifts_of_eq (by rfl)
  next => exact shifts_of_eq (by rfl)
  next => exact shifts_throw 1 _
  next => exact shifts_throw 1 _

instance shifts_loadWideConstant (pool : ConstantPool) (index : ConstantIndex) :
    Shifts 2 (loadWideConstant pool index) := by
  unfold loadWideConstant
  split
  next => exact shifts_of_eq (by rfl)
  next => exact shifts_of_eq (by rfl)
  next => exact shifts_throw 2 _
  next => exact shifts_throw 2 _

end Operation

open OperandStack in
theorem shifts_operate (pool : ConstantPool) (locals : LocalVariables) (next : Nat)
    (instruction : Instruction) :
    Shifts instruction.slotEffect (operate pool locals next instruction) := by
  cases instruction with
  | literal value =>
    rw [Instruction.slotEffect, ← value.width_cell]
    unfold operate
    exact shifts_of_eq (Int.add_zero _)
  | load type index =>
    refine shifts_ofExcept_bind fun cell loaded => ?_
    rw [Instruction.slotEffect, ← LocalVariables.width_loadCell loaded]
    exact shifts_of_eq (Int.add_zero _)
  | store type index | stack kind | arithmetic operation type | bitwise operation type
  | convert conversion | returnValue type =>
    unfold operate
    exact shifts_of_eq (Int.add_zero _)
  | invoke kind index => cases kind <;> unfold operate <;> exact shifts_of_eq (by rfl)
  | _ =>
    unfold operate
    exact shifts_of_eq (by rfl)

namespace Instruction

/-- The instruction with fixed operands in place of its own. -/
def withoutOperands : Instruction → Instruction
  | .pushByte _ => .pushByte 0
  | .pushShort _ => .pushShort 0
  | .loadConstant _ => .loadConstant 0
  | .loadWideConstant _ => .loadWideConstant 0
  | .load type _ => .load type 0
  | .store type _ => .store type 0
  | .shift _ type => .shift .left type
  | .increment .. => .increment 0 0
  | .compareFloats _ => .compareFloats .less
  | .compareDoubles _ => .compareDoubles .less
  | .branchInt .. => .branchInt .eq 0
  | .branchInts .. => .branchInts .eq 0
  | .branchReferences .. => .branchReferences .eq 0
  | .branchNull .. => .branchNull .eq 0
  | .goto _ => .goto 0
  | .jumpSubroutine _ => .jumpSubroutine 0
  | .returnFromSubroutine _ => .returnFromSubroutine 0
  | .tableSwitch .. => .tableSwitch 0 0 []
  | .lookupSwitch .. => .lookupSwitch 0 []
  | .field access _ => .field access 0
  | .invoke .. => .invoke .static 0
  | .invokeDynamic _ => .invokeDynamic 0
  | .newObject _ => .newObject 0
  | .newArray _ => .newArray 0
  | .newReferenceArray _ => .newReferenceArray 0
  | .checkCast _ => .checkCast 0
  | .instanceOf _ => .instanceOf 0
  | .newMultiArray .. => .newMultiArray 0 0
  | .reserved _ => .reserved 0
  | instruction => instruction

theorem slotEffect_withoutOperands (instruction : Instruction) :
    instruction.withoutOperands.slotEffect = instruction.slotEffect := by
  cases instruction <;> rfl

end Instruction

namespace Frame

/-- An instruction that succeeds makes the stack taller by its slot effect, whatever the frame and
the constant pool are, and the slot effect does not depend on the operands of the instruction. -/
theorem depth_of_execute {pool : ConstantPool} {instruction : Instruction} {next : Nat}
    {frame after : Frame} {control : Control}
    (executed : execute pool instruction next frame = .ok control after) :
    (after.stack.depth : Int) = frame.stack.depth + instruction.slotEffect ∧
      instruction.slotEffect = instruction.withoutOperands.slotEffect := by
  obtain ⟨effect, stack, operated, committed⟩ := execute_eq_ok.mp executed
  obtain ⟨locals, pc, -, -, rfl⟩ := commit_eq_ok.mp committed
  refine ⟨?_, instruction.slotEffect_withoutOperands.symm⟩
  exact (shifts_operate pool frame.locals next instruction).depth_eq operated

example :
    [.stack .pop2, .compareLongs, .arithmetic .add .long, .shift .left .long, .stack .dup2X2,
      .loadConstant 1, .loadWideConstant 1, .returnValue .long, .invoke .static 1].map
        Instruction.slotEffect = [-2, -3, -2, -1, 2, 1, 2, -2, 0] :=
  rfl

def twoWide : Frame :=
  { enter 0 ⟨4, 0, [0x94, 0x5e], [], []⟩ with stack := .ofCells 4 [.wide 1, .wide 2] }

/-- A comparison puts one slot in place of four. -/
theorem depth_of_execute_two_wide :
    ∃ control after, execute .empty .compareLongs 1 twoWide = .ok control after ∧
      (after.stack.depth : Int) = 4 + Instruction.compareLongs.slotEffect ∧
      after.stack.depth = 1 := by
  obtain ⟨after, executed⟩ : ∃ after,
      execute .empty .compareLongs 1 twoWide = .ok .continue after :=
    ⟨_, rfl⟩
  have depth_eq : (after.stack.depth : Int) = 4 + Instruction.compareLongs.slotEffect :=
    (depth_of_execute executed).1
  refine ⟨.continue, after, executed, depth_eq, ?_⟩
  have effect_eq : Instruction.compareLongs.slotEffect = -3 := rfl
  omega

end Frame

end ClassMachine
