import ClassMachine.Proofs.Frame.Control
import ClassMachine.Proofs.Frame.IntegerOperations

set_option autoImplicit false

/-!
# Integer instructions compute exactly

The integers on the stack are the operands, and the result is given by arithmetic on integers. Only
the cell that the result is put in reduces it to the bits of its type. The corners come out of that:
the quotient of the least integer by minus one is too large by one and wraps to the least integer.
-/

namespace ClassMachine

open Outcome

namespace Instruction

/-- The instruction takes integers of these types from the stack, the last one from the top, and
leaves an integer. -/
inductive TakesIntegers : Instruction → List IntegerType → Prop where
  | arithmetic (operation : ArithmeticOperation) (type : IntegerType) :
    TakesIntegers (.arithmetic operation type.numeric) [type, type]
  | negate (type : IntegerType) : TakesIntegers (.negate type.numeric) [type]
  | shift (direction : ShiftDirection) (type : IntegerType) :
    TakesIntegers (.shift direction type) [type, .int]
  | bitwise (operation : BitwiseOperation) (type : IntegerType) :
    TakesIntegers (.bitwise operation type) [type, type]
  | intToLong : TakesIntegers (.convert .intToLong) [.int]
  | longToInt : TakesIntegers (.convert .longToInt) [.long]
  | intToByte : TakesIntegers (.convert .intToByte) [.int]
  | intToChar : TakesIntegers (.convert .intToChar) [.int]
  | intToShort : TakesIntegers (.convert .intToShort) [.int]
  | compareLongs : TakesIntegers .compareLongs [.long, .long]

/-- From these operands, the last one on top, the instruction computes this result. -/
inductive Computes : Instruction → List Cell → Cell → Prop where
  | arithmetic {type : IntegerType} {operation : ArithmeticOperation} {first second result : Int}
    (first_holds : type.Holds first) (second_holds : type.Holds second)
    (computed : operation.OnIntegers first second result) :
    Computes (.arithmetic operation type.numeric) [type.cell first, type.cell second]
      (type.cell result)
  | negate (type : IntegerType) (value : Int) :
    Computes (.negate type.numeric) [type.cell value] (type.cell (-value))
  | shift {type : IntegerType} (direction : ShiftDirection) {value : Int}
    (holds : type.Holds value) (distance : Int) :
    Computes (.shift direction type) [type.cell value, IntegerType.int.cell distance]
      (type.cell (direction.onIntegers type value (type.places distance)))
  | bitwise (type : IntegerType) (operation : BitwiseOperation) (first second : Int) :
    Computes (.bitwise operation type) [type.cell first, type.cell second]
      (type.cell (operation.onIntegers first second))
  | intToLong {value : Int} (holds : IntegerType.int.Holds value) :
    Computes (.convert .intToLong) [IntegerType.int.cell value] (IntegerType.long.cell value)
  | longToInt (value : Int) :
    Computes (.convert .longToInt) [IntegerType.long.cell value] (IntegerType.int.cell value)
  | intToByte (value : Int) :
    Computes (.convert .intToByte) [IntegerType.int.cell value]
      (IntegerType.int.cell (value.bmod (2 ^ 8)))
  | intToChar (value : Int) :
    Computes (.convert .intToChar) [IntegerType.int.cell value]
      (IntegerType.int.cell (value % 2 ^ 16))
  | intToShort (value : Int) :
    Computes (.convert .intToShort) [IntegerType.int.cell value]
      (IntegerType.int.cell (value.bmod (2 ^ 16)))
  | compareLongs {first second : Int} (first_holds : IntegerType.long.Holds first)
    (second_holds : IntegerType.long.Holds second) :
    Computes .compareLongs [IntegerType.long.cell first, IntegerType.long.cell second]
      (IntegerType.int.cell (first - second).sign)

/-- The instruction divides by the zero that is on top. -/
inductive DividesByZero : Instruction → List Cell → Prop where
  | div (type : IntegerType) (first : Int) :
    DividesByZero (.arithmetic .div type.numeric) [type.cell first, type.cell 0]
  | rem (type : IntegerType) (first : Int) :
    DividesByZero (.arithmetic .rem type.numeric) [type.cell first, type.cell 0]

section Total

variable {operands : List Cell}

theorem exists_operand {type : IntegerType} (fits : List.Forall₂ IntegerType.Fits [type] operands) :
    ∃ value, type.Holds value ∧ operands = [type.cell value] := by
  cases fits with
  | cons fits none_left =>
    cases none_left
    obtain ⟨value, holds, rfl⟩ := fits.exists_cell
    exact ⟨value, holds, rfl⟩

theorem exists_operands {type other : IntegerType}
    (fits : List.Forall₂ IntegerType.Fits [type, other] operands) :
    ∃ first second, type.Holds first ∧ other.Holds second ∧
      operands = [type.cell first, other.cell second] := by
  cases fits with
  | cons fits others_fit =>
    obtain ⟨first, first_holds, rfl⟩ := fits.exists_cell
    obtain ⟨second, second_holds, rfl⟩ := exists_operand others_fit
    exact ⟨first, second, first_holds, second_holds, rfl⟩

theorem TakesIntegers.exists_computes {instruction : Instruction} {types : List IntegerType}
    (takes : instruction.TakesIntegers types)
    (fits : List.Forall₂ IntegerType.Fits types operands) :
    instruction.DividesByZero operands ∨ ∃ result, instruction.Computes operands result := by
  cases takes with
  | arithmetic operation type =>
    obtain ⟨first, second, first_holds, second_holds, rfl⟩ := exists_operands fits
    cases operation with
    | add => exact .inr ⟨_, .arithmetic first_holds second_holds .add⟩
    | sub => exact .inr ⟨_, .arithmetic first_holds second_holds .sub⟩
    | mul => exact .inr ⟨_, .arithmetic first_holds second_holds .mul⟩
    | div =>
      rcases eq_or_ne second 0 with rfl | nonzero
      · exact .inl (.div type first)
      · have division := TruncatedDivision.of_ne_zero first nonzero
        exact .inr ⟨_, .arithmetic first_holds second_holds (.div division)⟩
    | rem =>
      rcases eq_or_ne second 0 with rfl | nonzero
      · exact .inl (.rem type first)
      · have division := TruncatedDivision.of_ne_zero first nonzero
        exact .inr ⟨_, .arithmetic first_holds second_holds (.rem division)⟩
  | negate type =>
    obtain ⟨value, -, rfl⟩ := exists_operand fits
    exact .inr ⟨_, .negate type value⟩
  | shift direction type =>
    obtain ⟨value, distance, holds, -, rfl⟩ := exists_operands fits
    exact .inr ⟨_, .shift direction holds distance⟩
  | bitwise operation type =>
    obtain ⟨first, second, -, -, rfl⟩ := exists_operands fits
    exact .inr ⟨_, .bitwise type operation first second⟩
  | intToLong =>
    obtain ⟨value, holds, rfl⟩ := exists_operand fits
    exact .inr ⟨_, .intToLong holds⟩
  | longToInt =>
    obtain ⟨value, -, rfl⟩ := exists_operand fits
    exact .inr ⟨_, .longToInt value⟩
  | intToByte =>
    obtain ⟨value, -, rfl⟩ := exists_operand fits
    exact .inr ⟨_, .intToByte value⟩
  | intToChar =>
    obtain ⟨value, -, rfl⟩ := exists_operand fits
    exact .inr ⟨_, .intToChar value⟩
  | intToShort =>
    obtain ⟨value, -, rfl⟩ := exists_operand fits
    exact .inr ⟨_, .intToShort value⟩
  | compareLongs =>
    obtain ⟨first, second, first_holds, second_holds, rfl⟩ := exists_operands fits
    exact .inr ⟨_, .compareLongs first_holds second_holds⟩

/-- The quotient of the least integer by minus one wraps, and nothing remains. -/
theorem computes_least_by_minus_one (type : IntegerType) :
    Computes (.arithmetic .div type.numeric) [type.cell type.least, type.cell (-1)]
        (type.cell type.least) ∧
      Computes (.arithmetic .rem type.numeric) [type.cell type.least, type.cell (-1)]
        (type.cell 0) := by
  have least_holds : type.Holds type.least := by
    cases type <;> decide
  have minus_one_holds : type.Holds (-1) := by
    cases type <;> decide
  have division := TruncatedDivision.of_ne_zero type.least (by decide : (-1 : Int) ≠ 0)
  have quotient_eq : type.cell (type.least.tdiv (-1)) = type.cell type.least := by
    cases type <;> rfl
  have remainder_eq : type.least.tmod (-1) = 0 := by
    cases type <;> rfl
  have divided := Computes.arithmetic least_holds minus_one_holds (.div division)
  have remained := Computes.arithmetic least_holds minus_one_holds (.rem division)
  rw [quotient_eq] at divided
  rw [remainder_eq] at remained
  exact ⟨divided, remained⟩

end Total

end Instruction

namespace OperandStack

variable {α β : Type} [Value α] [Value β]

/-- The operation takes these operands from the top and pushes the result, if there is room. -/
def Replaces (operation : StackOperation Unit) (operands : List Cell) (result : Cell) : Prop :=
  ∀ {stack : OperandStack} {rest : List Cell}, stack.cells = operands.reverse ++ rest →
    operation stack = push result (ofCells stack.capacity rest)

theorem popValue_of_cells {stack : OperandStack} {value : α} {rest : List Cell}
    (cells_eq : stack.cells = Value.toCell value :: rest) :
    popValue α stack = .ok value (ofCells stack.capacity rest) := by
  have popped : pop stack = .ok (Value.toCell value) (ofCells stack.capacity rest) :=
    pop_eq_ok.mpr ⟨cells_eq, rfl⟩
  rw [popValue, bind_of_ok popped, Value.ofCell_toCell]
  rfl

theorem popValue_popValue_bind {γ : Type} {stack : OperandStack} {first second : α}
    {rest : List Cell} (next : α → α → StackOperation γ)
    (cells_eq : stack.cells = [Value.toCell first, Value.toCell second].reverse ++ rest) :
    (popValue α >>= fun second => popValue α >>= next second) stack =
      next second first (ofCells stack.capacity rest) := by
  rw [bind_of_ok (popValue_of_cells cells_eq), bind_of_ok (popValue_of_cells rfl)]
  rfl

theorem push_ofCells (result : Cell) (capacity : Nat) (rest : List Cell) :
    push result (ofCells capacity rest) =
      if totalWidth rest + width result ≤ capacity then .ok () (ofCells capacity (result :: rest))
      else .error .operandStackOverflow (ofCells capacity rest) :=
  rfl

end OperandStack

namespace Operation

open OperandStack

variable {α β : Type} [Value α] [Value β]

theorem replaces_unary {operation : α → β} {operand : α} {result : Cell}
    (result_eq : Value.toCell (operation operand) = result) :
    Replaces (unary operation) [Value.toCell operand] result := by
  intro stack rest cells_eq
  rw [unary, bind_of_ok (popValue_of_cells cells_eq), ← result_eq]
  rfl

theorem binary_of_cells (operation : α → α → Except Fault β) {first second : α}
    {stack : OperandStack} {rest : List Cell}
    (cells_eq : stack.cells = [Value.toCell first, Value.toCell second].reverse ++ rest) :
    binary operation stack =
      (ofExcept (operation first second) >>= pushValue) (ofCells stack.capacity rest) :=
  popValue_popValue_bind _ cells_eq

theorem replaces_binary {operation : α → α → Except Fault β} {first second : α} {result : β}
    (succeeds : operation first second = .ok result) :
    Replaces (binary operation) [Value.toCell first, Value.toCell second]
      (Value.toCell result) := by
  intro stack rest cells_eq
  rw [binary_of_cells operation cells_eq, succeeds]
  rfl

theorem binary_eq_error {operation : α → α → Except Fault β} {first second : α} {fault : Fault}
    {stack : OperandStack} {rest : List Cell} (fails : operation first second = .error fault)
    (cells_eq : stack.cells = [Value.toCell first, Value.toCell second].reverse ++ rest) :
    binary operation stack = .error fault (ofCells stack.capacity rest) := by
  rw [binary_of_cells operation cells_eq, fails]
  rfl

variable (type : IntegerType)

theorem replaces_arithmetic {operation : ArithmeticOperation} {first second result : Int}
    (first_holds : type.Holds first) (second_holds : type.Holds second)
    (computed : operation.OnIntegers first second result) :
    Replaces (arithmetic operation type.numeric) [type.cell first, type.cell second]
      (type.cell result) := by
  cases type with
  | int => exact replaces_binary (intArithmetic_ofInt first_holds second_holds computed)
  | long => exact replaces_binary (longArithmetic_ofInt first_holds second_holds computed)

theorem replaces_negate (value : Int) :
    Replaces (negate type.numeric) [type.cell value] (type.cell (-value)) := by
  cases type with
  | int => exact replaces_unary (congrArg Value.toCell (Int32.ofInt_neg value).symm)
  | long => exact replaces_unary (congrArg Value.toCell (Int64.ofInt_neg value).symm)

theorem replaces_shift (direction : ShiftDirection) {value : Int} (holds : type.Holds value)
    (distance : Int) :
    Replaces (shift direction type) [type.cell value, IntegerType.int.cell distance]
      (type.cell (direction.onIntegers type value (type.places distance))) := by
  cases type with
  | int => exact replaces_binary (congrArg Except.ok (shiftInt_ofInt direction holds distance))
  | long =>
    intro stack rest cells_eq
    have distance_popped : popValue Int32 stack = .ok (Int32.ofInt distance)
        (ofCells stack.capacity (IntegerType.long.cell value :: rest)) :=
      popValue_of_cells cells_eq
    have value_popped :
        popValue Int64 (ofCells stack.capacity (IntegerType.long.cell value :: rest)) =
          .ok (Int64.ofInt value) (ofCells stack.capacity rest) :=
      popValue_of_cells rfl
    rw [shift, bind_of_ok distance_popped, bind_of_ok value_popped, shiftLong_ofInt direction holds]
    rfl

theorem replaces_bitwise (operation : BitwiseOperation) (first second : Int) :
    Replaces (bitwise operation type) [type.cell first, type.cell second]
      (type.cell (operation.onIntegers first second)) := by
  cases type with
  | int => exact replaces_binary (congrArg Except.ok (bitwiseInt_ofInt operation first second))
  | long => exact replaces_binary (congrArg Except.ok (bitwiseLong_ofInt operation first second))

theorem replaces_intToLong {value : Int} (holds : IntegerType.int.Holds value) :
    Replaces (convert .intToLong) [IntegerType.int.cell value] (IntegerType.long.cell value) :=
  replaces_unary (congrArg Value.toCell
    (Int32.toInt64_ofInt holds.1 (Int.le_of_lt_add_one holds.2)))

theorem replaces_longToInt (value : Int) :
    Replaces (convert .longToInt) [IntegerType.long.cell value] (IntegerType.int.cell value) :=
  replaces_unary (congrArg Value.toCell Int64.toInt32_ofInt)

end Operation

open OperandStack Operation

theorem operate_of_computes {instruction : Instruction} {operands : List Cell} {result : Cell}
    (computes : instruction.Computes operands result) :
    ∃ operation, Replaces operation operands result ∧ ∀ pool locals next,
      operate pool locals next instruction = operation >>= fun _ => pure Effect.next := by
  cases computes with
  | arithmetic first_holds second_holds computed =>
    exact ⟨_, replaces_arithmetic _ first_holds second_holds computed, fun _ _ _ => rfl⟩
  | negate type value => exact ⟨_, replaces_negate type value, fun _ _ _ => rfl⟩
  | shift direction holds distance =>
    exact ⟨_, replaces_shift _ direction holds distance, fun _ _ _ => rfl⟩
  | bitwise type operation first second =>
    exact ⟨_, replaces_bitwise type operation first second, fun _ _ _ => rfl⟩
  | intToLong holds => exact ⟨_, replaces_intToLong holds, fun _ _ _ => rfl⟩
  | longToInt value => exact ⟨_, replaces_longToInt value, fun _ _ _ => rfl⟩
  | intToByte value =>
    exact ⟨convert .intToByte, replaces_unary (toCell_toInt8 value), fun _ _ _ => rfl⟩
  | intToChar value =>
    refine ⟨convert .intToChar, ?_, fun _ _ _ => rfl⟩
    apply replaces_unary
    exact toCell_toUInt16 value
  | intToShort value =>
    exact ⟨convert .intToShort, replaces_unary (toCell_toInt16 value), fun _ _ _ => rfl⟩
  | compareLongs first_holds second_holds =>
    have compared := compareLongs_ofInt first_holds second_holds
    exact ⟨total Operation.compareLongs, replaces_binary (congrArg Except.ok compared),
      fun _ _ _ => rfl⟩

namespace Frame

variable {pool : ConstantPool} {next : Nat} {frame : Frame} {instruction : Instruction}
  {operands rest : List Cell} {result : Cell}

theorem execute_of_computes (computes : instruction.Computes operands result)
    (cells_eq : frame.stack.cells = operands.reverse ++ rest) :
    execute pool instruction next frame =
      if totalWidth rest + width result ≤ frame.stack.capacity then
        .ok .continue
          { frame with stack := .ofCells frame.stack.capacity (result :: rest), pc := next }
      else
        .error .operandStackOverflow
          { frame with stack := .ofCells frame.stack.capacity rest } := by
  obtain ⟨operation, replaces, operate_eq⟩ := operate_of_computes computes
  have operated := replaces cells_eq
  rw [push_ofCells] at operated
  rw [execute, operate_eq]
  -- Only pushing the result can still fail.
  split at operated
  next room =>
    rw [bind_of_ok operated, if_pos room]
    rfl
  next full => rw [bind_of_error operated, if_neg full]

/-- Where the stack had room for the operands, it has room for the result, which is wider in one
case only. -/
theorem width_of_computes (computes : instruction.Computes operands result) :
    instruction = .convert .intToLong ∨ width result ≤ totalWidth operands := by
  cases computes with
  | intToLong => exact .inl rfl
  | longToInt | intToByte | intToChar | intToShort | compareLongs => simp
  | bitwise type | negate type | @arithmetic type | @shift type => cases type <;> simp

theorem execute_of_dividesByZero (divides : instruction.DividesByZero operands)
    (cells_eq : frame.stack.cells = operands.reverse ++ rest) :
    execute pool instruction next frame =
      .error .divisionByZero { frame with stack := .ofCells frame.stack.capacity rest } := by
  have operated : operate pool frame.locals next instruction frame.stack =
      .error .divisionByZero (.ofCells frame.stack.capacity rest) := by
    cases divides with
    | div type first | rem type first =>
      refine bind_of_error ?_
      cases type with
      | int =>
        have fails : Int32.ofInt 0 = 0 := rfl
        exact binary_eq_error (if_pos fails) cells_eq
      | long =>
        have fails : Int64.ofInt 0 = 0 := rfl
        exact binary_eq_error (if_pos fails) cells_eq
  rw [execute, operated]

theorem execute_increment {index : UInt16} {amount : Int16} {value : Int}
    (found : frame.locals.slots[index.toNat]? = some (Int32.ofInt value).toUInt32) :
    execute pool (.increment index amount) next frame =
      .ok .continue
        { frame with
          locals := ⟨frame.locals.slots.setIfInBounds index.toNat
            (Int32.ofInt (value + amount.toInt)).toUInt32⟩
          pc := next } := by
  have room : index.toNat + 1 ≤ frame.locals.size := (Array.getElem?_eq_some_iff.mp found).1
  have loaded : frame.locals.load Int32 index = .ok (Int32.ofInt value) := by
    have cell_eq : frame.locals.loadCell index 1 = .ok (Value.toCell (Int32.ofInt value)) := by
      rw [LocalVariables.loadCell, if_pos room, Array.getD_eq_getD_getElem?, found]
      rfl
    exact except_bind_eq_ok.mpr ⟨_, cell_eq, Value.ofCell_toCell _⟩
  have sum_eq : Int32.ofInt value + amount.toInt32 = Int32.ofInt (value + amount.toInt) := by
    rw [Int32.ofInt_add, Int32.ofInt_int16ToInt]
  have operated : operate pool frame.locals next (.increment index amount) frame.stack =
      .ok (.store index (Value.toCell (Int32.ofInt (value + amount.toInt)))) frame.stack := by
    rw [← sum_eq]
    exact bind_of_ok (ofExcept_eq_ok.mpr ⟨loaded, rfl⟩)
  have stored : frame.locals.storeCell index
      (Value.toCell (Int32.ofInt (value + amount.toInt))) =
        .ok ⟨frame.locals.slots.setIfInBounds index.toNat
          (Int32.ofInt (value + amount.toInt)).toUInt32⟩ :=
    if_pos room
  exact execute_eq_ok.mpr ⟨_, _, operated, commit_eq_ok.mpr ⟨_, _, stored, rfl, rfl⟩⟩

structure ComputesExactly (pool : ConstantPool) (next : Nat) (frame : Frame)
    (instruction : Instruction) (operands rest : List Cell) : Prop where
  divided_by_zero : instruction.DividesByZero operands →
    execute pool instruction next frame =
      .error .divisionByZero { frame with stack := .ofCells frame.stack.capacity rest }
  exists_result : ¬instruction.DividesByZero operands →
    ∃ result, instruction.Computes operands result
  replaced : ∀ result, instruction.Computes operands result →
    execute pool instruction next frame =
      if totalWidth rest + width result ≤ frame.stack.capacity then
        .ok .continue
          { frame with stack := .ofCells frame.stack.capacity (result :: rest), pc := next }
      else
        .error .operandStackOverflow
          { frame with stack := .ofCells frame.stack.capacity rest }
  /-- On a stack within its capacity, only a widening can lack room for its result. -/
  room : frame.stack.depth ≤ frame.stack.capacity → instruction ≠ .convert .intToLong →
    ∀ result, instruction.Computes operands result →
      totalWidth rest + width result ≤ frame.stack.capacity

/-- Integer instructions leave what arithmetic on integers gives, reduced to the bits of the type,
wherever operands of the right widths are on top of the stack. So do increments of local
variables. -/
theorem integer_instructions_exact (pool : ConstantPool) (next : Nat) (frame : Frame) :
    (∀ instruction types operands rest, instruction.TakesIntegers types →
      List.Forall₂ IntegerType.Fits types operands →
      frame.stack.cells = operands.reverse ++ rest →
        ComputesExactly pool next frame instruction operands rest) ∧
    (∀ type : IntegerType,
      Instruction.Computes (.arithmetic .div type.numeric) [type.cell type.least, type.cell (-1)]
        (type.cell type.least) ∧
      Instruction.Computes (.arithmetic .rem type.numeric) [type.cell type.least, type.cell (-1)]
        (type.cell 0)) ∧
    ∀ (index : UInt16) (amount : Int16) (value : Int),
      frame.locals.slots[index.toNat]? = some (Int32.ofInt value).toUInt32 →
        execute pool (.increment index amount) next frame =
          .ok .continue
            { frame with
              locals := ⟨frame.locals.slots.setIfInBounds index.toNat
                (Int32.ofInt (value + amount.toInt)).toUInt32⟩
              pc := next } := by
  refine ⟨fun instruction types operands rest takes fits cells_eq => ?_,
    Instruction.computes_least_by_minus_one, fun index amount value => execute_increment⟩
  constructor
  case divided_by_zero => exact fun divides => execute_of_dividesByZero divides cells_eq
  case exists_result => exact (takes.exists_computes fits).resolve_left
  case replaced => exact fun result computes => execute_of_computes computes cells_eq
  case room =>
    intro within no_widening result computes
    have depth_eq : frame.stack.depth = totalWidth operands + totalWidth rest := by
      rw [frame.stack.depth_eq, cells_eq, totalWidth_append, totalWidth_reverse]
    have width_le := (width_of_computes computes).resolve_left no_widening
    omega

/-- A frame with the least integer below minus one. -/
def leastByMinusOne : Frame :=
  { enter 0 ⟨2, 0, [0x6c], [], []⟩ with
    stack := .ofCells 2 [.narrow 0xffffffff, .narrow 0x80000000] }

theorem integer_instructions_exact_least_by_minus_one :
    execute .empty (.arithmetic .div .int) 1 leastByMinusOne =
      .ok .continue
        { leastByMinusOne with stack := .ofCells 2 [.narrow 0x80000000], pc := 1 } := by
  obtain ⟨instructions_exact, wraps, -⟩ := integer_instructions_exact .empty 1 leastByMinusOne
  have exactly := instructions_exact (.arithmetic .div .int) [.int, .int]
    [.narrow 0x80000000, .narrow 0xffffffff] [] (.arithmetic .div .int)
    (.cons rfl (.cons rfl .nil)) rfl
  exact exactly.replaced _ (wraps .int).1

end Frame

end ClassMachine
