import ClassMachine.Proofs.Frame.IntegerArithmetic
import ClassMachine.Proofs.Frame.SlotEffect
import ClassMachine.Proofs.Instruction.Table

set_option autoImplicit false

/-!
# Where branches go

A branch takes its operands from the stack and decides by a relation between integers or handles. If
it jumps, it goes to the sum of its own offset in the code and the one that it is written with, which
has to be inside the code; if it does not, that offset is never looked at.
-/

namespace ClassMachine

open Outcome

namespace Comparison

/-- The relation between integers that a comparison stands for. -/
def Relates : Comparison → Int → Int → Prop
  | .eq, first, second => first = second
  | .ne, first, second => first ≠ second
  | .lt, first, second => first < second
  | .ge, first, second => second ≤ first
  | .gt, first, second => second < first
  | .le, first, second => first ≤ second

theorem holds_compare (comparison : Comparison) (first second : Int) :
    comparison.holds (compare first second) = true ↔ comparison.Relates first second := by
  rcases lt_trichotomy first second with below | same | above
  · rw [compare_lt_iff_lt.mpr below]
    cases comparison <;> simp [holds, Relates] <;> omega
  · rw [compare_eq_iff_eq.mpr same]
    cases comparison <;> simp [holds, Relates] <;> omega
  · rw [compare_gt_iff_gt.mpr above]
    cases comparison <;> simp [holds, Relates] <;> omega

instance (comparison : Comparison) (first second : Int) :
    Decidable (comparison.Relates first second) :=
  decidable_of_iff _ (holds_compare comparison first second)

theorem relates_negate (comparison : Comparison) (first second : Int) :
    comparison.negate.Relates first second ↔ ¬comparison.Relates first second := by
  cases comparison <;> simp [negate, Relates]

theorem relates_sign (comparison : Comparison) (first second : Int) :
    comparison.Relates (first - second).sign 0 ↔ comparison.Relates first second := by
  cases comparison <;>
    simp only [Relates, ne_eq, Int.sign_eq_zero_iff_zero, Int.sign_neg_iff, Int.sign_pos_iff,
      Int.sign_nonneg_iff, Int.sign_nonpos_iff] <;> omega

end Comparison

namespace EqualityTest

/-- The relation between handles that a test stands for. -/
def Relates : EqualityTest → UInt32 → UInt32 → Prop
  | .eq, first, second => first = second
  | .ne, first, second => first ≠ second

def negate : EqualityTest → EqualityTest
  | .eq => .ne
  | .ne => .eq

theorem holds_beq (test : EqualityTest) (first second : Reference) :
    test.holds (first == second) = true ↔ test.Relates first.handle second.handle := by
  obtain ⟨first⟩ := first
  obtain ⟨second⟩ := second
  cases test <;> simp [holds, Relates]

theorem relates_negate (test : EqualityTest) (first second : UInt32) :
    test.negate.Relates first second ↔ ¬test.Relates first second := by
  cases test <;> simp [negate, Relates]

end EqualityTest

namespace Instruction

/-- The instruction takes these operands from the stack, the last one from the top, and jumps by this
offset if the condition holds of them. -/
inductive Branches : Instruction → List Cell → Prop → Int → Prop where
  | int (comparison : Comparison) (offset : Int16) (value : UInt32) :
    Branches (.branchInt comparison offset) [.narrow value]
      (comparison.Relates value.toInt32.toInt 0) offset.toInt
  | ints (comparison : Comparison) (offset : Int16) (first second : UInt32) :
    Branches (.branchInts comparison offset) [.narrow first, .narrow second]
      (comparison.Relates first.toInt32.toInt second.toInt32.toInt) offset.toInt
  | references (test : EqualityTest) (offset : Int16) (first second : UInt32) :
    Branches (.branchReferences test offset) [.narrow first, .narrow second]
      (test.Relates first second) offset.toInt
  | null (test : EqualityTest) (offset : Int16) (handle : UInt32) :
    Branches (.branchNull test offset) [.narrow handle] (test.Relates handle 0) offset.toInt
  | goto (offset : Int32) : Branches (.goto offset) [] True offset.toInt

theorem Branches.le_offset {instruction : Instruction} {operands : List Cell} {condition : Prop}
    {offset : Int} (branches : instruction.Branches operands condition offset) :
    -2 ^ 31 ≤ offset := by
  cases branches with
  | int _ offset | ints _ offset | references _ offset | null _ offset =>
    have lower := offset.le_toInt
    omega
  | goto offset => exact offset.le_toInt

def IsBranch : Instruction → Prop
  | .branchInt .. | .branchInts .. | .branchReferences .. | .branchNull .. | .goto _ => True
  | _ => False

/-- The two instructions are written with opposite comparisons, such as `iflt` and `ifge`. Their
offsets may differ. -/
inductive Opposes : Instruction → Instruction → Prop where
  | int (comparison : Comparison) (offset other : Int16) :
    Opposes (.branchInt comparison offset) (.branchInt comparison.negate other)
  | ints (comparison : Comparison) (offset other : Int16) :
    Opposes (.branchInts comparison offset) (.branchInts comparison.negate other)
  | references (test : EqualityTest) (offset other : Int16) :
    Opposes (.branchReferences test offset) (.branchReferences test.negate other)
  | null (test : EqualityTest) (offset other : Int16) :
    Opposes (.branchNull test offset) (.branchNull test.negate other)

/-- On the same operands, exactly one of two opposite branches jumps. -/
theorem Opposes.exists_branches {instruction opposite : Instruction} {operands : List Cell}
    {condition : Prop} {offset : Int} (opposes : Opposes instruction opposite)
    (branches : instruction.Branches operands condition offset) :
    ∃ negation other, opposite.Branches operands negation other ∧ (negation ↔ ¬condition) := by
  cases opposes with
  | int comparison _ other =>
    cases branches with
    | int _ _ value => exact ⟨_, _, .int _ other value, comparison.relates_negate ..⟩
  | ints comparison _ other =>
    cases branches with
    | ints _ _ first second =>
      exact ⟨_, _, .ints _ other first second, comparison.relates_negate ..⟩
  | references test _ other =>
    cases branches with
    | references _ _ first second =>
      exact ⟨_, _, .references _ other first second, test.relates_negate ..⟩
  | null test _ other =>
    cases branches with
    | null _ _ handle => exact ⟨_, _, .null _ other handle, test.relates_negate ..⟩

end Instruction

def Comparison.suffix : Comparison → String
  | .eq => "eq"
  | .ne => "ne"
  | .lt => "lt"
  | .ge => "ge"
  | .gt => "gt"
  | .le => "le"

def EqualityTest.suffix : EqualityTest → String
  | .eq => "eq"
  | .ne => "ne"

inductive BranchEntry : UInt8 → OpcodeInfo → Prop where
  | int (comparison : Comparison) :
    BranchEntry (0x99 + comparison.position)
      ⟨"if" ++ comparison.suffix, some 2, .int16 (.branchInt comparison)⟩
  | ints (comparison : Comparison) :
    BranchEntry (0x9f + comparison.position)
      ⟨"if_icmp" ++ comparison.suffix, some 2, .int16 (.branchInts comparison)⟩
  | references (test : EqualityTest) :
    BranchEntry (0xa5 + test.position)
      ⟨"if_acmp" ++ test.suffix, some 2, .int16 (.branchReferences test)⟩
  | null : BranchEntry 0xc6 ⟨"ifnull", some 2, .int16 (.branchNull .eq)⟩
  | nonnull : BranchEntry 0xc7 ⟨"ifnonnull", some 2, .int16 (.branchNull .ne)⟩
  | goto : BranchEntry 0xa7 ⟨"goto", some 2, .int16 fun offset => .goto offset.toInt32⟩
  | wideGoto : BranchEntry 0xc8 ⟨"goto_w", some 4, .int32 .goto⟩

-- Looking an opcode up walks through the table.
set_option maxRecDepth 4000 in
theorem BranchEntry.ofOpcode?_eq {opcode : UInt8} {info : OpcodeInfo}
    (entry : BranchEntry opcode info) : OpcodeInfo.ofOpcode? opcode = some info := by
  cases entry with
  | int kind | ints kind | references kind => cases kind <;> rfl
  | null | nonnull | goto | wideGoto => rfl

theorem OperandStack.exists_narrow_of_popValue {α : Type} [Value α]
    (one_slot : Value.slotCount α = 1) {before after : OperandStack} {value : α}
    (popped : popValue α before = .ok value after) :
    ∃ bits, before.cells = .narrow bits :: after.cells := by
  obtain ⟨cell, between, taken, tail⟩ := bind_eq_ok.mp popped
  obtain ⟨read, between_eq⟩ := ofExcept_eq_ok.mp tail
  obtain ⟨cells_eq, -⟩ := pop_eq_ok.mp taken
  subst between_eq
  have width_eq : width cell = 1 := (width_of_ofCell read).trans one_slot
  cases cell with
  | narrow bits => exact ⟨bits, cells_eq⟩
  | wide bits => cases width_eq

theorem OperandStack.exists_narrow_of_popValues {α β : Type} [Value α]
    (one_slot : Value.slotCount α = 1) {next : α → α → StackOperation β}
    {before after : OperandStack} {result : β}
    (succeeded : (popValue α >>= fun second => popValue α >>= next second) before =
      .ok result after) :
    ∃ first second rest, before.cells = [.narrow first, .narrow second].reverse ++ rest := by
  obtain ⟨_, between, second_popped, tail⟩ := bind_eq_ok.mp succeeded
  obtain ⟨_, below, first_popped, -⟩ := bind_eq_ok.mp tail
  obtain ⟨second, cells_eq⟩ := exists_narrow_of_popValue one_slot second_popped
  obtain ⟨first, between_eq⟩ := exists_narrow_of_popValue one_slot first_popped
  refine ⟨first, second, below.cells, ?_⟩
  rw [cells_eq, between_eq]
  rfl

namespace Frame

open OperandStack Operation

/-- A jump to an address, once the operands are off the stack. The address has to be inside the
code. -/
def jumpTo (frame : Frame) (rest : List Cell) (address : Int) :
    EStateM.Result Fault Frame Control :=
  if 0 ≤ address ∧ address < frame.code.instructions.length then
    .ok .continue
      { frame with
        stack := .ofCells frame.stack.capacity rest
        pc := address.toNat }
  else
    .error (.invalidBranchTarget address)
      { frame with stack := .ofCells frame.stack.capacity rest }

/-- A jump by an offset, once the operands are off the stack. -/
def jumpBy (frame : Frame) (rest : List Cell) (offset : Int) :
    EStateM.Result Fault Frame Control :=
  frame.jumpTo rest (frame.address offset)

theorem address_eq {frame : Frame} {offset : Int} (lower : -2 ^ 63 ≤ frame.pc + offset)
    (upper : frame.pc + offset < 2 ^ 63) : frame.address offset = frame.pc + offset := by
  refine Int.bmod_eq_of_le_mul_two ?_ ?_
  · change -18446744073709551616 ≤ _
    omega
  · change _ < (18446744073709551616 : Int)
    omega

/-- Going on at the next instruction, once the operands are off the stack. -/
def goOn (frame : Frame) (rest : List Cell) (next : Nat) : EStateM.Result Fault Frame Control :=
  .ok .continue { frame with stack := .ofCells frame.stack.capacity rest, pc := next }

/-- An outcome that is a jump where a condition holds, and goes on where it does not. -/
structure Forks (frame : Frame) (rest : List Cell) (next : Nat) (condition : Prop) (offset : Int)
    (outcome : EStateM.Result Fault Frame Control) : Prop where
  jumps : condition → outcome = frame.jumpBy rest offset
  goes_on : ¬condition → outcome = frame.goOn rest next

section Execute

variable {pool : ConstantPool} {next : Nat} {frame : Frame} {instruction : Instruction}
  {rest : List Cell}

theorem execute_of_jump {offset : Int32}
    (operated : operate pool frame.locals next instruction frame.stack =
      .ok (.follow (.jump offset)) (.ofCells frame.stack.capacity rest)) :
    execute pool instruction next frame = frame.jumpBy rest offset.toInt := by
  rw [execute, operated, jumpBy, jumpTo]
  have address_eq : address { frame with stack := .ofCells frame.stack.capacity rest }
      offset.toInt = frame.address offset.toInt := rfl
  by_cases inside : 0 ≤ frame.address offset.toInt ∧
      frame.address offset.toInt < frame.code.instructions.length
  · have target_eq : target { frame with stack := .ofCells frame.stack.capacity rest }
        (frame.address offset.toInt) = .ok (frame.address offset.toInt).toNat :=
      if_pos inside
    simp only [commit, storeWrite, Effect.follow, follow, address_eq, target_eq, if_pos inside]
    rfl
  · have target_eq : target { frame with stack := .ofCells frame.stack.capacity rest }
        (frame.address offset.toInt) = .error (.invalidBranchTarget (frame.address offset.toInt)) :=
      if_neg inside
    simp only [commit, storeWrite, Effect.follow, follow, address_eq, target_eq, if_neg inside]
    rfl

theorem execute_of_branch {condition : Bool} {offset : Int16}
    (operated : operate pool frame.locals next instruction frame.stack =
      .ok (.branch condition offset) (.ofCells frame.stack.capacity rest)) :
    execute pool instruction next frame =
      if condition then frame.jumpBy rest offset.toInt else frame.goOn rest next := by
  cases condition with
  | true => rw [execute_of_jump operated, Int16.toInt_toInt32, if_pos rfl]
  | false =>
    rw [execute, operated]
    rfl

theorem forks_of_branch {test : Bool} {condition : Prop} {offset : Int16}
    (test_iff : test = true ↔ condition)
    (operated : operate pool frame.locals next instruction frame.stack =
      .ok (.branch test offset) (.ofCells frame.stack.capacity rest)) :
    frame.Forks rest next condition offset.toInt (execute pool instruction next frame) := by
  rw [execute_of_branch operated, ← test_iff]
  constructor
  case jumps => exact fun holds => if_pos holds
  case goes_on => exact fun fails => if_neg fails

theorem execute_of_branches {operands : List Cell} {condition : Prop} {offset : Int}
    (branches : instruction.Branches operands condition offset)
    (cells_eq : frame.stack.cells = operands.reverse ++ rest) :
    frame.Forks rest next condition offset (execute pool instruction next frame) := by
  cases branches with
  | int comparison offset value =>
    have popped : popValue Int32 frame.stack =
        .ok value.toInt32 (.ofCells frame.stack.capacity rest) :=
      popValue_of_cells cells_eq
    exact forks_of_branch (comparison.holds_compare ..) (bind_of_ok popped)
  | ints comparison offset first second =>
    have popped (next : Int32 → Int32 → StackOperation Effect) :
        (popValue Int32 >>= fun second => popValue Int32 >>= next second) frame.stack =
          next second.toInt32 first.toInt32 (.ofCells frame.stack.capacity rest) :=
      popValue_popValue_bind next cells_eq
    exact forks_of_branch (comparison.holds_compare ..) (popped _)
  | references test offset first second =>
    have popped (next : Reference → Reference → StackOperation Effect) :
        (popValue Reference >>= fun second => popValue Reference >>= next second) frame.stack =
          next ⟨second⟩ ⟨first⟩ (.ofCells frame.stack.capacity rest) :=
      popValue_popValue_bind next cells_eq
    exact forks_of_branch (test.holds_beq ⟨first⟩ ⟨second⟩) (popped _)
  | null test offset handle =>
    have popped : popValue Reference frame.stack =
        .ok ⟨handle⟩ (.ofCells frame.stack.capacity rest) :=
      popValue_of_cells cells_eq
    exact forks_of_branch (test.holds_beq ⟨handle⟩ .null) (bind_of_ok popped)
  | goto offset =>
    have kept : frame.stack = .ofCells frame.stack.capacity rest :=
      OperandStack.ext cells_eq rfl
    refine ⟨fun _ => execute_of_jump ?_, fun fails => absurd trivial fails⟩
    rw [← kept]
    rfl

theorem exists_branches_of_execute {control : Control} {after : Frame}
    (is_branch : instruction.IsBranch)
    (executed : execute pool instruction next frame = .ok control after) :
    ∃ operands rest condition offset, frame.stack.cells = operands.reverse ++ rest ∧
      instruction.Branches operands condition offset := by
  obtain ⟨effect, stack, operated, -⟩ := execute_eq_ok.mp executed
  cases instruction with
  | branchInt comparison offset =>
    obtain ⟨_, between, popped, -⟩ := bind_eq_ok.mp operated
    obtain ⟨value, cells_eq⟩ := exists_narrow_of_popValue rfl popped
    exact ⟨[.narrow value], between.cells, _, _, cells_eq, .int comparison offset value⟩
  | branchInts comparison offset =>
    obtain ⟨first, second, rest, cells_eq⟩ := exists_narrow_of_popValues rfl operated
    exact ⟨[.narrow first, .narrow second], rest, _, _, cells_eq, .ints comparison offset ..⟩
  | branchReferences test offset =>
    obtain ⟨first, second, rest, cells_eq⟩ := exists_narrow_of_popValues rfl operated
    exact ⟨[.narrow first, .narrow second], rest, _, _, cells_eq, .references test offset ..⟩
  | branchNull test offset =>
    obtain ⟨_, between, popped, -⟩ := bind_eq_ok.mp operated
    obtain ⟨handle, cells_eq⟩ := exists_narrow_of_popValue rfl popped
    exact ⟨[.narrow handle], between.cells, _, _, cells_eq, .null test offset handle⟩
  | goto offset => exact ⟨[], frame.stack.cells, _, _, rfl, .goto offset⟩
  | _ => exact is_branch.elim

theorem execute_compareLongs_branchInt (comparison : Comparison) (offset : Int16) (middle : Nat)
    {first second : Int} (first_holds : IntegerType.long.Holds first)
    (second_holds : IntegerType.long.Holds second)
    (cells_eq : frame.stack.cells =
      [IntegerType.long.cell first, IntegerType.long.cell second].reverse ++ rest)
    (within : frame.stack.depth ≤ frame.stack.capacity) :
    Forks { frame with pc := middle } rest next (comparison.Relates first second) offset.toInt
      ((execute pool .compareLongs middle >>= fun _ =>
        execute pool (.branchInt comparison offset) next) frame) := by
  have room : totalWidth rest + 1 ≤ frame.stack.capacity := by
    rw [frame.stack.depth_eq, cells_eq, totalWidth_append, totalWidth_reverse] at within
    simp at within
    omega
  have executed : execute pool .compareLongs middle frame =
      .ok .continue
        { frame with
          stack := .ofCells frame.stack.capacity
            (IntegerType.int.cell (first - second).sign :: rest)
          pc := middle } :=
    (execute_of_computes (.compareLongs first_holds second_holds) cells_eq).trans (if_pos room)
  have sign_eq : (Int32.ofInt (first - second).sign).toInt = (first - second).sign := by
    rw [Int32.toInt_ofInt]
    rcases Int.sign_trichotomy (first - second) with sign | sign | sign <;> rw [sign] <;> rfl
  have branches :
      Instruction.Branches (.branchInt comparison offset)
        [IntegerType.int.cell (first - second).sign] (comparison.Relates first second)
        offset.toInt := by
    have of_sign := Instruction.Branches.int comparison offset
      (Int32.ofInt (first - second).sign).toUInt32
    rwa [Int32.toInt32_toUInt32, sign_eq, comparison.relates_sign] at of_sign
  rw [bind_of_ok executed]
  constructor
  case jumps => exact (execute_of_branches branches rfl).jumps
  case goes_on => exact (execute_of_branches branches rfl).goes_on

theorem execute_literal_branchInts (comparison : Comparison) (offset : Int16) (middle : Nat)
    (room : frame.stack.depth + 1 ≤ frame.stack.capacity) :
    (execute pool (.literal .int0) middle >>= fun _ =>
        execute pool (.branchInts comparison offset) next) frame =
      execute pool (.branchInt comparison offset) next { frame with pc := middle } := by
  have pushed : push (.narrow 0) frame.stack = .ok () (frame.stack.withCell (.narrow 0)) :=
    if_pos room
  have executed : execute pool (.literal .int0) middle frame =
      .ok .continue { frame with stack := frame.stack.withCell (.narrow 0), pc := middle } := by
    have operated : operate pool frame.locals middle (.literal .int0) frame.stack =
        .ok .next (frame.stack.withCell (.narrow 0)) :=
      bind_of_ok pushed
    rw [execute, operated]
    rfl
  have popped : popValue Int32 (frame.stack.withCell (.narrow 0)) = .ok 0 frame.stack := by
    have popped : popValue Int32 (frame.stack.withCell (.narrow 0)) =
        .ok 0 (.ofCells frame.stack.capacity frame.stack.cells) :=
      popValue_of_cells rfl
    rwa [ofCells_cells] at popped
  have compared : operate pool frame.locals next (.branchInts comparison offset)
      (frame.stack.withCell (.narrow 0)) =
        (popValue Int32 >>= fun first =>
          pure (.branch (comparison.holds (compare first.toInt (0 : Int32).toInt)) offset))
          frame.stack :=
    bind_of_ok popped
  rw [Int32.toInt_zero] at compared
  rw [bind_of_ok executed, execute, execute, compared]
  rfl

end Execute

/-- Branches jump exactly where their relation holds of their operands, and go on with the next
instruction elsewhere. They jump to exactly the sum of the two offsets if it is a signed word of 64
bits, as it is in all code that a class can hold. -/
theorem branches_exact (pool : ConstantPool) (next : Nat) (frame : Frame) :
    (∀ (instruction : Instruction) operands rest condition offset,
      instruction.Branches operands condition offset →
      frame.stack.cells = operands.reverse ++ rest →
        frame.Forks rest next condition offset (execute pool instruction next frame) ∧
        (frame.pc + offset < 2 ^ 63 →
          frame.jumpBy rest offset = frame.jumpTo rest (frame.pc + offset))) ∧
    (∀ (instruction : Instruction) control after, instruction.IsBranch →
      execute pool instruction next frame = .ok control after →
        ∃ operands rest condition offset, frame.stack.cells = operands.reverse ++ rest ∧
          instruction.Branches operands condition offset) ∧
    (∀ comparison offset middle first second rest, IntegerType.long.Holds first →
      IntegerType.long.Holds second →
      frame.stack.cells =
        [IntegerType.long.cell first, IntegerType.long.cell second].reverse ++ rest →
      frame.stack.depth ≤ frame.stack.capacity →
        Forks { frame with pc := middle } rest next (comparison.Relates first second) offset.toInt
          ((execute pool .compareLongs middle >>= fun _ =>
            execute pool (.branchInt comparison offset) next) frame)) ∧
    (∀ comparison offset middle, frame.stack.depth + 1 ≤ frame.stack.capacity →
      (execute pool (.literal .int0) middle >>= fun _ =>
          execute pool (.branchInts comparison offset) next) frame =
        execute pool (.branchInt comparison offset) next { frame with pc := middle }) ∧
    (∀ (instruction opposite : Instruction) operands condition offset,
      instruction.Opposes opposite → instruction.Branches operands condition offset →
        ∃ negation other, opposite.Branches operands negation other ∧ (negation ↔ ¬condition)) ∧
    ∀ opcode info, BranchEntry opcode info → OpcodeInfo.ofOpcode? opcode = some info := by
  refine ⟨?_, ?_, ?_, ?_, ?_, ?_⟩
  · intro instruction operands rest condition offset branches cells_eq
    refine ⟨execute_of_branches branches cells_eq, fun upper => ?_⟩
    have lower := branches.le_offset
    rw [jumpBy, address_eq (by omega) upper]
  · intro instruction control after is_branch executed
    exact exists_branches_of_execute is_branch executed
  · intro comparison offset middle first second rest first_holds second_holds cells_eq within
    exact execute_compareLongs_branchInt comparison offset middle first_holds second_holds cells_eq
      within
  · intro comparison offset middle room
    exact execute_literal_branchInts comparison offset middle room
  · intro instruction opposite operands condition offset opposes branches
    exact opposes.exists_branches branches
  · intro opcode info entry
    exact entry.ofOpcode?_eq

/-- A frame in the middle of its code with the greatest long and, on top of it, minus one. -/
def greatestAndMinusOne : Frame :=
  { enter 0 ⟨4, 0, List.replicate 20 0, [], []⟩ with
    pc := 10
    stack := .ofCells 4 [.wide 0xffffffffffffffff, .wide 0x7fffffffffffffff] }

def intMinusOne : Frame :=
  { greatestAndMinusOne with stack := .ofCells 4 [.narrow 0xffffffff] }

/-- A long that is greater takes the branch back. A negative integer takes it out of the code, and
one step less far with a zero to compare to; it does not take the opposite branch. -/
theorem branches_exact_back :
    (execute .empty .compareLongs 11 >>= fun _ => execute .empty (.branchInt .gt (-4)) 14)
        greatestAndMinusOne =
      .ok .continue { greatestAndMinusOne with stack := .ofCells 4 [], pc := 7 } ∧
    execute .empty (.branchInt .lt (-11)) 13 intMinusOne =
      .error (.invalidBranchTarget (-1)) { intMinusOne with stack := .ofCells 4 [] } ∧
    (execute .empty (.literal .int0) 11 >>= fun _ => execute .empty (.branchInts .lt (-11)) 14)
        intMinusOne =
      .ok .continue { intMinusOne with stack := .ofCells 4 [], pc := 0 } ∧
    execute .empty (.branchInt .ge (-11)) 13 intMinusOne =
      .ok .continue { intMinusOne with stack := .ofCells 4 [], pc := 13 } ∧
    (∃ operands rest condition offset, intMinusOne.stack.cells = operands.reverse ++ rest ∧
      Instruction.Branches (.branchInt .ge (-11)) operands condition offset) ∧
    OpcodeInfo.ofOpcode? 0x9b = some ⟨"iflt", some 2, .int16 (.branchInt .lt)⟩ := by
  obtain ⟨exactly, operands_found, -, -, opposites, in_table⟩ := branches_exact .empty 13 intMinusOne
  obtain ⟨-, -, after_comparison, -⟩ := branches_exact .empty 14 greatestAndMinusOne
  obtain ⟨-, -, -, after_zero, -⟩ := branches_exact .empty 14 intMinusOne
  obtain ⟨exactly_later, -⟩ := branches_exact .empty 14 { intMinusOne with pc := 11 }
  have branches := Instruction.Branches.int .lt (-11) 0xffffffff
  have not_taken : execute .empty (.branchInt .ge (-11)) 13 intMinusOne =
      .ok .continue { intMinusOne with stack := .ofCells 4 [], pc := 13 } := by
    obtain ⟨negation, other, opposite, negation_iff⟩ :=
      opposites _ _ _ _ _ (.int .lt (-11) (-11)) branches
    apply (exactly _ _ [] _ _ opposite rfl).1.goes_on
    rw [negation_iff]
    decide
  refine ⟨?_, ?_, ?_, not_taken, ?_, ?_⟩
  · have forks := after_comparison .gt (-4) 11 (2 ^ 63 - 1) (-1) [] (by decide) (by decide) rfl
      (by decide)
    exact forks.jumps (by decide)
  · obtain ⟨forks, within⟩ := exactly _ _ [] _ _ branches rfl
    rw [forks.jumps (by decide), within (by decide)]
    rfl
  · rw [after_zero .lt (-11) 11 (by decide)]
    exact (exactly_later _ _ [] _ _ branches rfl).1.jumps (by decide)
  · exact operands_found _ _ _ trivial not_taken
  · exact in_table _ _ (.int .lt)

end Frame

end ClassMachine
