import ClassMachine.Proofs.Frame.Branching
import ClassMachine.Proofs.Frame.LocalSlots

set_option autoImplicit false

/-!
# Subroutines

A jump to a subroutine pushes the offset after it, which the subroutine stores in a local variable
and in the end goes back to. The offset is a word there, but code is short enough that none is lost,
and no instruction that leaves the slot alone changes it. So the subroutine returns to where it was
called from, however long it takes.
-/

namespace ClassMachine.Frame

open Outcome

variable {pool : ConstantPool} {next : Nat} {frame before after : Frame}

/-- Instructions, each with the offset after it, that are executed one after the other and all of
them go on in the frame. -/
inductive Continues (pool : ConstantPool) : List (Instruction × Nat) → Frame → Frame → Prop where
  | nil (frame : Frame) : Continues pool [] frame frame
  | cons {instruction : Instruction} {next : Nat} {others : List (Instruction × Nat)}
      {before between after : Frame}
      (executed : execute pool instruction next before = .ok .continue between)
      (rest : Continues pool others between after) :
      Continues pool ((instruction, next) :: others) before after

structure KeepsSlot (position : Nat) (before after : Frame) : Prop where
  code_eq : after.code = before.code
  slot_eq : after.locals.slots[position]? = before.locals.slots[position]?

theorem keepsSlot_of_execute {instruction : Instruction} {control : Control} {position : Nat}
    (executed : execute pool instruction next before = .ok control after)
    (untouched : position ∉ instruction.writes) : KeepsSlot position before after := by
  obtain ⟨effect, stack, operated, committed⟩ := execute_eq_ok.mp executed
  obtain ⟨locals, pc, stored, -, rfl⟩ := commit_eq_ok.mp committed
  rw [← writes_of_operate operated] at untouched
  exact ⟨rfl, getElem?_storeWrite stored untouched⟩

theorem Continues.keepsSlot {instructions : List (Instruction × Nat)} {position : Nat}
    (continues : Continues pool instructions before after)
    (untouched : ∀ current ∈ instructions, position ∉ current.1.writes) :
    KeepsSlot position before after := by
  induction continues with
  | nil frame => exact ⟨rfl, rfl⟩
  | cons executed rest inductionHypothesis =>
    obtain ⟨first_untouched, others_untouched⟩ := List.forall_mem_cons.mp untouched
    have head := keepsSlot_of_execute executed first_untouched
    have tail := inductionHypothesis others_untouched
    exact ⟨tail.code_eq.trans head.code_eq, tail.slot_eq.trans head.slot_eq⟩

theorem execute_jumpSubroutine {offset : Int32}
    (length_lt : frame.code.instructions.length < 2 ^ 32)
    (inside : 0 ≤ frame.pc + offset.toInt ∧
      frame.pc + offset.toInt < frame.code.instructions.length)
    (room : frame.stack.depth + 1 ≤ frame.stack.capacity) :
    execute pool (.jumpSubroutine offset) next frame =
      .ok .continue
        { frame with
          stack := .ofCells frame.stack.capacity
            (.narrow (UInt32.ofNat next) :: frame.stack.cells)
          pc := (frame.pc + offset.toInt).toNat } := by
  have pushed : OperandStack.push (.narrow (UInt32.ofNat next)) frame.stack =
      .ok () (.ofCells frame.stack.capacity (.narrow (UInt32.ofNat next) :: frame.stack.cells)) := by
    refine OperandStack.push_eq_ok.mpr ⟨rfl, rfl, ?_⟩
    rw [OperandStack.depth_ofCells, OperandStack.capacity_ofCells, totalWidth_cons,
      Cell.width_narrow, ← frame.stack.depth_eq]
    omega
  have operated : operate pool frame.locals next (.jumpSubroutine offset) frame.stack =
      .ok (.follow (.jump offset))
        (.ofCells frame.stack.capacity (.narrow (UInt32.ofNat next) :: frame.stack.cells)) :=
    bind_of_ok pushed
  have address_eq : frame.address offset.toInt = frame.pc + offset.toInt :=
    address_eq (by omega) (by omega)
  rw [execute_of_jump operated, jumpBy, jumpTo, address_eq, if_pos inside]

theorem execute_storeReference {index : UInt16} {bits : UInt32} {others : List Cell}
    (cells_eq : frame.stack.cells = .narrow bits :: others)
    (valid : index.toNat < frame.locals.size) :
    execute pool (.store .reference index) next frame =
      .ok .continue
        { frame with
          stack := .ofCells frame.stack.capacity others
          locals := frame.locals.replace index.toNat [bits]
          pc := next } := by
  have popped : OperandStack.popWidth 1 frame.stack =
      .ok (.narrow bits) (.ofCells frame.stack.capacity others) :=
    OperandStack.popWidth_eq_ok.mpr ⟨cells_eq, rfl, rfl⟩
  refine execute_eq_ok.mpr ⟨.store index (.narrow bits), _, bind_of_ok popped, ?_⟩
  exact commit_eq_ok.mpr ⟨_, next, LocalVariables.storeCell_of_room valid, rfl, rfl⟩

theorem execute_returnFromSubroutine {index : UInt16} {address : UInt32}
    (found : frame.locals.slots[index.toNat]? = some address) :
    execute pool (.returnFromSubroutine index) next frame =
      if address.toNat < frame.code.instructions.length then
        .ok .continue { frame with pc := address.toNat }
      else .error (.invalidBranchTarget address.toNat) frame := by
  have loaded : frame.locals.load ReturnAddress index = .ok ⟨address⟩ :=
    (LocalVariables.load_of_loadCell (LocalVariables.loadCell_narrow.mpr found)).trans rfl
  have operated : operate pool frame.locals next (.returnFromSubroutine index) frame.stack =
      .ok (.follow (.resume address)) frame.stack := by
    rw [operate, loaded]
    rfl
  rw [execute, operated]
  by_cases inside : address.toNat < frame.code.instructions.length
  · have target_eq : frame.target address.toNat = .ok address.toNat :=
      if_pos ⟨Int.natCast_nonneg _, Int.ofNat_lt.mpr inside⟩
    simp only [commit, storeWrite, Effect.follow, follow, target_eq, if_pos inside]
    rfl
  · have target_eq : frame.target address.toNat = .error (.invalidBranchTarget address.toNat) :=
      if_neg fun bounds => inside (Int.ofNat_lt.mp bounds.2)
    simp only [commit, storeWrite, Effect.follow, follow, target_eq, if_neg inside]
    rfl

/-- A subroutine that keeps the offset it was called with in a local variable returns to exactly this
offset, or fails if the code ends there. Nothing is left on the operand stack by calling it. -/
theorem subroutine_returns (pool : ConstantPool) {frame : Frame} {offset : Int32} {next : Nat}
    {index : UInt16} (length_lt : frame.code.instructions.length < 2 ^ 32)
    (fetched : frame.fetch = .ok (.jumpSubroutine offset, next))
    (inside : 0 ≤ frame.pc + offset.toInt ∧
      frame.pc + offset.toInt < frame.code.instructions.length)
    (room : frame.stack.depth + 1 ≤ frame.stack.capacity)
    (valid : index.toNat < frame.locals.size) :
    ∃ called, execute pool (.jumpSubroutine offset) next frame = .ok .continue called ∧
      called.pc = frame.pc + offset.toInt ∧
      ∀ afterStore, ∃ stored,
        execute pool (.store .reference index) afterStore called = .ok .continue stored ∧
        stored.stack = frame.stack ∧
        ∀ instructions arrived, Continues pool instructions stored arrived →
          (∀ current ∈ instructions, index.toNat ∉ current.1.writes) →
          ∀ afterReturn, execute pool (.returnFromSubroutine index) afterReturn arrived =
            if next < frame.code.instructions.length then
              .ok .continue { arrived with pc := next }
            else .error (.invalidBranchTarget next) arrived := by
  have address_eq : (UInt32.ofNat next).toNat = next := by
    have next_le := (Instruction.next_le_length_of_decode fetched).2
    exact UInt32.toNat_ofNat_of_lt' (Nat.lt_of_le_of_lt next_le length_lt)
  refine ⟨_, execute_jumpSubroutine length_lt inside room, Int.toNat_of_nonneg inside.1, fun afterStore => ?_⟩
  refine ⟨_, execute_storeReference rfl valid, OperandStack.ofCells_cells frame.stack, ?_⟩
  intro instructions arrived continues untouched afterReturn
  obtain ⟨code_eq, slot_eq⟩ := continues.keepsSlot untouched
  have stored_here : LocalVariables.storeCell frame.locals index (.narrow (UInt32.ofNat next)) =
      .ok (frame.locals.replace index.toNat [UInt32.ofNat next]) :=
    LocalVariables.storeCell_of_room valid
  have found : arrived.locals.slots[index.toNat]? = some (UInt32.ofNat next) :=
    slot_eq.trans (LocalVariables.getElem?_storeCell_inside stored_here 0 Nat.one_pos)
  rw [execute_returnFromSubroutine found, address_eq, code_eq]

/-- A frame that is about to call a subroutine at the start of its code. -/
def calling : Frame :=
  { enter 0 ⟨1, 3, [0x4c, 0x03, 0xa8, 0xff, 0xfe, 0x00], [], []⟩ with pc := 2 }

def callingLast : Frame := { enter 0 ⟨1, 3, [0x4c, 0xa8, 0xff, 0xff], [], []⟩ with pc := 1 }

/-- A subroutine that stores an integer beside its return address goes back to where it was called
from. With nothing behind the call there is nowhere to go back to. -/
theorem subroutine_returns_around_store :
    (∃ called stored arrived,
      execute .empty (.jumpSubroutine (-2)) 5 calling = .ok .continue called ∧
      execute .empty (.store .reference 1) 1 called = .ok .continue stored ∧
      Continues .empty [(.literal .int0, 2), (.store .int 2, 3)] stored arrived ∧
      execute .empty (.returnFromSubroutine 1) 8 arrived = .ok .continue { arrived with pc := 5 }) ∧
    ∃ called stored,
      execute .empty (.jumpSubroutine (-1)) 4 callingLast = .ok .continue called ∧
      execute .empty (.store .reference 1) 1 called = .ok .continue stored ∧
      execute .empty (.returnFromSubroutine 1) 8 stored =
        .error (.invalidBranchTarget 4) stored := by
  have fetched : calling.fetch = .ok (.jumpSubroutine (-2), 5) := by cbv
  have fetched_last : callingLast.fetch = .ok (.jumpSubroutine (-1), 4) := by cbv
  have valid : (1 : UInt16).toNat < calling.locals.size := Nat.one_lt_succ_succ 1
  constructor
  · obtain ⟨called, calls, -, stores⟩ :=
      subroutine_returns .empty (by decide) fetched (by decide) (by decide) valid
    obtain ⟨stored, storing, -, returns⟩ := stores 1
    obtain rfl : { calling with stack := .ofCells 1 [.narrow 5], pc := 0 } = called :=
      (EStateM.Result.ok.inj calls).2
    obtain rfl : { calling with locals := ⟨#[0, 5, 0]⟩, pc := 1 } = stored :=
      (EStateM.Result.ok.inj storing).2
    have continues : Continues .empty [(.literal .int0, 2), (.store .int 2, 3)]
        { calling with locals := ⟨#[0, 5, 0]⟩, pc := 1 }
        { calling with locals := ⟨#[0, 5, 0]⟩, pc := 3 } :=
      .cons rfl (.cons rfl (.nil _))
    exact ⟨_, _, _, calls, storing, continues, returns _ _ continues (by decide) 8⟩
  · obtain ⟨called, calls, -, stores⟩ :=
      subroutine_returns .empty (by decide) fetched_last (by decide) (by decide) valid
    obtain ⟨stored, storing, -, returns⟩ := stores 1
    exact ⟨called, stored, calls, storing, returns [] stored (.nil stored) (by decide) 8⟩

end ClassMachine.Frame
