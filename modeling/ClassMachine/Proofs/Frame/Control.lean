import ClassMachine.Proofs.Frame.Bounds
import ClassMachine.Proofs.Frame.OperandStack

set_option autoImplicit false

/-!
# Which instructions leave their frame

`invokestatic` asks the thread for a call and has changed nothing but the program counter by then. A
return has at most popped the value that it returns. Every other instruction goes on in the code of
its frame or fails.
-/

namespace ClassMachine

open Outcome

namespace Flow

def StaysInFrame : Flow → Prop
  | .invokeStatic _ | .leave _ => False
  | .next | .jump _ | .resume _ | .unsupported => True

theorem stays_branch (condition : Bool) (offset : Int16) :
    (Effect.branch condition offset).flow.StaysInFrame := by
  cases condition <;> trivial

end Flow

theorem stays_of_operate {pool : ConstantPool} {locals : LocalVariables} {next : Nat}
    {instruction : Instruction} (no_call : ∀ index, instruction ≠ .invoke .static index)
    (no_value : ∀ type, instruction ≠ .returnValue type) (no_return : instruction ≠ .returnVoid)
    {before after : OperandStack} {effect : Effect}
    (operated : operate pool locals next instruction before = .ok effect after) :
    effect.flow.StaysInFrame := by
  suffices yields : Yields (fun effect : Effect => effect.flow.StaysInFrame)
      (operate pool locals next instruction) from yields.holds operated
  cases instruction with
  | returnValue type => exact absurd rfl (no_value type)
  | returnVoid => exact absurd rfl no_return
  | invoke kind index =>
    cases kind with
    | static => exact absurd rfl (no_call index)
    | _ => exact yields_pure trivial
  | branchInt comparison offset | branchNull comparison offset =>
    exact yields_bind fun _ => yields_pure (Flow.stays_branch _ offset)
  | branchInts comparison offset | branchReferences comparison offset =>
    exact yields_bind fun _ => yields_bind fun _ => yields_pure (Flow.stays_branch _ offset)
  | _ =>
    -- What is left ends with a fixed effect, after up to two operations on the stack.
    first
      | exact yields_pure trivial
      | exact yields_bind fun _ => yields_pure trivial
      | exact yields_bind fun _ => yields_bind fun _ => yields_pure trivial

namespace Frame

variable {pool : ConstantPool} {frame after : Frame}

theorem execute_eq_ok {instruction : Instruction} {next : Nat} {control : Control} :
    execute pool instruction next frame = .ok control after ↔
      ∃ effect stack, operate pool frame.locals next instruction frame.stack = .ok effect stack ∧
        commit { frame with stack } next effect = .ok (after, control) := by
  unfold execute
  cases operate pool frame.locals next instruction frame.stack with
  | error fault stack => simp
  | ok effect stack =>
    cases committed : commit { frame with stack } next effect with
    | error fault => simp [committed]
    | ok result =>
      obtain ⟨changed, asked⟩ := result
      simp [committed, and_comm]

theorem step_eq_ok {control : Control} :
    step pool frame = .ok control after ↔
      ∃ instruction next, frame.fetch = .ok (instruction, next) ∧
        execute pool instruction next frame = .ok control after := by
  unfold step
  cases frame.fetch with
  | error fault => simp
  | ok current =>
    obtain ⟨instruction, next⟩ := current
    simp

theorem control_eq_of_stays {next pc : Nat} {flow : Flow} {control : Control}
    (stays : flow.StaysInFrame) (followed : frame.follow next flow = .ok (pc, control)) :
    control = .continue := by
  cases flow with
  | invokeStatic index | leave value => exact stays.elim
  | next =>
    cases followed
    rfl
  | jump offset | resume address =>
    obtain ⟨address, -, moved⟩ := except_bind_eq_ok.mp followed
    cases moved
    rfl
  | unsupported => cases followed

theorem leaving_instruction {instruction : Instruction} {next : Nat} {control : Control}
    (executed : execute pool instruction next frame = .ok control after)
    (asks : control ≠ .continue) :
    (∃ index, instruction = .invoke .static index) ∨ (∃ type, instruction = .returnValue type) ∨
      instruction = .returnVoid := by
  by_contra other
  push Not at other
  obtain ⟨no_call, no_value, no_return⟩ := other
  obtain ⟨effect, stack, operated, committed⟩ := execute_eq_ok.mp executed
  obtain ⟨locals, pc, -, followed, -⟩ := commit_eq_ok.mp committed
  exact asks (control_eq_of_stays (stays_of_operate no_call no_value no_return operated) followed)

theorem execute_invokeStatic {index : ConstantIndex} {next : Nat} :
    execute pool (.invoke .static index) next frame =
      .ok (.invokeStatic index) { frame with pc := next } :=
  rfl

theorem execute_returnVoid {next : Nat} :
    execute pool .returnVoid next frame = .ok (.leave none) frame :=
  rfl

theorem execute_returnValue_eq_ok {type : StorageType} {next : Nat} {control : Control} :
    execute pool (.returnValue type) next frame = .ok control after ↔
      ∃ cell stack, OperandStack.popWidth type.slotCount frame.stack = .ok cell stack ∧
        control = .leave (some cell) ∧ after = { frame with stack } := by
  have operated : operate pool frame.locals next (.returnValue type) =
      OperandStack.popWidth type.slotCount >>= fun cell => pure (.follow (.leave (some cell))) :=
    rfl
  rw [execute_eq_ok, operated]
  simp only [bind_eq_ok]
  constructor
  · rintro ⟨_, stack, ⟨cell, between, popped, rest⟩, committed⟩
    cases rest
    cases committed
    exact ⟨cell, stack, popped, rfl, rfl⟩
  · rintro ⟨cell, stack, popped, rfl, rfl⟩
    exact ⟨_, stack, ⟨cell, stack, popped, rfl⟩, rfl⟩

/-- The current instruction returns, with this value or without one. -/
inductive Returns (frame : Frame) : Option Cell → Prop where
  | void {next : Nat} (fetched : frame.fetch = .ok (.returnVoid, next)) : Returns frame none
  | value {type : StorageType} {next : Nat} {cell : Cell} {others : List Cell}
      (fetched : frame.fetch = .ok (.returnValue type, next))
      (cells_eq : frame.stack.cells = cell :: others) (width_eq : width cell = type.slotCount) :
      Returns frame (some cell)

theorem step_leave_iff {value : Option Cell} :
    (∃ after, step pool frame = .ok (.leave value) after) ↔ frame.Returns value := by
  constructor
  · rintro ⟨after, stepped⟩
    obtain ⟨instruction, next, fetched, executed⟩ := step_eq_ok.mp stepped
    rcases leaving_instruction executed nofun with ⟨index, rfl⟩ | ⟨type, rfl⟩ | rfl
    · cases executed
    · obtain ⟨cell, stack, popped, asked, -⟩ := execute_returnValue_eq_ok.mp executed
      cases asked
      obtain ⟨cells_eq, -, width_eq⟩ := OperandStack.popWidth_eq_ok.mp popped
      exact .value fetched cells_eq width_eq
    · cases executed
      exact .void fetched
  · intro returns
    cases returns with
    | void fetched => exact ⟨frame, step_eq_ok.mpr ⟨_, _, fetched, execute_returnVoid⟩⟩
    | @value type next cell others fetched cells_eq width_eq =>
      have popped := OperandStack.popWidth_eq_ok.mpr
        ⟨cells_eq, OperandStack.capacity_ofCells frame.stack.capacity others, width_eq⟩
      exact ⟨_, step_eq_ok.mpr
        ⟨_, _, fetched, execute_returnValue_eq_ok.mpr ⟨cell, _, popped, rfl, rfl⟩⟩⟩

theorem step_eq_ok_invokeStatic {index : ConstantIndex} :
    step pool frame = .ok (.invokeStatic index) after ↔
      ∃ next, frame.fetch = .ok (.invoke .static index, next) ∧
        after = { frame with pc := next } := by
  constructor
  · intro stepped
    obtain ⟨instruction, next, fetched, executed⟩ := step_eq_ok.mp stepped
    rcases leaving_instruction executed nofun with ⟨called, rfl⟩ | ⟨type, rfl⟩ | rfl
    · cases executed
      exact ⟨next, fetched, rfl⟩
    · obtain ⟨cell, stack, -, asked, -⟩ := execute_returnValue_eq_ok.mp executed
      cases asked
    · cases executed
  · rintro ⟨next, fetched, rfl⟩
    exact step_eq_ok.mpr ⟨_, _, fetched, execute_invokeStatic⟩

end Frame

end ClassMachine
