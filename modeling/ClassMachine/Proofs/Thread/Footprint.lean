import ClassMachine.Proofs.Frame.Control
import ClassMachine.Proofs.Thread.Composition

set_option autoImplicit false

/-!
# What a step can change

A step works on the innermost frame. It changes no other frame unless it calls a method, which adds a
frame, or returns, which removes one and can push a value for the next. A step that fails leaves the
frames beneath the innermost one alone and tells where that one was before the step.
-/

namespace ClassMachine

open Outcome

namespace FrameStack

/-- What a step that succeeds makes of these frames, of which `frame` is the innermost. -/
inductive Moves (classFile : ClassFile) (frame : Frame) (callers : FrameStack) :
    StepOutcome → FrameStack → Prop where
  /-- Only the innermost frame has changed. -/
  | stays {changed : Frame} (kept : Frame.KeepsCode frame changed) :
    Moves classFile frame callers .running (changed :: callers)
  /-- A method runs on the arguments, which were the topmost cells of the innermost frame. -/
  | calls {index : ConstantIndex} {next methodIndex : Nat} {arguments : List Cell}
      {stack : OperandStack} {callee : Frame}
      (fetched : frame.fetch = .ok (.invoke .static index, next))
      (resolved : classFile.resolveStatic index = .ok methodIndex)
      (cells_eq : frame.stack.cells = arguments.reverse ++ stack.cells)
      (capacity_eq : stack.capacity = frame.stack.capacity)
      (entered : classFile.newFrame methodIndex arguments = .ok callee) :
    Moves classFile frame callers .running (callee :: { frame with pc := next, stack } :: callers)
  /-- The outermost frame has returned. -/
  | ends {value : Option Cell} (returns : frame.Returns value) (outermost : callers = []) :
    Moves classFile frame callers (.finished value) []
  | returnsVoid (returns : frame.Returns none) (called : callers ≠ []) :
    Moves classFile frame callers .running callers
  | returnsValue {cell : Cell} {caller : Frame} {others : FrameStack}
      (returns : frame.Returns (some cell)) (called : callers = caller :: others)
      (fits : caller.stack.depth + width cell ≤ caller.stack.capacity) :
    Moves classFile frame callers .running
      ({ caller with stack := caller.stack.withCell cell } :: others)

/-- The current instruction returns a value for which the next frame has no room. -/
def ReturnOverflows (frame : Frame) (callers : FrameStack) : Prop :=
  ∃ cell caller others, frame.Returns (some cell) ∧ callers = caller :: others ∧
    caller.stack.capacity < caller.stack.depth + width cell

/-- What a step that fails leaves of these frames. -/
inductive Remains (frame : Frame) (callers : FrameStack) : FrameStack → Prop where
  /-- The innermost frame has changed at most. -/
  | innermost {changed : Frame} (fits : ¬ReturnOverflows frame callers)
      (kept : Frame.KeepsCode frame changed) : Remains frame callers (changed :: callers)
  /-- The innermost frame has returned and is gone, and so is its value. -/
  | callers (overflows : ReturnOverflows frame callers) : Remains frame callers callers

section Calls

variable {classFile : ClassFile} {limit : Nat} {frame : Frame} {callers after : FrameStack}

theorem call_cons_eq_ok {index : ConstantIndex} {outcome : StepOutcome}
    (called : call classFile limit index (frame :: callers) = .ok outcome after) :
    outcome = .running ∧ ∃ methodIndex arguments stack callee,
      classFile.resolveStatic index = .ok methodIndex ∧
      frame.stack.cells = arguments.reverse ++ stack.cells ∧
      stack.capacity = frame.stack.capacity ∧
      classFile.newFrame methodIndex arguments = .ok callee ∧
      after = callee :: { frame with stack } :: callers := by
  obtain ⟨methodIndex, _, found, rest⟩ := bind_eq_ok.mp called
  obtain ⟨resolved, rfl⟩ := ofExcept_eq_ok.mp found
  obtain ⟨count, _, counted, rest⟩ := bind_eq_ok.mp rest
  obtain ⟨-, rfl⟩ := ofExcept_eq_ok.mp counted
  obtain ⟨arguments, between, popped, rest⟩ := bind_eq_ok.mp rest
  change onTop (Thread.onStack (OperandStack.popCells count)) frame callers = _ at popped
  obtain ⟨changed, onFrame, rfl⟩ := onTop_eq_ok.mp popped
  obtain ⟨stack, taken, rfl⟩ := onStack_eq_ok.mp onFrame
  obtain ⟨cells_eq, capacity_eq, -⟩ := OperandStack.popCells_eq_ok.mp taken
  obtain ⟨_, _, entered, rest⟩ := bind_eq_ok.mp rest
  obtain ⟨-, callee, made, rfl⟩ := enter_eq_ok.mp entered
  cases rest
  exact ⟨rfl, methodIndex, arguments, stack, callee, resolved, cells_eq, capacity_eq, made, rfl⟩

theorem call_cons_eq_error {index : ConstantIndex} {fault : Fault}
    (failed : call classFile limit index (frame :: callers) = .error fault after) :
    ∃ changed, Frame.KeepsCode frame changed ∧ after = changed :: callers := by
  have same : ∃ changed, Frame.KeepsCode frame changed ∧ frame :: callers = changed :: callers :=
    ⟨frame, Chain.refl frame, rfl⟩
  rcases bind_eq_error.mp failed with unresolved | ⟨methodIndex, _, resolved, rest⟩
  · rwa [← (ofExcept_eq_error.mp unresolved).2]
  obtain ⟨-, rfl⟩ := ofExcept_eq_ok.mp resolved
  rcases bind_eq_error.mp rest with uncounted | ⟨count, _, counted, rest⟩
  · rwa [← (ofExcept_eq_error.mp uncounted).2]
  obtain ⟨-, rfl⟩ := ofExcept_eq_ok.mp counted
  -- From here on the arguments may be gone.
  have popped : ∃ changed, Frame.KeepsCode frame changed ∧
      state (popArguments count (frame :: callers)) = changed :: callers :=
    ⟨_, Respects.related frame, state_onTop (Thread.onStack (OperandStack.popCells count))⟩
  rcases bind_eq_error.mp rest with unpopped | ⟨arguments, between, taken, rest⟩
  · rwa [unpopped] at popped
  rw [taken] at popped
  rcases bind_eq_error.mp rest with refused | ⟨_, _, _, rest⟩
  · rwa [enter_eq_error refused]
  cases rest

end Calls

section Advance

variable {classFile : ClassFile} {limit : Nat} {frame : Frame} {callers after : FrameStack}

theorem moves_of_deliver {value : Option Cell} {outcome : StepOutcome}
    (returns : frame.Returns value) (delivered : deliver value callers = .ok outcome after) :
    Moves classFile frame callers outcome after := by
  cases callers with
  | nil =>
    cases delivered
    exact .ends returns rfl
  | cons caller others =>
    cases value with
    | none =>
      cases delivered
      exact .returnsVoid returns (List.cons_ne_nil caller others)
    | some cell =>
      by_cases fits : caller.stack.depth + width cell ≤ caller.stack.capacity
      · rw [deliver_of_fits others fits] at delivered
        cases delivered
        exact .returnsValue returns rfl fits
      · rw [deliver_of_full others (Nat.lt_of_not_le fits)] at delivered
        cases delivered

theorem returnOverflows_of_deliver {value : Option Cell} {fault : Fault}
    (returns : frame.Returns value) (refused : deliver value callers = .error fault after) :
    ReturnOverflows frame callers := by
  cases callers with
  | nil => cases refused
  | cons caller others =>
    cases value with
    | none => cases refused
    | some cell =>
      refine ⟨cell, caller, others, returns, rfl, ?_⟩
      by_contra fits
      rw [deliver_of_fits others (Nat.le_of_not_lt fits)] at refused
      cases refused

/-- Every instruction that succeeds makes one of these moves. -/
theorem moves_of_advance {outcome : StepOutcome}
    (advanced : advance classFile limit (frame :: callers) = .ok outcome after) :
    Moves classFile frame callers outcome after := by
  obtain ⟨control, _, onFrame, responded⟩ := bind_eq_ok.mp advanced
  obtain ⟨changed, stepped, rfl⟩ := onTop_eq_ok.mp onFrame
  cases control with
  | «continue» =>
    have kept : Frame.KeepsCode frame (state (Frame.step classFile.constants frame)) :=
      Respects.related frame
    rw [stepped] at kept
    cases responded
    exact .stays kept
  | invokeStatic index =>
    obtain ⟨next, fetched, rfl⟩ := Frame.step_eq_ok_invokeStatic.mp stepped
    obtain ⟨rfl, methodIndex, arguments, stack, callee, resolved, cells_eq, capacity_eq, entered,
      rfl⟩ := call_cons_eq_ok responded
    exact .calls fetched resolved cells_eq capacity_eq entered
  | leave value => exact moves_of_deliver (Frame.step_leave_iff.mp ⟨changed, stepped⟩) responded

theorem advance_of_returnOverflows (overflows : ReturnOverflows frame callers) :
    advance classFile limit (frame :: callers) = .error .operandStackOverflow callers := by
  obtain ⟨cell, caller, others, returns, rfl, full⟩ := overflows
  obtain ⟨changed, stepped⟩ :
      ∃ changed, Frame.step classFile.constants frame = .ok (.leave (some cell)) changed :=
    Frame.step_leave_iff.mpr returns
  exact (bind_of_ok (onTop_eq_ok.mpr ⟨changed, stepped, rfl⟩)).trans (deliver_of_full others full)

theorem remains_of_advance {fault : Fault}
    (failed : advance classFile limit (frame :: callers) = .error fault after) :
    Remains frame callers after := by
  by_cases overflows : ReturnOverflows frame callers
  · rw [advance_of_returnOverflows overflows] at failed
    cases failed
    exact .callers overflows
  have kept : Frame.KeepsCode frame (state (Frame.step classFile.constants frame)) :=
    Respects.related frame
  have stepped_eq : state (onTop (Frame.step classFile.constants) frame callers) =
      state (Frame.step classFile.constants frame) :: callers := state_onTop _
  rcases bind_eq_error.mp failed with failed | ⟨control, _, onFrame, responded⟩
  · rw [failed, state_error] at stepped_eq
    rw [stepped_eq]
    exact .innermost overflows kept
  obtain ⟨changed, stepped, rfl⟩ := onTop_eq_ok.mp onFrame
  rw [stepped] at kept
  cases control with
  | «continue» => cases responded
  | invokeStatic index =>
    obtain ⟨called, called_kept, rfl⟩ := call_cons_eq_error responded
    exact .innermost overflows (Chain.trans kept called_kept)
  | leave value =>
    have returns := Frame.step_leave_iff.mp ⟨changed, stepped⟩
    exact absurd (returnOverflows_of_deliver returns responded) overflows

end Advance

end FrameStack

structure ExecutionError.Locates (error : ExecutionError) (classFile : ClassFile) (frame : Frame) :
    Prop where
  method_eq : error.method = classFile.methodName frame.methodIndex
  pc_eq : error.pc = frame.pc
  opcode_eq : error.opcode = frame.opcode?
  opcode_eq_none_iff : error.opcode = none ↔ frame.pc = frame.code.instructions.length

theorem Frame.opcode?_eq_none_iff {frame : Frame}
    (inside : frame.pc ≤ frame.code.instructions.length) :
    frame.opcode? = none ↔ frame.pc = frame.code.instructions.length := by
  unfold opcode?
  rw [List.getElem?_eq_none_iff]
  omega

namespace Thread

theorem locates_of_step {thread after : Thread} {frame : Frame} {callers : List Frame}
    {error : ExecutionError} (frames_eq : thread.frames = frame :: callers)
    (inside : frame.pc ≤ frame.code.instructions.length)
    (failed : step thread = .error error after) : error.Locates thread.classFile frame := by
  rw [step_eq_error frames_eq failed]
  exact ⟨rfl, rfl, rfl, Frame.opcode?_eq_none_iff inside⟩

/-- A step changes the innermost frame alone, or adds a frame for a call and takes its arguments
from the one that calls, or removes the innermost frame and passes its value to the next. If it
fails, it has changed the innermost frame at most, except that a frame whose value does not fit into
the next is gone. Its error always tells where the innermost frame was before. -/
theorem step_footprint {classFile : ClassFile} {settings : Settings} {thread : Thread}
    {frame : Frame} {callers : FrameStack} (reachable : Reachable classFile settings thread)
    (frames_eq : thread.frames = frame :: callers) :
    (∀ outcome after, step thread = .ok outcome after →
      FrameStack.Moves classFile frame callers outcome after.frames) ∧
    (∀ error after, step thread = .error error after →
      error.Locates classFile frame ∧ FrameStack.Remains frame callers after.frames) ∧
    (FrameStack.ReturnOverflows frame callers → ∃ error after, step thread = .error error after ∧
      error.fault = .operandStackOverflow ∧ after.frames = callers) := by
  have steady := reachable.steady
  have mirrors := mirrors_step steady
  rw [frames_eq] at mirrors
  refine ⟨?_, ?_, ?_⟩
  · intro outcome after succeeded
    rw [succeeded] at mirrors
    exact FrameStack.moves_of_advance mirrors.frames_eq.symm
  · intro error after failed
    rw [failed] at mirrors
    have inside : frame.pc ≤ frame.code.instructions.length :=
      (reachable.frames_sound.runs frame (frames_eq ▸ List.mem_cons_self)).withinCode.pc_le
    refine ⟨?_, FrameStack.remains_of_advance mirrors.frames_eq.symm⟩
    rw [← steady.classFile_eq]
    exact locates_of_step frames_eq inside failed
  · intro overflows
    rw [FrameStack.advance_of_returnOverflows overflows] at mirrors
    obtain ⟨error, after, failed, fault_eq, after_eq, -⟩ := mirrors.error
    exact ⟨error, after, failed, fault_eq, after_eq⟩

/-- A thread on which `answering` is about to return 42 to another activation of itself, whose
operand stack is full. -/
def overflowing : Thread :=
  after answering ⟨2, false⟩ [.invoke "f" "()I" [], .step, .invoke "f" "()I" [], .step]

theorem step_footprint_overflowing :
    ∃ frame callers after, overflowing.frames = frame :: callers ∧
      step overflowing = .error ⟨"f:()I", 2, some 0xac, .operandStackOverflow⟩ after ∧
      ExecutionError.Locates ⟨"f:()I", 2, some 0xac, .operandStackOverflow⟩ answering frame ∧
      FrameStack.Remains frame callers after.frames ∧ after.depth = 1 := by
  have failed : step overflowing =
      .error ⟨"f:()I", 2, some 0xac, .operandStackOverflow⟩ (state (step overflowing)) := by cbv
  have depth_eq : (state (step overflowing)).depth = 1 := by cbv
  have two : overflowing.frames.length = 2 := by cbv
  obtain ⟨frame, callers, frames_eq⟩ := List.exists_cons_of_length_eq_add_one two
  obtain ⟨locates, remains⟩ := (step_footprint ⟨_, rfl⟩ frames_eq).2.1 _ _ failed
  exact ⟨frame, callers, _, frames_eq, failed, locates, remains, depth_eq⟩

end Thread

end ClassMachine
