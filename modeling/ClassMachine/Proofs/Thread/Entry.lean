import ClassMachine.Proofs.ClassFile.Signatures
import ClassMachine.Proofs.Frame.Control
import ClassMachine.Proofs.Frame.LocalVariables
import ClassMachine.Proofs.Thread.History

set_option autoImplicit false

/-!
# How methods are entered

A call of a method either pushes one frame, whose first local variables hold the arguments and whose
others are zero, or changes no frame. Whether it does is decided by the method and the arguments,
and by how many frames there are. An `invokestatic` is such a call: it takes its arguments from the
frame that it belongs to, and then enters the method just as an invocation from outside does.
-/

namespace ClassMachine

open Outcome

theorem checkArguments_eq_ok {expected : List Nat} {arguments : List Cell} :
    checkArguments expected arguments = .ok () ↔ arguments.map width = expected := by
  unfold checkArguments
  constructor
  · intro checked
    split at checked
    next => cases checked
    next =>
      split at checked
      next => cases checked
      next same => exact not_not.mp same
  · rintro rfl
    simp

/-- The arguments of a call are not those that the method asks for. -/
inductive Fault.RefusesArguments : Fault → Prop where
  | count (expected found : Nat) : RefusesArguments (.wrongArgumentCount expected found)
  | widths : RefusesArguments .mismatchedWidth

namespace ClassFile

/-- This method can be called with these arguments: they have the widths that its descriptor asks
for, after that of the object if the method runs on one, and its code is found and has enough local
variables for them. -/
structure Accepts (classFile : ClassFile) (methodIndex : Nat) (arguments : List Cell)
    (code : Code) : Prop where
  typed : ∃ method descriptor, classFile.methods[methodIndex]? = some method ∧
    method.type classFile.constants = .ok descriptor ∧
    arguments.map width = descriptor.argumentWidths !method.isStatic
  hasCode : classFile.HasCode methodIndex code
  fits : totalWidth arguments ≤ code.maxLocals.toNat

theorem newFrame_eq_ok {classFile : ClassFile} {methodIndex : Nat} {arguments : List Cell}
    {frame : Frame} :
    classFile.newFrame methodIndex arguments = .ok frame ↔
      ∃ code, classFile.Accepts methodIndex arguments code ∧
        frame = { Frame.enter methodIndex code with
          locals := .holding code.maxLocals.toNat arguments } := by
  have stores {code : Code} {locals : LocalVariables} :
      LocalVariables.storeCells 0 arguments (Frame.enter methodIndex code).locals = .ok locals ↔
        totalWidth arguments ≤ code.maxLocals.toNat ∧
          locals = .holding code.maxLocals.toNat arguments :=
    LocalVariables.storeCells_zeros_eq_ok code.maxLocals.toNat_lt
  unfold newFrame
  constructor
  · intro made
    split at made
    next => cases made
    next method found =>
      obtain ⟨descriptor, typed, made⟩ := except_bind_eq_ok.mp made
      obtain ⟨_, checked, made⟩ := except_bind_eq_ok.mp made
      obtain ⟨code, fresh, made⟩ := except_bind_eq_ok.mp made
      obtain ⟨locals, stored, made⟩ := except_bind_eq_ok.mp made
      cases made
      obtain ⟨fits, rfl⟩ := stores.mp stored
      exact ⟨code,
        { typed := ⟨method, descriptor, found, mapError_eq_ok.mp typed,
            checkArguments_eq_ok.mp checked⟩
          hasCode := freshCode_eq_ok.mp fresh
          fits }, rfl⟩
  · rintro ⟨code, ⟨⟨method, descriptor, found, typed, widths_eq⟩, hasCode, fits⟩, rfl⟩
    rw [found]
    exact except_bind_eq_ok.mpr ⟨descriptor, mapError_eq_ok.mpr typed,
      except_bind_eq_ok.mpr ⟨(), checkArguments_eq_ok.mpr widths_eq,
        except_bind_eq_ok.mpr ⟨code, freshCode_eq_ok.mpr hasCode,
          except_bind_eq_ok.mpr ⟨_, stores.mpr ⟨fits, rfl⟩, rfl⟩⟩⟩⟩

theorem not_refusesArguments_of_newFrame {classFile : ClassFile} {methodIndex : Nat}
    {arguments : List Cell} {method : Method} {type : MethodDescriptor} {fault : Fault}
    (found : classFile.methods[methodIndex]? = some method)
    (typed : method.type classFile.constants = .ok type)
    (fits : arguments.map width = type.argumentWidths !method.isStatic)
    (failed : classFile.newFrame methodIndex arguments = .error fault) :
    ¬fault.RefusesArguments := by
  unfold newFrame at failed
  rw [found] at failed
  rcases except_bind_eq_error.mp failed with unread | ⟨descriptor, read, failed⟩
  · rw [typed] at unread
    cases unread
  obtain rfl : type = descriptor := Except.ok.inj (typed.symm.trans (mapError_eq_ok.mp read))
  rcases except_bind_eq_error.mp failed with refused | ⟨_, -, failed⟩
  · rw [checkArguments_eq_ok.mpr fits] at refused
    cases refused
  rcases except_bind_eq_error.mp failed with missing | ⟨code, -, failed⟩
  · rcases freshCode_eq_error missing with rfl | ⟨error, rfl⟩ <;> nofun
  rcases except_bind_eq_error.mp failed with unstored | ⟨locals, -, made⟩
  · obtain ⟨reached, rfl⟩ := LocalVariables.storeCells_eq_error unstored
    nofun
  · cases made

theorem resolveStatic_eq_ok {classFile : ClassFile} {index : ConstantIndex} {methodIndex : Nat} :
    classFile.resolveStatic index = .ok methodIndex ↔
      ∃ reference, classFile.constants.methodRef index = .ok reference ∧
        classFile.thisClassName = .ok reference.owner ∧
        classFile.findMethodIndex reference.name reference.descriptor = .ok (some methodIndex) ∧
        classFile.methods[methodIndex]?.any Method.isStatic := by
  unfold resolveStatic
  constructor
  · intro resolved
    obtain ⟨reference, referred, resolved⟩ := except_bind_eq_ok.mp resolved
    obtain ⟨thisClassName, named, resolved⟩ := except_bind_eq_ok.mp resolved
    dsimp only at resolved
    split at resolved
    next => cases resolved
    next same =>
      obtain rfl := not_not.mp same
      obtain ⟨found, sought, resolved⟩ := except_bind_eq_ok.mp resolved
      cases found with
      | none => cases resolved
      | some position =>
        dsimp only at resolved
        split at resolved
        next static =>
          cases resolved
          exact ⟨reference, mapError_eq_ok.mp referred, mapError_eq_ok.mp named,
            mapError_eq_ok.mp sought, static⟩
        next => cases resolved
  · rintro ⟨reference, referred, named, found, static⟩
    refine except_bind_eq_ok.mpr ⟨reference, mapError_eq_ok.mpr referred, ?_⟩
    refine except_bind_eq_ok.mpr ⟨reference.owner, mapError_eq_ok.mpr named, ?_⟩
    dsimp only
    rw [if_neg (not_not.mpr rfl)]
    refine except_bind_eq_ok.mpr ⟨some methodIndex, mapError_eq_ok.mpr found, ?_⟩
    exact if_pos static

end ClassFile

namespace FrameStack

variable {classFile : ClassFile} {limit : Nat} {name descriptor : String} {arguments : List Cell}
  {frames after : FrameStack}

theorem start_eq_ok :
    start classFile limit name descriptor arguments frames = .ok () after ↔
      ∃ methodIndex code,
        classFile.findMethodIndex name descriptor = .ok (some methodIndex) ∧
        frames.length < limit ∧ classFile.Accepts methodIndex arguments code ∧
        after = { Frame.enter methodIndex code with
          locals := .holding code.maxLocals.toNat arguments } :: frames := by
  have entered {methodIndex : Nat} :
      enter classFile limit methodIndex arguments frames = .ok () after ↔
        ∃ code, frames.length < limit ∧ classFile.Accepts methodIndex arguments code ∧
          after = { Frame.enter methodIndex code with
            locals := .holding code.maxLocals.toNat arguments } :: frames := by
    rw [enter_eq_ok]
    constructor
    · rintro ⟨room, _, made, rfl⟩
      obtain ⟨code, accepts, rfl⟩ := ClassFile.newFrame_eq_ok.mp made
      exact ⟨code, room, accepts, rfl⟩
    · rintro ⟨code, room, accepts, rfl⟩
      exact ⟨room, _, ClassFile.newFrame_eq_ok.mpr ⟨code, accepts, rfl⟩, rfl⟩
  unfold start
  cases classFile.findMethodIndex name descriptor with
  | error error => simp
  | ok found =>
    cases found with
    | none => simp
    | some methodIndex => simp [entered]

theorem start_eq_error {fault : Fault}
    (refused : start classFile limit name descriptor arguments frames = .error fault after) :
    after = frames := by
  unfold start at refused
  split at refused
  next =>
    cases refused
    rfl
  next =>
    cases refused
    rfl
  next => exact enter_eq_error refused

end FrameStack

namespace Thread

section Invoke

variable {thread after : Thread} {name descriptor : String} {arguments : List Cell}

theorem invoke_eq_ok :
    invoke name descriptor arguments thread = .ok () after ↔
      ∃ methodIndex, thread.classFile.findMethodIndex name descriptor = .ok (some methodIndex) ∧
        pushFrame methodIndex arguments thread = .ok () after := by
  constructor
  · intro invoked
    unfold invoke at invoked
    dsimp only at invoked
    split at invoked
    next reached entered =>
      cases invoked
      obtain ⟨found, _, sought, entered⟩ := bind_eq_ok.mp entered
      obtain ⟨located, rfl⟩ := ofExcept_eq_ok.mp sought
      cases found with
      | none => cases entered
      | some methodIndex => exact ⟨methodIndex, mapError_eq_ok.mp located, entered⟩
    next => cases invoked
  · rintro ⟨methodIndex, found, pushed⟩
    unfold invoke
    simp only [found, Except.mapError, ofExcept_ok, pure_bind, pushed]

end Invoke

section CallStatic

variable {thread after : Thread} {frame : Frame} {callers : List Frame} {outcome : StepOutcome}

theorem popArguments_eq_ok (frames_eq : thread.frames = frame :: callers) {count : Nat}
    {arguments : List Cell} :
    popArguments count thread = .ok arguments after ↔
      ∃ stack, OperandStack.popCells count frame.stack = .ok arguments stack ∧
        after = { thread with frames := { frame with stack } :: callers } := by
  unfold popArguments
  rw [get_bind_apply, frames_eq]
  dsimp only
  unfold onFrame onStack
  cases OperandStack.popCells count frame.stack with
  | ok popped stack => simp [eq_comm]
  | error fault stack => simp

theorem classFile_popArguments {count : Nat} {arguments : List Cell}
    (popped : popArguments count thread = .ok arguments after) :
    after.classFile = thread.classFile := by
  cases frames_eq : thread.frames with
  | nil =>
    rw [popArguments, get_bind_apply, frames_eq] at popped
    cases popped
    rfl
  | cons frame callers =>
    obtain ⟨stack, -, rfl⟩ := (popArguments_eq_ok frames_eq).mp popped
    rfl

theorem callStatic_eq_ok (frames_eq : thread.frames = frame :: callers) {index : ConstantIndex} :
    callStatic index thread = .ok outcome after ↔
      outcome = .running ∧ ∃ reference methodIndex arguments others,
        thread.classFile.constants.methodRef index = .ok reference ∧
        thread.classFile.findMethodIndex reference.name reference.descriptor =
          .ok (some methodIndex) ∧
        thread.classFile.resolveStatic index = .ok methodIndex ∧
        thread.classFile.parameterCount methodIndex = .ok arguments.length ∧
        frame.stack.cells = arguments.reverse ++ others ∧
        invoke reference.name reference.descriptor arguments
          { thread with
            frames := { frame with stack := .ofCells frame.stack.capacity others } :: callers } =
          .ok () after := by
  unfold callStatic
  rw [get_bind_apply]
  simp only [bind_eq_ok, ofExcept_eq_ok, invoke_eq_ok]
  constructor
  · rintro ⟨methodIndex, _, ⟨resolved, rfl⟩, count, _, ⟨counted, rfl⟩, arguments, _, popped, _, _,
      pushed, rest⟩
    cases rest
    obtain ⟨stack, taken, rfl⟩ := (popArguments_eq_ok frames_eq).mp popped
    obtain ⟨cells_eq, capacity_eq, rfl⟩ := OperandStack.popCells_eq_ok.mp taken
    obtain ⟨reference, referred, -, found, -⟩ := ClassFile.resolveStatic_eq_ok.mp resolved
    have stack_eq : stack = .ofCells frame.stack.capacity stack.cells :=
      OperandStack.ext rfl capacity_eq
    rw [stack_eq] at pushed
    exact ⟨rfl, reference, methodIndex, arguments, stack.cells, referred, found, resolved, counted,
      cells_eq, methodIndex, found, pushed⟩
  · rintro ⟨rfl, reference, methodIndex, arguments, others, -, found, resolved, counted, cells_eq,
      position, same_found, pushed⟩
    obtain rfl : position = methodIndex := by
      rw [found] at same_found
      cases same_found
      rfl
    have taken : OperandStack.popCells arguments.length frame.stack =
        .ok arguments (.ofCells frame.stack.capacity others) :=
      OperandStack.popCells_eq_ok.mpr ⟨cells_eq, rfl, rfl⟩
    have popped := (popArguments_eq_ok frames_eq).mpr ⟨_, taken, rfl⟩
    exact ⟨position, _, ⟨resolved, rfl⟩, _, _, ⟨counted, rfl⟩, arguments, _, popped, (), after,
      pushed, rfl⟩

/-- The thread once its log has been told of an instruction, if it is told of any. -/
def telling (thread : Thread) (frame : Frame) (instruction : Instruction) : Thread :=
  if thread.settings.traceInstructions then
    { thread with
      log := .executing thread.depth frame.pc frame.opcode? instruction :: thread.log }
  else thread

theorem step_eq_ok (frames_eq : thread.frames = frame :: callers) :
    step thread = .ok outcome after ↔ stepFrame frame callers thread = .ok outcome after := by
  unfold step
  rw [frames_eq]
  dsimp only
  generalize stepFrame frame callers thread = stepped
  cases stepped <;> simp

theorem step_eq_ok_of_invokeStatic (frames_eq : thread.frames = frame :: callers)
    {index : ConstantIndex} {next : Nat}
    (fetched : frame.fetch = .ok (.invoke .static index, next)) :
    step thread = .ok outcome after ↔
      callStatic index
        { thread.telling frame (.invoke .static index) with
          frames := { frame with pc := next } :: callers } = .ok outcome after := by
  rw [step_eq_ok frames_eq]
  unfold stepFrame telling
  rw [fetched, ofExcept_ok, pure_bind]
  dsimp only
  rw [get_bind_apply]
  split <;> rfl

end CallStatic

/-- An invocation succeeds exactly if a method of this name and descriptor is found, there may be one
more frame, and the method can be called with these arguments. It then pushes a frame at the start of
the method's code, with an empty operand stack, whose local variables hold the arguments and are zero
beyond them; otherwise it changes no frame. A step at an `invokestatic` succeeds exactly if, once the
program counter has moved on and as many cells as the method has parameters are off the operand
stack, an invocation of this method on these cells does, and then both have the same outcome. -/
theorem entry_exact {classFile : ClassFile} {settings : Settings} {thread : Thread}
    (reachable : Reachable classFile settings thread) :
    (∀ name descriptor arguments,
      ((∃ after, invoke name descriptor arguments thread = .ok () after) ↔
        ∃ methodIndex method code,
          Method.IsFirstMatch classFile.constants name descriptor classFile.methods methodIndex
            method ∧
          thread.depth < settings.maxCallDepth ∧ classFile.Accepts methodIndex arguments code) ∧
      (∀ after, invoke name descriptor arguments thread = .ok () after →
        ∃ methodIndex method code,
          Method.IsFirstMatch classFile.constants name descriptor classFile.methods methodIndex
            method ∧
          classFile.HasCode methodIndex code ∧
          after.frames =
            { methodIndex
              pc := 0
              stack := .empty code.maxStack.toNat
              locals := .holding code.maxLocals.toNat arguments
              code } :: thread.frames) ∧
      ∀ error after, invoke name descriptor arguments thread = .error error after →
        after.frames = thread.frames) ∧
    ∀ frame callers index next, thread.frames = frame :: callers →
      frame.fetch = .ok (.invoke .static index, next) →
      ∀ outcome after, step thread = .ok outcome after ↔
        outcome = .running ∧ ∃ reference methodIndex arguments others,
          classFile.constants.methodRef index = .ok reference ∧
          (∃ method, Method.IsFirstMatch classFile.constants reference.name reference.descriptor
            classFile.methods methodIndex method) ∧
          classFile.resolveStatic index = .ok methodIndex ∧
          classFile.parameterCount methodIndex = .ok arguments.length ∧
          frame.stack.cells = arguments.reverse ++ others ∧
          invoke reference.name reference.descriptor arguments
            { thread.telling frame (.invoke .static index) with
              frames := { frame with
                pc := next
                stack := .ofCells frame.stack.capacity others } :: callers } = .ok () after := by
  refine ⟨fun name descriptor arguments => ?_, ?_⟩
  · have mirrors := mirrors_invoke reachable.steady name descriptor arguments
    refine ⟨⟨?_, ?_⟩, ?_, ?_⟩
    · rintro ⟨after, invoked⟩
      rw [invoked] at mirrors
      obtain ⟨methodIndex, code, found, room, accepts, -⟩ :=
        FrameStack.start_eq_ok.mp mirrors.frames_eq.symm
      obtain ⟨method, first⟩ := ClassFile.findMethodIndex_eq_some.mp found
      exact ⟨methodIndex, method, code, first, room, accepts⟩
    · rintro ⟨methodIndex, method, code, first, room, accepts⟩
      have found := ClassFile.findMethodIndex_eq_some.mpr ⟨method, first⟩
      rw [FrameStack.start_eq_ok.mpr ⟨methodIndex, code, found, room, accepts, rfl⟩] at mirrors
      obtain ⟨after, invoked, -⟩ := mirrors.ok
      exact ⟨after, invoked⟩
    · intro after invoked
      rw [invoked] at mirrors
      obtain ⟨methodIndex, code, found, -, accepts, frames_eq⟩ :=
        FrameStack.start_eq_ok.mp mirrors.frames_eq.symm
      obtain ⟨method, first⟩ := ClassFile.findMethodIndex_eq_some.mp found
      exact ⟨methodIndex, method, code, first, accepts.hasCode, frames_eq⟩
    · intro error after failed
      rw [failed] at mirrors
      exact FrameStack.start_eq_error mirrors.frames_eq.symm
  · intro frame callers index next frames_eq fetched outcome after
    obtain rfl := reachable.steady.classFile_eq
    have told_class :
        (thread.telling frame (.invoke .static index)).classFile = thread.classFile := by
      unfold telling
      split <;> rfl
    rw [step_eq_ok_of_invokeStatic frames_eq fetched, callStatic_eq_ok rfl]
    simp only [told_class, ClassFile.findMethodIndex_eq_some]

/-- A class `A` whose only method, `f:(JI)V`, is static and calls itself with the same arguments. -/
def recursing : ClassFile where
  version := ⟨52, 0⟩
  constants := .ofList [.utf8 [67, 111, 100, 101], .utf8 [102], .utf8 [40, 74, 73, 41, 86],
    .utf8 [65], .classRef 4, .nameAndType 2 3, .methodRef 5 6 false]
  flags := ⟨0⟩
  thisClass := 5
  superClass := 0
  interfaces := []
  fields := []
  methods := [
    { flags := ⟨0x0008⟩
      name := 2
      descriptor := 3
      attributes := [⟨1, [0, 3, 0, 4, 0, 0, 0, 6, 0x1e, 0x1c, 0xb8, 0, 7, 0xb1, 0, 0, 0, 0]⟩] }]
  attributes := []

/-- A thread on which the method has been invoked and is about to call itself. -/
def recursingCall : Thread :=
  after recursing ⟨2, false⟩
    [.invoke "f" "(JI)V" [.wide 0x0000000100000002, .narrow 3], .step, .step]

/-- The call enters the method like an invocation with the two cells that were pushed for it, and
stores them in the first three of its four local variables. -/
theorem entry_exact_recursing :
    ∃ between entered,
      invoke "f" "(JI)V" [.wide 0x0000000100000002, .narrow 3] between = .ok () entered ∧
      step recursingCall = .ok .running entered ∧
      between.frames.map (fun frame => (frame.pc, frame.stack.cells)) = [(5, [])] ∧
      entered.frames.map (fun frame => frame.locals.slots) = [#[1, 2, 3, 0], #[1, 2, 3, 0]] := by
  have stepped : step recursingCall = .ok .running (state (step recursingCall)) := by cbv
  have entered_locals :
      (state (step recursingCall)).frames.map (fun frame => frame.locals.slots) =
        [#[1, 2, 3, 0], #[1, 2, 3, 0]] := by cbv
  have views : recursingCall.frames.map (fun frame => (frame.fetch, frame.stack.cells)) =
      [(.ok (.invoke .static 7, 5), [.narrow 3, .wide 0x0000000100000002])] := by cbv
  obtain ⟨frame, frames_eq, view⟩ := List.map_eq_singleton_iff.mp views
  obtain ⟨fetched, cells_eq⟩ := Prod.mk.inj view
  have referred : recursing.constants.methodRef 7 = .ok ⟨"A", "f", "(JI)V"⟩ := by cbv
  have resolved : recursing.resolveStatic 7 = .ok 0 := by cbv
  have counted : recursing.parameterCount 0 = .ok 2 := by cbv
  obtain ⟨-, reference, methodIndex, arguments, others, referred', -, resolved', counted',
      split_eq, invoked⟩ := ((entry_exact ⟨_, rfl⟩).2 frame [] 7 5 frames_eq fetched _ _).mp stepped
  obtain rfl := Except.ok.inj (referred.symm.trans referred')
  obtain rfl := Except.ok.inj (resolved.symm.trans resolved')
  have two : arguments.length = 2 := (Except.ok.inj (counted.symm.trans counted')).symm
  obtain ⟨first, second, rfl⟩ := List.length_eq_two.mp two
  obtain ⟨rfl, rfl, rfl⟩ : second = .narrow 3 ∧ first = .wide 0x0000000100000002 ∧ others = [] := by
    rw [cells_eq] at split_eq
    simpa [eq_comm] using split_eq
  exact ⟨_, _, invoked, stepped, rfl, entered_locals⟩

end Thread

end ClassMachine
