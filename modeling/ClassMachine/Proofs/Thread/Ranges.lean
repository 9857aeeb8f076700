import ClassMachine.Proofs.ClassFile.Code
import ClassMachine.Proofs.SlotVector
import ClassMachine.Proofs.Thread.Guarded
import ClassMachine.Proofs.Thread.Soundness

set_option autoImplicit false

/-!
# Nothing is out of range

Frames run the code of methods of the class, whose length is a word of 32 bits; what a search finds
is the position of a method; arguments are counted before they are sliced, and a local variable that
there is no room for is refused before the index moves on; the first constant lies where the pool
starts. So in every thread that calls can lead to, the guarded operations are the unguarded ones.
-/

namespace ClassMachine

open Outcome

namespace Guarded

section Vectors

theorem totalWidth_ofList {α : Type} [HasWidth α] (start : Nat) (items : List α) :
    totalWidth (.ofList start items) = some (ClassMachine.totalWidth items) := by
  rw [totalWidth, SlotVector.next_ofList, SlotVector.start_ofList,
    subtract_of_le (Nat.le_add_right ..), Nat.add_sub_cancel_left]

theorem totalWidth_constants (pool : ConstantPool) :
    totalWidth pool.constants = some pool.constants.totalWidth := by
  rw [pool.constants_eq, totalWidth_ofList, SlotVector.totalWidth, SlotVector.next_ofList,
    SlotVector.start_ofList, Nat.add_sub_cancel_left]

theorem lookup_constants (pool : ConstantPool) (offset : Nat) :
    lookup pool.constants offset = some (pool.constants.lookup offset) := by
  unfold lookup SlotVector.lookup
  by_cases small : offset < pool.constants.start
  · simp only [small, if_true]
  · cases starting : pool.constants.startingAt offset with
    | some item => simp only [small, if_false]
    | none =>
      by_cases beyond : pool.constants.insertionPoint offset = pool.constants.size ∧
          pool.constants.next ≤ offset
      · simp only [small, beyond, and_self, if_true, if_false]
      · have inside : pool.constants.lookup offset =
            .inside (pool.constants.insertionPoint offset - 1) :=
          SlotVector.lookup_eq_inside.mpr ⟨Nat.le_of_not_lt small, starting, beyond, rfl⟩
        simp only [small, beyond, if_false]
        rw [subtract_of_le (ConstantPool.insertionPoint_pos_of_inside inside), Option.map_some]

end Vectors

section Stacks

variable {α : Type} {stack : OperandStack}

/-- An outcome with the slot vector of the stack. -/
def onVector : EStateM.Result Fault OperandStack α → EStateM.Result Fault (SlotVector Cell) α
  | .ok value stack => .ok value stack.vector
  | .error fault stack => .error fault stack.vector

theorem totalWidth_vector (stack : OperandStack) : totalWidth stack.vector = some stack.depth := by
  rw [OperandStack.vector, totalWidth_ofList, totalWidth_reverse, stack.depth_eq]

theorem push_vector (small : stack.capacity < UInt64.size) (cell : Cell) :
    push stack.capacity cell stack.vector = some (onVector (OperandStack.push cell stack)) := by
  change (demand (totalWidth stack.vector) >>= _) stack.vector = _
  rw [demand_bind (totalWidth_vector stack)]
  by_cases room : stack.depth + width cell ≤ stack.capacity
  · have pushed : OperandStack.push cell stack = .ok () (stack.withCell cell) := if_pos room
    have appended := OperandStack.push_vector small pushed
    simp only [if_neg (Nat.not_lt_of_le room), appended]
    rw [pushed]
    rfl
  · have refused : OperandStack.push cell stack = .error .operandStackOverflow stack := if_neg room
    simp only [if_pos (Nat.lt_of_not_le room)]
    rw [refused]
    rfl

theorem pop_vector (stack : OperandStack) :
    pop stack.vector = some (onVector (OperandStack.pop stack)) := by
  unfold pop
  cases popped : OperandStack.pop stack with
  | ok cell after =>
    rw [OperandStack.pop_vector popped]
    rfl
  | error fault after =>
    obtain ⟨none_left, rfl, rfl⟩ := OperandStack.pop_eq_error.mp popped
    have vector_eq : after.vector = .empty 0 := by
      rw [OperandStack.vector, none_left]
      rfl
    change _ = some (EStateM.Result.error Fault.operandStackUnderflow after.vector)
    rw [vector_eq]
    rfl

theorem peek_vector_zero (stack : OperandStack) :
    stack.vector.peek 0 = .ok stack.cells.head? := by
  unfold OperandStack.vector
  cases stack.cells with
  | nil => rfl
  | cons cell cells =>
    rw [List.reverse_cons, ← SlotVector.append_ofList]
    rfl

theorem top_vector (stack : OperandStack) :
    top stack.vector =
      some (onVector ((get >>= fun stack => ofExcept stack.top : StackOperation Cell) stack)) := by
  change _ = some (onVector ((ofExcept stack.top : StackOperation Cell) stack))
  rw [top, peek_vector_zero, OperandStack.top]
  cases stack.cells <;> rfl

theorem exists_mirrors (capacity : Nat) {operation : StackOperation α}
    (composite : OperandStack.Composite operation) : ∃ guarded, Mirrors capacity guarded operation := by
  induction composite with
  | pure value => exact ⟨_, .pure value⟩
  | throw fault => exact ⟨_, .fail fault⟩
  | push cell => exact ⟨_, .push cell⟩
  | pop => exact ⟨_, .pop⟩
  | top => exact ⟨_, .top⟩
  | bind _ _ head tail =>
    obtain ⟨guarded, head⟩ := head
    choose guardedNext tail using tail
    exact ⟨_, .bind head tail⟩

theorem Mirrors.composite {capacity : Nat} {guarded : Guarded Fault (SlotVector Cell) α}
    {operation : StackOperation α} (mirrors : Mirrors capacity guarded operation) :
    OperandStack.Composite operation := by
  induction mirrors with
  | pure value => exact .pure value
  | fail fault => exact .throw fault
  | push cell => exact .push cell
  | pop => exact .pop
  | top => exact .top
  | bind _ _ head tail => exact .bind head tail

/-- What the head leaves has the same capacity, so the tail goes on with the same guards. -/
theorem Mirrors.vector_eq {capacity : Nat} (small : capacity < UInt64.size)
    {guarded : Guarded Fault (SlotVector Cell) α} {operation : StackOperation α}
    (mirrors : Mirrors capacity guarded operation) {stack : OperandStack}
    (capacity_eq : stack.capacity = capacity) :
    guarded stack.vector = some (onVector (operation stack)) := by
  induction mirrors generalizing stack with
  | pure value => rfl
  | fail fault => rfl
  | push cell =>
    subst capacity_eq
    exact push_vector small cell
  | pop => exact pop_vector stack
  | top => exact top_vector stack
  | @bind α β guarded operation guardedNext next head tail headHypothesis tailHypothesis =>
    have composite := head.composite
    have kept := (OperandStack.respects_of_composite operation).related stack
    change Guarded.bind guarded guardedNext stack.vector = _
    rw [Guarded.bind, headHypothesis capacity_eq]
    cases outcome : operation stack with
    | ok value after =>
      rw [outcome] at kept
      rw [bind_of_ok outcome]
      exact tailHypothesis value (kept.1.trans capacity_eq)
    | error fault after =>
      rw [bind_of_error outcome]
      rfl

end Stacks

section Frames

variable {σ : Type}

theorem agrees_decode (code : List UInt8) (pc : Nat) (state : σ) :
    (decode code pc).Agrees (ofExcept (Instruction.decode code pc)) state := by
  have opcode_eq : code[pc]? = (code.drop pc).head? := List.head?_drop.symm
  have operands_eq : code.drop (pc + 1) = (code.drop pc).tail := List.tail_drop.symm
  unfold decode Instruction.decode
  cases dropped : code.drop pc with
  | nil =>
    rw [opcode_eq, dropped]
    rfl
  | cons opcode operands =>
    rw [dropped] at opcode_eq operands_eq
    have inside : pc < code.length := (List.getElem?_eq_some_iff.mp opcode_eq).1
    have sliced : sliceFrom code (pc + 1) = some operands := by
      rw [sliceFrom, if_pos (Nat.succ_le_of_lt inside), operands_eq, List.tail_cons]
    rw [opcode_eq, List.head?_cons]
    dsimp only
    cases OpcodeInfo.ofOpcode? opcode with
    | none => rfl
    | some info =>
      dsimp only
      rw [demand_bind sliced]
      cases Instruction.readOperands pc info.form (Cursor.ofBytes operands) <;> rfl

theorem agrees_operate (pool : ConstantPool) (locals : LocalVariables) {next : Nat}
    (fits : next < UInt32.size) (instruction : Instruction) (stack : OperandStack) :
    (operate pool locals next instruction).Agrees
      (ClassMachine.operate pool locals next instruction) stack := by
  cases instruction with
  | jumpSubroutine offset =>
    rw [operate, demand_bind (toWord_of_lt fits)]
    exact (agrees_lift _ stack).bind fun _ _ _ => rfl
  | _ => exact agrees_lift _ stack

theorem agrees_execute (pool : ConstantPool) (instruction : Instruction) {next : Nat}
    (fits : next < UInt32.size) (frame : Frame) :
    (execute pool instruction next).Agrees (Frame.execute pool instruction next) frame :=
  congrArg (Option.map _) (agrees_operate pool frame.locals fits instruction frame.stack)

theorem agrees_storeCells {cells : List Cell} {locals : LocalVariables} (index : UInt16)
    (few : locals.size < UInt16.size) (state : σ) :
    (storeCells index cells locals).Agrees (ofExcept (LocalVariables.storeCells index cells locals))
      state := by
  induction cells generalizing locals index with
  | nil => rfl
  | cons cell cells inductionHypothesis =>
    rw [storeCells, LocalVariables.storeCells]
    cases stored : locals.storeCell index cell with
    | error fault => rfl
    | ok after =>
      have room := (LocalVariables.storeCell_eq_ok.mp stored).1
      have size_eq := LocalVariables.size_storeCell stored
      have width_le : (UInt16.ofNat (width cell)).toNat ≤ width cell := Nat.mod_le ..
      have advanced : add index (UInt16.ofNat (width cell)) = some _ := add_of_lt (by omega)
      change (demand _ >>= fun index => storeCells index cells after).Agrees _ state
      rw [demand_bind advanced]
      exact inductionHypothesis _ (by rwa [size_eq])

end Frames

section Methods

variable {σ : Type}

theorem map_width_eq_iff {descriptor : MethodDescriptor} {hasThis : Bool} {arguments : List Cell}
    (counted : arguments.length = (descriptor.argumentWidths hasThis).length) :
    arguments.map width = descriptor.argumentWidths hasThis ↔
      (arguments.drop (if hasThis then 1 else 0)).map width =
          descriptor.parameters.map FieldType.width ∧
        ∀ cell ∈ arguments.take (if hasThis then 1 else 0), width cell = 1 := by
  cases hasThis with
  | false => simp [MethodDescriptor.argumentWidths]
  | true =>
    cases arguments with
    | nil => cases counted
    | cons first others => simp [MethodDescriptor.argumentWidths, and_comm]

theorem agrees_checkArguments (descriptor : MethodDescriptor) (hasThis : Bool)
    (arguments : List Cell) (state : σ) :
    (checkArguments descriptor hasThis arguments).Agrees
      (ofExcept (ClassMachine.checkArguments (descriptor.argumentWidths hasThis) arguments))
      state := by
  have expected_eq : (if hasThis then 1 else 0) + descriptor.parameters.length =
      (descriptor.argumentWidths hasThis).length := by
    cases hasThis <;> simp [MethodDescriptor.argumentWidths, Nat.add_comm]
  unfold checkArguments ClassMachine.checkArguments
  dsimp only
  rw [expected_eq]
  by_cases counted : arguments.length = (descriptor.argumentWidths hasThis).length
  · have within : (if hasThis then 1 else 0) ≤ arguments.length := by
      rw [counted, ← expected_eq]
      exact Nat.le_add_right ..
    rw [if_neg (not_not_intro counted), if_neg (not_not_intro counted),
      demand_bind (sliceFrom_of_le within), demand_bind (sliceTo_of_le within)]
    by_cases same : arguments.map width = descriptor.argumentWidths hasThis
    · obtain ⟨others, this⟩ := (map_width_eq_iff counted).mp same
      rw [if_neg (not_not_intro same), if_neg]
      · rfl
      · rintro (different | ⟨cell, member, different⟩)
        · exact different others
        · exact different (this cell member)
    · rw [if_pos same, if_pos]
      · rfl
      · by_contra! none_different
        exact same ((map_width_eq_iff counted).mpr none_different)
  · rw [if_pos counted, if_pos counted]
    rfl

theorem agrees_resolveStatic (classFile : ClassFile) (index : ConstantIndex) (state : σ) :
    (resolveStatic classFile index).Agrees (ofExcept (classFile.resolveStatic index)) state := by
  unfold resolveStatic ClassFile.resolveStatic
  simp only [ofExcept_bind]
  refine (agrees_lift _ state).ofExcept_bind fun reference _ => ?_
  refine (agrees_lift _ state).ofExcept_bind fun thisClassName _ => ?_
  by_cases other : reference.owner ≠ thisClassName
  · rw [if_pos other, if_pos other]
    rfl
  · rw [if_neg other, if_neg other, ofExcept_bind]
    refine (agrees_lift _ state).ofExcept_bind fun found sought => ?_
    cases found with
    | none => rfl
    | some methodIndex =>
      have found := List.getElem?_eq_getElem (Method.findIndex_lt (mapError_eq_ok.mp sought))
      dsimp only
      rw [demand_bind found, found, Option.any_some]
      split <;> rfl

theorem agrees_parameterCount (classFile : ClassFile) {methodIndex : Nat}
    (inside : methodIndex < classFile.methods.length) (state : σ) :
    (parameterCount classFile methodIndex).Agrees
      (ofExcept (classFile.parameterCount methodIndex)) state := by
  have found := List.getElem?_eq_getElem inside
  unfold parameterCount ClassFile.parameterCount
  rw [demand_bind found, found]
  dsimp only
  cases (classFile.methods[methodIndex]).type classFile.constants <;> rfl

theorem methodName_of_lt {classFile : ClassFile} {methodIndex : Nat}
    (inside : methodIndex < classFile.methods.length) :
    methodName classFile methodIndex = some (classFile.methodName methodIndex) := by
  rw [methodName, List.getElem?_eq_getElem inside, Option.map_some]

end Methods

section Threads

variable {thread : Thread} {methodIndex : Nat}

open Thread

theorem agrees_codeOf (inside : methodIndex < thread.classFile.methods.length) :
    (codeOf methodIndex).Agrees (Thread.codeOf methodIndex) thread := by
  have found := List.getElem?_eq_getElem inside
  refine Agrees.get_bind ?_
  cases thread.codeCache.lookup methodIndex with
  | some code => rfl
  | none =>
    dsimp only
    rw [demand_bind found, found]
    refine (agrees_lift _ thread).ofExcept_bind fun decoded _ => ?_
    cases decoded with
    | none => rfl
    | some code =>
      dsimp only
      split
      next =>
        rw [demand_bind (methodName_of_lt inside)]
        exact (agrees_lift _ _).bind fun _ _ _ => rfl
      next => rfl

theorem agrees_pushFrame (inside : methodIndex < thread.classFile.methods.length)
    (arguments : List Cell) :
    (pushFrame methodIndex arguments).Agrees (Thread.pushFrame methodIndex arguments) thread := by
  have found := List.getElem?_eq_getElem inside
  refine Agrees.get_bind ?_
  by_cases full : thread.settings.maxCallDepth ≤ thread.depth
  · simp only [if_pos full]
    rfl
  · simp only [if_neg full]
    rw [demand_bind found, found]
    refine (agrees_lift _ thread).ofExcept_bind fun descriptor _ => ?_
    refine (agrees_checkArguments _ _ _ _).ofExcept_bind fun _ _ => ?_
    refine (agrees_codeOf inside).bind fun code between _ => ?_
    have few : (Frame.enter methodIndex code).locals.size < UInt16.size := by
      rw [(Frame.withinCode_enter methodIndex code).size_eq]
      exact code.maxLocals.toNat_lt
    refine (agrees_storeCells 0 few between).ofExcept_bind fun locals _ => ?_
    rw [demand_bind (methodName_of_lt inside)]
    rfl

theorem agrees_onFrame {α : Type} {frame : Frame} {callers : List Frame}
    {guarded : Guarded Fault Frame α} {operation : EStateM Fault Frame α}
    (agrees : guarded.Agrees operation frame) :
    (onFrame frame callers guarded).Agrees (Thread.onFrame frame callers operation) thread :=
  congrArg (Option.map _) agrees

theorem agrees_callStatic (index : ConstantIndex) :
    (callStatic index).Agrees (Thread.callStatic index) thread := by
  refine Agrees.get_bind ?_
  refine (agrees_resolveStatic _ index _).ofExcept_bind fun methodIndex resolved => ?_
  obtain ⟨reference, -, -, sought, -⟩ := ClassFile.resolveStatic_eq_ok.mp resolved
  have inside : methodIndex < thread.classFile.methods.length := Method.findIndex_lt sought
  refine (agrees_parameterCount _ inside _).ofExcept_bind fun count _ => ?_
  refine (agrees_lift _ _).bind fun arguments between popped => ?_
  rw [← classFile_popArguments popped] at inside
  exact (agrees_pushFrame inside arguments).bind fun _ _ _ => rfl

theorem agrees_leaveFrame (value : Option Cell)
    (inside : ∀ frame ∈ thread.frames, frame.methodIndex < thread.classFile.methods.length) :
    (leaveFrame value).Agrees (Thread.leaveFrame value) thread := by
  refine Agrees.get_bind ?_
  cases frames_eq : thread.frames with
  | nil => rfl
  | cons frame callers =>
    have member : frame ∈ thread.frames := frames_eq ▸ List.mem_cons_self
    refine (agrees_lift _ thread).bind fun _ _ _ => ?_
    rw [demand_bind (methodName_of_lt (inside frame member))]
    refine (agrees_lift _ _).bind fun _ _ _ => ?_
    cases callers with
    | nil => rfl
    | cons caller others =>
      cases value with
      | none => rfl
      | some cell => exact (agrees_lift _ _).bind fun _ _ _ => rfl

/-- What is left to do once the instruction is fetched and the log has been told of it. -/
theorem agrees_executeTop (thread : Thread) {frame : Frame} {callers : List Frame}
    (runs : ∀ other ∈ frame :: callers, other.Runs thread.classFile) {instruction : Instruction}
    {next : Nat} (fetched : frame.fetch = .ok (instruction, next)) :
    Agrees
      (onFrame frame callers (execute thread.classFile.constants instruction next) >>= fun control =>
        match control with
        | .continue => pure .running
        | .invokeStatic index => callStatic index
        | .leave value => leaveFrame value)
      (Thread.onFrame frame callers (Frame.execute thread.classFile.constants instruction next) >>=
        fun control =>
          match control with
          | .continue => pure .running
          | .invokeStatic index => Thread.callStatic index
          | .leave value => Thread.leaveFrame value)
      thread := by
  obtain ⟨top_runs, callers_run⟩ := List.forall_mem_cons.mp runs
  obtain ⟨method, -, decoded⟩ := top_runs.hasCode
  have next_le := (Instruction.next_le_length_of_decode fetched).2
  have fits : next < UInt32.size := Nat.lt_of_le_of_lt next_le (Method.fits_code decoded).1
  have agrees := agrees_execute thread.classFile.constants instruction fits frame
  refine (agrees_onFrame agrees).bind fun control after executed => ?_
  have kept := Frame.keepsCode_execute thread.classFile.constants instruction next_le
  unfold Thread.onFrame at executed
  split at executed
  next outcome =>
    cases executed
    rw [outcome] at kept
    cases control with
    | «continue» => rfl
    | invokeStatic index => exact agrees_callStatic index
    | leave value =>
      refine agrees_leaveFrame value (List.forall_mem_cons.mpr ⟨?_, fun other member => ?_⟩)
      · exact (kept.runs top_runs).hasCode.methodIndex_lt
      · exact (callers_run other member).hasCode.methodIndex_lt
  next => cases executed

theorem agrees_stepFrame {frame : Frame} {callers : List Frame}
    (runs : ∀ other ∈ frame :: callers, other.Runs thread.classFile) :
    (stepFrame frame callers).Agrees (Thread.stepFrame frame callers) thread := by
  refine (agrees_decode _ _ thread).ofExcept_bind fun current fetched => ?_
  refine Agrees.get_bind ?_
  dsimp only
  split
  next =>
    refine (agrees_lift _ thread).bind fun _ _ told => ?_
    obtain ⟨-, rfl⟩ := EStateM.Result.ok.inj told
    exact agrees_executeTop
      { thread with
        log := .executing thread.depth frame.pc frame.opcode? current.1 :: thread.log }
      runs fetched
  next => exact agrees_executeTop thread runs fetched

theorem agrees_step (runs : ∀ frame ∈ thread.frames, frame.Runs thread.classFile) :
    step.Agrees Thread.step thread := by
  unfold Agrees step Thread.step
  cases frames_eq : thread.frames with
  | nil => rfl
  | cons frame callers =>
    rw [frames_eq] at runs
    have stepped : stepFrame frame callers thread = _ := agrees_stepFrame runs
    have inside := (runs frame List.mem_cons_self).hasCode.methodIndex_lt
    dsimp only
    rw [stepped]
    cases Thread.stepFrame frame callers thread with
    | ok outcome after => rfl
    | error fault after =>
      dsimp only
      rw [methodName_of_lt inside, Option.map_some]

theorem agrees_invoke (name descriptor : String) (arguments : List Cell) :
    (invoke name descriptor arguments).Agrees (Thread.invoke name descriptor arguments) thread := by
  refine congrArg (Option.map _) ((agrees_lift _ thread).ofExcept_bind fun found sought => ?_)
  cases found with
  | none => rfl
  | some methodIndex =>
    exact agrees_pushFrame (Method.findIndex_lt (mapError_eq_ok.mp sought)) arguments

end Threads

end Guarded

namespace Thread

/-- Whatever a thread has been through, the next step and the next invocation have an outcome also
with all guards in place, namely the one that they have without. So has looking up a constant, and
so have pushing a cell on any stack that a frame can have and popping one. What an instruction does
with the stack of a frame comes out the same with guarded operations on the slot vector. -/
theorem never_out_of_range {classFile : ClassFile} {settings : Settings} {thread : Thread}
    (reachable : Reachable classFile settings thread) :
    Guarded.step thread = some (step thread) ∧
      (∀ name descriptor arguments,
        Guarded.invoke name descriptor arguments thread =
          some (invoke name descriptor arguments thread)) ∧
      Guarded.totalWidth classFile.constants.constants =
        some classFile.constants.constants.totalWidth ∧
      (∀ offset,
        Guarded.lookup classFile.constants.constants offset =
          some (classFile.constants.constants.lookup offset)) ∧
      ∀ frame ∈ thread.frames,
        (∀ stack : OperandStack, stack.capacity = frame.stack.capacity →
          Guarded.totalWidth stack.vector = some stack.depth ∧
          (∀ cell,
            Guarded.push stack.capacity cell stack.vector =
              some (Guarded.onVector (OperandStack.push cell stack))) ∧
          Guarded.pop stack.vector = some (Guarded.onVector (OperandStack.pop stack))) ∧
        ∀ next instruction, ∃ guarded,
          Guarded.Mirrors frame.stack.capacity guarded
            (operate classFile.constants frame.locals next instruction) ∧
          guarded frame.stack.vector =
            some (Guarded.onVector
              (operate classFile.constants frame.locals next instruction frame.stack)) := by
  have runs := reachable.frames_sound.runs
  obtain rfl := reachable.steady.classFile_eq
  refine ⟨Guarded.agrees_step runs, Guarded.agrees_invoke, Guarded.totalWidth_constants _,
    Guarded.lookup_constants _, fun frame member => ?_⟩
  have small : frame.stack.capacity < UInt64.size := by
    rw [(runs frame member).withinCode.capacity_eq]
    exact Nat.lt_trans frame.code.maxStack.toNat_lt (by decide)
  refine ⟨fun stack capacity_eq => ?_, fun next instruction => ?_⟩
  · rw [← capacity_eq] at small
    exact ⟨Guarded.totalWidth_vector stack, Guarded.push_vector small, Guarded.pop_vector stack⟩
  · obtain ⟨guarded, mirrors⟩ := Guarded.exists_mirrors frame.stack.capacity
      (composite_operate thread.classFile.constants frame.locals next instruction)
    exact ⟨guarded, mirrors, mirrors.vector_eq small rfl⟩

/-- A class whose only method, `f:()V`, is static and jumps to a subroutine. -/
def jumping : ClassFile where
  version := ⟨52, 0⟩
  constants := .ofList [.utf8 [67, 111, 100, 101], .utf8 [102], .utf8 [40, 41, 86]]
  flags := ⟨0⟩
  thisClass := 0
  superClass := 0
  interfaces := []
  fields := []
  methods := [
    { flags := ⟨0x0008⟩
      name := 2
      descriptor := 3
      attributes := [⟨1, [0, 1, 0, 0, 0, 0, 0, 4, 0xa8, 0, 3, 0xb1, 0, 0, 0, 0]⟩] }]
  attributes := []

/-- The jump keeps the address after it, which is 3. -/
theorem never_out_of_range_jumping :
    (after jumping ⟨1, false⟩ [.invoke "f" "()V" []]).frames.map Frame.fetch =
        [.ok (.jumpSubroutine 3, 3)] ∧
      (Guarded.step (after jumping ⟨1, false⟩ [.invoke "f" "()V" []])).map
          (fun outcome => (state outcome).frames.map fun frame => (frame.pc, frame.stack.cells)) =
        some [(3, [.narrow 3])] := by
  have reachable : Reachable jumping ⟨1, false⟩
      (after jumping ⟨1, false⟩ [.invoke "f" "()V" []]) := ⟨_, rfl⟩
  rw [(never_out_of_range reachable).1]
  constructor <;> cbv

/-- A frame of a method that the class does not have is in no such thread. -/
example :
    (Guarded.step
      { new jumping ⟨1, false⟩ with frames := [.enter 1 ⟨0, 0, [], [], []⟩] }).isNone := by
  rfl

end Thread

end ClassMachine
