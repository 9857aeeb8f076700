import ClassMachine.Thread.Basic
import ClassMachine.Proofs.Outcome

set_option autoImplicit false

/-!
# Threads seen as stacks of frames

What a thread does next depends on its class, its settings and its frames, and not on what it keeps
of decoded code or has told the log. Here calls, returns and steps are defined once more on the
frames alone, where every call decodes the code of its method again. As long as a thread keeps only
code that decoding would give, it does to its frames exactly what these operations do.
-/

namespace ClassMachine

namespace ClassFile

/-- This is the code of the method at this position. -/
def HasCode (classFile : ClassFile) (methodIndex : Nat) (code : Code) : Prop :=
  ∃ method, classFile.methods[methodIndex]? = some method ∧
    method.code classFile.constants = .ok (some code)

theorem HasCode.methodIndex_lt {classFile : ClassFile} {methodIndex : Nat} {code : Code}
    (hasCode : classFile.HasCode methodIndex code) : methodIndex < classFile.methods.length := by
  obtain ⟨method, found, _⟩ := hasCode
  exact (List.getElem?_eq_some_iff.mp found).1

/-- The code of a method, decoded for this purpose. -/
def freshCode (classFile : ClassFile) (methodIndex : Nat) : Except Fault Code :=
  match classFile.methods[methodIndex]? with
  | none => .error .missingCode
  | some method =>
    match method.code classFile.constants with
    | .error error => .error (.decode error)
    | .ok none => .error .missingCode
    | .ok (some code) => .ok code

theorem freshCode_eq_ok {classFile : ClassFile} {methodIndex : Nat} {code : Code} :
    classFile.freshCode methodIndex = .ok code ↔ classFile.HasCode methodIndex code := by
  unfold freshCode HasCode
  cases classFile.methods[methodIndex]? with
  | none => simp
  | some method =>
    cases decoded : method.code classFile.constants with
    | error error => simp [decoded]
    | ok found => cases found <;> simp [decoded]

theorem freshCode_eq_error {classFile : ClassFile} {methodIndex : Nat} {fault : Fault}
    (failed : classFile.freshCode methodIndex = .error fault) :
    fault = .missingCode ∨ ∃ error, fault = .decode error := by
  unfold freshCode at failed
  split at failed
  next =>
    cases failed
    exact .inl rfl
  next =>
    split at failed
    next =>
      cases failed
      exact .inr ⟨_, rfl⟩
    next =>
      cases failed
      exact .inl rfl
    next => cases failed

/-- The frame that a call starts with. -/
def newFrame (classFile : ClassFile) (methodIndex : Nat) (arguments : List Cell) :
    Except Fault Frame :=
  match classFile.methods[methodIndex]? with
  | none => .error .missingCode
  | some method => do
    let descriptor ← (method.type classFile.constants).mapError .decode
    checkArguments (descriptor.argumentWidths !method.isStatic) arguments
    let code ← classFile.freshCode methodIndex
    let frame := Frame.enter methodIndex code
    let locals ← LocalVariables.storeCells 0 arguments frame.locals
    .ok { frame with locals }

end ClassFile

abbrev FrameStack := List Frame

namespace FrameStack

open Outcome

section Operations

variable (classFile : ClassFile) (limit : Nat)

def enter (methodIndex : Nat) (arguments : List Cell) : EStateM Fault FrameStack Unit :=
  fun frames =>
    if limit ≤ frames.length then .error (.callDepthExceeded limit) frames
    else
      match classFile.newFrame methodIndex arguments with
      | .error fault => .error fault frames
      | .ok frame => .ok () (frame :: frames)

variable {classFile limit} in
theorem enter_of_full {methodIndex : Nat} {arguments : List Cell} {frames : FrameStack}
    (full : limit ≤ frames.length) :
    enter classFile limit methodIndex arguments frames =
      .error (.callDepthExceeded limit) frames :=
  if_pos full

variable {classFile limit} in
theorem enter_of_room {methodIndex : Nat} {arguments : List Cell} {frames : FrameStack}
    (room : frames.length < limit) :
    enter classFile limit methodIndex arguments frames =
      (ofExcept (classFile.newFrame methodIndex arguments) >>= fun frame =>
        modify fun frames => frame :: frames : EStateM Fault FrameStack Unit) frames := by
  unfold enter
  rw [if_neg (Nat.not_le_of_lt room)]
  cases classFile.newFrame methodIndex arguments <;> rfl

def start (name descriptor : String) (arguments : List Cell) : EStateM Fault FrameStack Unit :=
  fun frames =>
    match classFile.findMethodIndex name descriptor with
    | .error error => .error (.decode error) frames
    | .ok none => .error (.methodNotFound (name ++ ":" ++ descriptor)) frames
    | .ok (some methodIndex) => enter classFile limit methodIndex arguments frames

def onTop {α : Type} (operation : EStateM Fault Frame α) (frame : Frame) :
    EStateM Fault FrameStack α :=
  fun callers =>
    match operation frame with
    | .ok result frame => .ok result (frame :: callers)
    | .error fault frame => .error fault (frame :: callers)

def popArguments (count : Nat) : EStateM Fault FrameStack (List Cell)
  | [] => .ok [] []
  | frame :: callers => onTop (Thread.onStack (OperandStack.popCells count)) frame callers

def call (index : ConstantIndex) : EStateM Fault FrameStack StepOutcome := do
  let methodIndex ← ofExcept (classFile.resolveStatic index)
  let count ← ofExcept (classFile.parameterCount methodIndex)
  let arguments ← popArguments count
  enter classFile limit methodIndex arguments
  pure .running

/-- Passes a result to the innermost of these callers, and to the outside if there are none. -/
def deliver (value : Option Cell) : EStateM Fault FrameStack StepOutcome
  | [] => .ok (.finished value) []
  | caller :: others =>
    match value with
    | none => .ok .running (caller :: others)
    | some cell =>
      (onTop (Thread.onStack (OperandStack.push cell)) caller >>= fun _ => pure .running) others

def leave (value : Option Cell) : EStateM Fault FrameStack StepOutcome
  | [] => .ok (.finished value) []
  | _ :: callers => deliver value callers

/-- What an instruction asks for once it is executed. -/
def respond : Control → EStateM Fault FrameStack StepOutcome
  | .continue => pure .running
  | .invokeStatic index => call classFile limit index
  | .leave value => leave value

def advance : EStateM Fault FrameStack StepOutcome
  | [] => .ok (.finished none) []
  | frame :: callers =>
    (onTop (Frame.step classFile.constants) frame >>= respond classFile limit) callers

variable {classFile limit} in
theorem advance_of_unfetched {frame : Frame} {callers : List Frame} {fault : Fault}
    (unfetched : frame.fetch = .error fault) :
    advance classFile limit (frame :: callers) = .error fault (frame :: callers) := by
  refine bind_of_error ?_
  simp [onTop, Frame.step, unfetched]

variable {classFile limit} in
theorem advance_of_fetched {frame : Frame} {callers : List Frame} {instruction : Instruction}
    {next : Nat} (fetched : frame.fetch = .ok (instruction, next)) :
    advance classFile limit (frame :: callers) =
      (onTop (Frame.execute classFile.constants instruction next) frame >>=
        respond classFile limit) callers := by
  have step_eq : Frame.step classFile.constants frame =
      Frame.execute classFile.constants instruction next frame := by
    simp [Frame.step, fetched]
  have onTop_eq : onTop (Frame.step classFile.constants) frame =
      onTop (Frame.execute classFile.constants instruction next) frame := by
    unfold onTop
    rw [step_eq]
  exact congrArg (fun top => (top >>= respond classFile limit) callers) onTop_eq

end Operations

section OnTop

variable {α : Type} {frame : Frame} {callers after : FrameStack} {value : α}

theorem state_onTop (operation : EStateM Fault Frame α) :
    state (onTop operation frame callers) = state (operation frame) :: callers := by
  unfold onTop
  cases operation frame <;> rfl

theorem onTop_eq_ok {operation : EStateM Fault Frame α} :
    onTop operation frame callers = .ok value after ↔
      ∃ changed, operation frame = .ok value changed ∧ after = changed :: callers := by
  unfold onTop
  cases operation frame with
  | ok result changed => simp [eq_comm]
  | error fault changed => simp

theorem onStack_eq_ok {operation : StackOperation α} {changed : Frame} :
    Thread.onStack operation frame = .ok value changed ↔
      ∃ stack, operation frame.stack = .ok value stack ∧ changed = { frame with stack } := by
  unfold Thread.onStack
  cases operation frame.stack with
  | ok result stack => simp [eq_comm]
  | error fault stack => simp

end OnTop

section Enter

variable {classFile : ClassFile} {limit methodIndex : Nat} {arguments : List Cell}
  {frames after : FrameStack}

theorem enter_eq_ok :
    enter classFile limit methodIndex arguments frames = .ok () after ↔
      frames.length < limit ∧
        ∃ frame, classFile.newFrame methodIndex arguments = .ok frame ∧ after = frame :: frames := by
  by_cases full : limit ≤ frames.length
  · simp [enter_of_full full, Nat.not_lt_of_le full]
  · have room := Nat.lt_of_not_le full
    unfold enter
    rw [if_neg full]
    cases classFile.newFrame methodIndex arguments with
    | error fault => simp
    | ok frame => simp [room, eq_comm]

theorem enter_eq_error {fault : Fault}
    (refused : enter classFile limit methodIndex arguments frames = .error fault after) :
    after = frames := by
  by_cases full : limit ≤ frames.length
  · rw [enter_of_full full] at refused
    cases refused
    rfl
  · unfold enter at refused
    rw [if_neg full] at refused
    cases made : classFile.newFrame methodIndex arguments with
    | error cause =>
      rw [made] at refused
      cases refused
      rfl
    | ok frame =>
      rw [made] at refused
      cases refused

theorem cause_of_enter {fault : Fault}
    (refused : enter classFile limit methodIndex arguments frames = .error fault after) :
    fault = .callDepthExceeded limit ∨ classFile.newFrame methodIndex arguments = .error fault := by
  by_cases full : limit ≤ frames.length
  · rw [enter_of_full full] at refused
    cases refused
    exact .inl rfl
  · unfold enter at refused
    rw [if_neg full] at refused
    cases made : classFile.newFrame methodIndex arguments with
    | error cause =>
      rw [made] at refused
      cases refused
      exact .inr rfl
    | ok frame =>
      rw [made] at refused
      cases refused

end Enter

end FrameStack

namespace Thread

open Outcome

/-- The thread runs this class with these settings, and keeps only code that decoding would give. -/
structure Steady (classFile : ClassFile) (settings : Settings) (thread : Thread) : Prop where
  classFile_eq : thread.classFile = classFile
  settings_eq : thread.settings = settings
  cache_sound : ∀ entry ∈ thread.codeCache, classFile.HasCode entry.1 entry.2

section Mirrors

variable {ε α : Type}

/-- What an outcome says about the frames and the cause of a failure. -/
def onlyFrames (cause : ε → Fault) : EStateM.Result ε Thread α → EStateM.Result Fault FrameStack α
  | .ok value thread => .ok value thread.frames
  | .error error thread => .error (cause error) thread.frames

/-- An outcome for a thread is the one for its frames alone, and the thread stays steady. -/
structure Mirrors (classFile : ClassFile) (settings : Settings) (cause : ε → Fault)
    (outcome : EStateM.Result ε Thread α) (bare : EStateM.Result Fault FrameStack α) : Prop where
  frames_eq : onlyFrames cause outcome = bare
  steady : (state outcome).Steady classFile settings

theorem Mirrors.frames_state {classFile : ClassFile} {settings : Settings} {cause : ε → Fault}
    {outcome : EStateM.Result ε Thread α} {bare : EStateM.Result Fault FrameStack α}
    (mirrors : Mirrors classFile settings cause outcome bare) :
    (state outcome).frames = state bare := by
  rw [← mirrors.frames_eq]
  cases outcome <;> rfl

theorem Mirrors.ok {classFile : ClassFile} {settings : Settings} {cause : ε → Fault}
    {outcome : EStateM.Result ε Thread α} {value : α} {frames : FrameStack}
    (mirrors : Mirrors classFile settings cause outcome (.ok value frames)) :
    ∃ after, outcome = .ok value after ∧ after.frames = frames ∧
      after.Steady classFile settings := by
  obtain ⟨frames_eq, steady⟩ := mirrors
  cases outcome with
  | error error after => cases frames_eq
  | ok result after =>
    cases frames_eq
    exact ⟨after, rfl, rfl, steady⟩

theorem Mirrors.error {classFile : ClassFile} {settings : Settings} {cause : ε → Fault}
    {outcome : EStateM.Result ε Thread α} {fault : Fault} {frames : FrameStack}
    (mirrors : Mirrors classFile settings cause outcome (.error fault frames)) :
    ∃ error after, outcome = .error error after ∧ cause error = fault ∧ after.frames = frames ∧
      after.Steady classFile settings := by
  obtain ⟨frames_eq, steady⟩ := mirrors
  cases outcome with
  | ok result after => cases frames_eq
  | error error after =>
    cases frames_eq
    exact ⟨error, after, rfl, rfl, rfl, steady⟩

theorem Mirrors.bind {classFile : ClassFile} {settings : Settings} {β : Type} {thread : Thread}
    {frames : FrameStack} {first : ThreadOperation α} {bareFirst : EStateM Fault FrameStack α}
    {next : α → ThreadOperation β} {bareNext : α → EStateM Fault FrameStack β}
    (head : Mirrors classFile settings id (first thread) (bareFirst frames))
    (rest : ∀ value between, between.Steady classFile settings →
      Mirrors classFile settings id (next value between) (bareNext value between.frames)) :
    Mirrors classFile settings id ((first >>= next) thread) ((bareFirst >>= bareNext) frames) := by
  cases outcome : bareFirst frames with
  | ok value between =>
    rw [outcome] at head
    obtain ⟨after, first_eq, rfl, steady⟩ := head.ok
    rw [bind_of_ok first_eq, bind_of_ok outcome]
    exact rest value after steady
  | error fault between =>
    rw [outcome] at head
    obtain ⟨error, after, first_eq, rfl, rfl, steady⟩ := head.error
    rw [bind_of_error first_eq, bind_of_error outcome]
    exact ⟨rfl, steady⟩

end Mirrors

section Operations

variable {classFile : ClassFile} {settings : Settings} {thread : Thread}

theorem Steady.withFrames (steady : thread.Steady classFile settings) (frames : List Frame) :
    { thread with frames }.Steady classFile settings :=
  ⟨steady.classFile_eq, steady.settings_eq, steady.cache_sound⟩

theorem Steady.told (steady : thread.Steady classFile settings) (log : List Event) :
    { thread with log }.Steady classFile settings :=
  ⟨steady.classFile_eq, steady.settings_eq, steady.cache_sound⟩

theorem Steady.remembering (steady : thread.Steady classFile settings) {methodIndex : Nat}
    {code : Code} (decoded : classFile.HasCode methodIndex code) :
    { thread with codeCache := (methodIndex, code) :: thread.codeCache }.Steady
      classFile settings where
  classFile_eq := steady.classFile_eq
  settings_eq := steady.settings_eq
  cache_sound := List.forall_mem_cons.mpr ⟨decoded, steady.cache_sound⟩

theorem Steady.hasCode_of_lookup (steady : thread.Steady classFile settings) {methodIndex : Nat}
    {code : Code} (found : thread.codeCache.lookup methodIndex = some code) :
    classFile.HasCode methodIndex code := by
  obtain ⟨front, back, split, _⟩ := List.lookup_eq_some_iff.mp found
  exact steady.cache_sound (methodIndex, code) (by simp [split])

theorem mirrors_ofExcept (steady : thread.Steady classFile settings) {α : Type}
    (result : Except Fault α) :
    Mirrors classFile settings id ((ofExcept result : ThreadOperation α) thread)
      ((ofExcept result : EStateM Fault FrameStack α) thread.frames) := by
  cases result <;> exact ⟨rfl, steady⟩

theorem mirrors_codeOf (steady : thread.Steady classFile settings) (methodIndex : Nat) :
    Mirrors classFile settings id (codeOf methodIndex thread)
      ((ofExcept (classFile.freshCode methodIndex) : EStateM Fault FrameStack Code)
        thread.frames) := by
  unfold codeOf
  rw [get_bind_apply]
  cases looked : thread.codeCache.lookup methodIndex with
  | some code =>
    rw [ClassFile.freshCode_eq_ok.mpr (steady.hasCode_of_lookup looked)]
    exact ⟨rfl, steady⟩
  | none =>
    unfold ClassFile.freshCode
    simp only [steady.classFile_eq]
    cases method? : classFile.methods[methodIndex]? with
    | none => exact ⟨rfl, steady⟩
    | some method =>
      cases decoded : method.code classFile.constants with
      | error error =>
        simp only [decoded]
        exact ⟨rfl, steady⟩
      | ok found =>
        cases found with
        | none =>
          simp only [decoded]
          exact ⟨rfl, steady⟩
        | some code =>
          have hasCode : classFile.HasCode methodIndex code := ⟨method, method?, decoded⟩
          simp only [decoded, Except.mapError, ofExcept_ok, pure_bind]
          split
          next => exact ⟨rfl, (steady.told _).remembering hasCode⟩
          next => exact ⟨rfl, steady.remembering hasCode⟩

theorem mirrors_pushFrame (steady : thread.Steady classFile settings) (methodIndex : Nat)
    (arguments : List Cell) :
    Mirrors classFile settings id (pushFrame methodIndex arguments thread)
      (FrameStack.enter classFile settings.maxCallDepth methodIndex arguments thread.frames) := by
  obtain rfl := steady.classFile_eq
  obtain rfl := steady.settings_eq
  unfold pushFrame
  simp only [get_bind_apply]
  by_cases full : thread.settings.maxCallDepth ≤ thread.depth
  · rw [if_pos full, FrameStack.enter_of_full full]
    exact ⟨rfl, steady⟩
  · rw [if_neg full, FrameStack.enter_of_room (Nat.lt_of_not_le full)]
    unfold ClassFile.newFrame
    cases thread.classFile.methods[methodIndex]? with
    | none => exact ⟨rfl, steady⟩
    | some method =>
      simp only [ofExcept_bind, bind_assoc]
      refine (mirrors_ofExcept steady _).bind fun descriptor thread steady => ?_
      refine (mirrors_ofExcept steady _).bind fun _ thread steady => ?_
      refine (mirrors_codeOf steady methodIndex).bind fun code thread steady => ?_
      refine (mirrors_ofExcept steady _).bind fun locals thread steady => ?_
      exact ⟨rfl, (steady.told _).withFrames _⟩

theorem mirrors_onFrame (steady : thread.Steady classFile settings) {α : Type} (frame : Frame)
    (callers : List Frame) (operation : EStateM Fault Frame α) :
    Mirrors classFile settings id (onFrame frame callers operation thread)
      (FrameStack.onTop operation frame callers) := by
  unfold onFrame FrameStack.onTop
  cases operation frame with
  | ok value frame => exact ⟨rfl, steady.withFrames _⟩
  | error fault frame => exact ⟨rfl, steady.withFrames _⟩

theorem mirrors_popArguments (steady : thread.Steady classFile settings) (count : Nat) :
    Mirrors classFile settings id (popArguments count thread)
      (FrameStack.popArguments count thread.frames) := by
  unfold popArguments FrameStack.popArguments
  rw [get_bind_apply]
  cases frames_eq : thread.frames with
  | nil => exact ⟨by simp [onlyFrames, pure_apply, frames_eq], steady⟩
  | cons frame callers => exact mirrors_onFrame steady frame callers _

theorem mirrors_callStatic (steady : thread.Steady classFile settings) (index : ConstantIndex) :
    Mirrors classFile settings id (callStatic index thread)
      (FrameStack.call classFile settings.maxCallDepth index thread.frames) := by
  unfold callStatic FrameStack.call
  rw [get_bind_apply, steady.classFile_eq]
  refine (mirrors_ofExcept steady _).bind fun methodIndex between steady => ?_
  refine (mirrors_ofExcept steady _).bind fun count between steady => ?_
  refine (mirrors_popArguments steady count).bind fun arguments between steady => ?_
  refine (mirrors_pushFrame steady methodIndex arguments).bind fun _ between steady => ?_
  exact ⟨rfl, steady⟩

theorem mirrors_leaveFrame (steady : thread.Steady classFile settings) (value : Option Cell) :
    Mirrors classFile settings id (leaveFrame value thread)
      (FrameStack.leave value thread.frames) := by
  unfold leaveFrame
  rw [get_bind_apply]
  cases frames_eq : thread.frames with
  | nil => exact ⟨by simp [onlyFrames, pure_apply, frames_eq, FrameStack.leave], steady⟩
  | cons frame callers =>
    cases callers with
    | nil => exact ⟨rfl, (steady.withFrames _).told _⟩
    | cons caller others =>
      cases value with
      | none => exact ⟨rfl, (steady.withFrames _).told _⟩
      | some cell =>
        have pushed := mirrors_onFrame ((steady.withFrames (caller :: others)).told
          (.leaving (thread.classFile.methodName frame.methodIndex) :: thread.log)) caller others
          (onStack (OperandStack.push cell))
        exact pushed.bind fun _ between steady => ⟨rfl, steady⟩

/-- What is left to do after an instruction, whether it was told to the log or not. -/
theorem mirrors_respond (steady : thread.Steady classFile settings) (control : Control) :
    Mirrors classFile settings id
      ((match control with
        | .continue => pure .running
        | .invokeStatic index => callStatic index
        | .leave value => leaveFrame value : ThreadOperation StepOutcome) thread)
      (FrameStack.respond classFile settings.maxCallDepth control thread.frames) := by
  cases control with
  | «continue» => exact ⟨rfl, steady⟩
  | invokeStatic index => exact mirrors_callStatic steady index
  | leave value => exact mirrors_leaveFrame steady value

theorem mirrors_stepFrame (steady : thread.Steady classFile settings) {frame : Frame}
    {callers : List Frame} (frames_eq : thread.frames = frame :: callers) :
    Mirrors classFile settings id (stepFrame frame callers thread)
      (FrameStack.advance classFile settings.maxCallDepth (frame :: callers)) := by
  unfold stepFrame
  cases fetched : frame.fetch with
  | error fault =>
    rw [FrameStack.advance_of_unfetched fetched, ← frames_eq]
    exact ⟨rfl, steady⟩
  | ok current =>
    obtain ⟨instruction, next⟩ := current
    obtain rfl := steady.classFile_eq
    rw [FrameStack.advance_of_fetched fetched, ofExcept_ok, pure_bind]
    simp only [get_bind_apply]
    split
    next =>
      have told := steady.told
        (.executing thread.depth frame.pc frame.opcode? instruction :: thread.log)
      exact (mirrors_onFrame told frame callers _).bind fun control between steady =>
        mirrors_respond steady control
    next =>
      exact (mirrors_onFrame steady frame callers _).bind fun control between steady =>
        mirrors_respond steady control

theorem mirrors_step (steady : thread.Steady classFile settings) :
    Mirrors classFile settings ExecutionError.fault (step thread)
      (FrameStack.advance classFile settings.maxCallDepth thread.frames) := by
  unfold step
  cases frames_eq : thread.frames with
  | nil => exact ⟨by simp [onlyFrames, FrameStack.advance, frames_eq], steady⟩
  | cons frame callers =>
    have stepped := mirrors_stepFrame steady frames_eq
    dsimp only
    generalize stepFrame frame callers thread = outcome at stepped ⊢
    cases outcome <;> exact ⟨stepped.frames_eq, stepped.steady⟩

theorem mirrors_invoke (steady : thread.Steady classFile settings) (name descriptor : String)
    (arguments : List Cell) :
    Mirrors classFile settings ExecutionError.fault (invoke name descriptor arguments thread)
      (FrameStack.start classFile settings.maxCallDepth name descriptor arguments
        thread.frames) := by
  obtain rfl := steady.classFile_eq
  unfold invoke FrameStack.start
  cases thread.classFile.findMethodIndex name descriptor with
  | error error => exact ⟨rfl, steady⟩
  | ok found =>
    cases found with
    | none => exact ⟨rfl, steady⟩
    | some methodIndex =>
      simp only [Except.mapError, ofExcept_ok, pure_bind]
      have pushed := mirrors_pushFrame steady methodIndex arguments
      generalize pushFrame methodIndex arguments thread = outcome at pushed ⊢
      cases outcome <;> exact ⟨pushed.frames_eq, pushed.steady⟩

theorem step_eq_error {after : Thread} {frame : Frame} {callers : List Frame}
    {error : ExecutionError} (frames_eq : thread.frames = frame :: callers)
    (failed : step thread = .error error after) :
    error =
      { method := thread.classFile.methodName frame.methodIndex
        pc := frame.pc
        opcode := frame.opcode?
        fault := error.fault } := by
  unfold step at failed
  rw [frames_eq] at failed
  dsimp only at failed
  split at failed
  next => cases failed
  next =>
    cases failed
    rfl

theorem invoke_eq_error {after : Thread} {name descriptor : String} {arguments : List Cell}
    {error : ExecutionError}
    (failed : invoke name descriptor arguments thread = .error error after) :
    error =
      { method := name ++ ":" ++ descriptor
        pc := 0
        opcode := none
        fault := error.fault } := by
  unfold invoke at failed
  dsimp only at failed
  split at failed
  next => cases failed
  next =>
    cases failed
    rfl

end Operations

end Thread

end ClassMachine
