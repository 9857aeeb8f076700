import ClassMachine.Frame.Basic
import ClassMachine.Thread.Event

set_option autoImplicit false

/-!
Threads: a stack of frames over the methods of one class. Only `invokestatic` of a static method of
the same class pushes a frame. A step that fails leaves the frames as they were at the fault, and
its error names the method, offset and opcode that were current before the step.
-/

namespace ClassMachine

structure Settings where
  maxCallDepth : Nat
  traceInstructions : Bool
  deriving DecidableEq

namespace Settings

def standard : Settings := ⟨1024, true⟩

end Settings

structure Thread where
  classFile : ClassFile
  settings : Settings
  /-- The frames, the innermost one first. -/
  frames : List Frame
  /-- Code that has been decoded, by the position of its method. -/
  codeCache : List (Nat × Code)
  /-- Everything that the log has been told, the last event first. -/
  log : List Event

inductive StepOutcome where
  | running
  /-- The outermost frame returned this value. -/
  | finished (value : Option Cell)
  deriving DecidableEq

namespace ClassFile

def methodName (classFile : ClassFile) (methodIndex : Nat) : String :=
  let unnamed := "<method #" ++ toString methodIndex ++ ">"
  match classFile.methods[methodIndex]? with
  | none => unnamed
  | some method =>
    match method.nameText classFile.constants, method.descriptorText classFile.constants with
    | .ok name, .ok descriptor => name ++ ":" ++ descriptor
    | _, _ => unnamed

/-- The method of this class that a reference leads to, which must be static. -/
def resolveStatic (classFile : ClassFile) (index : ConstantIndex) : Except Fault Nat := do
  let reference ← (classFile.constants.methodRef index).mapError .decode
  let thisClassName ← classFile.thisClassName.mapError .decode
  if reference.owner ≠ thisClassName then throw (.unresolvedMethod index)
  let found ← (classFile.findMethodIndex reference.name reference.descriptor).mapError .decode
  match found with
  | none => throw (.unresolvedMethod index)
  | some methodIndex =>
    if classFile.methods[methodIndex]?.any Method.isStatic then pure methodIndex
    else throw (.unresolvedMethod index)

def parameterCount (classFile : ClassFile) (methodIndex : Nat) : Except Fault Nat :=
  match classFile.methods[methodIndex]? with
  | none => .error .missingCode
  | some method =>
    ((method.type classFile.constants).map fun type => type.parameters.length).mapError .decode

end ClassFile

namespace MethodDescriptor

/-- The widths of all arguments, of which the object that the method runs on is the first. -/
def argumentWidths (descriptor : MethodDescriptor) (hasThis : Bool) : List Nat :=
  (if hasThis then [1] else []) ++ descriptor.parameters.map FieldType.width

end MethodDescriptor

def checkArguments (expected : List Nat) (arguments : List Cell) : Except Fault Unit :=
  if arguments.length ≠ expected.length then
    .error (.wrongArgumentCount expected.length arguments.length)
  else if arguments.map width ≠ expected then .error .mismatchedWidth
  else .ok ()

abbrev ThreadOperation (α : Type) := EStateM Fault Thread α

namespace Thread

def new (classFile : ClassFile) (settings : Settings) : Thread :=
  { classFile, settings, frames := [], codeCache := [], log := [] }

def depth (thread : Thread) : Nat := thread.frames.length

def events (thread : Thread) : List Event := thread.log.reverse

def tell (event : Event) : ThreadOperation Unit :=
  modify fun thread => { thread with log := event :: thread.log }

/-- The decoded code of a method, which is kept for later calls. -/
def codeOf (methodIndex : Nat) : ThreadOperation Code := do
  let thread ← get
  match thread.codeCache.lookup methodIndex with
  | some code => pure code
  | none =>
    let some method := thread.classFile.methods[methodIndex]? | throw .missingCode
    let found ← ofExcept ((method.code thread.classFile.constants).mapError .decode)
    let some code := found | throw .missingCode
    if !code.handlers.isEmpty then
      tell (.ignoringHandlers code.handlers.length (thread.classFile.methodName methodIndex))
    modify fun thread => { thread with codeCache := (methodIndex, code) :: thread.codeCache }
    pure code

def pushFrame (methodIndex : Nat) (arguments : List Cell) : ThreadOperation Unit := do
  let thread ← get
  if thread.settings.maxCallDepth ≤ thread.depth then
    throw (.callDepthExceeded thread.settings.maxCallDepth)
  let some method := thread.classFile.methods[methodIndex]? | throw .missingCode
  let descriptor ← ofExcept ((method.type thread.classFile.constants).mapError .decode)
  ofExcept (checkArguments (descriptor.argumentWidths !method.isStatic) arguments)
  let code ← codeOf methodIndex
  let frame := Frame.enter methodIndex code
  let locals ← ofExcept (LocalVariables.storeCells 0 arguments frame.locals)
  tell (.entering (thread.classFile.methodName methodIndex) (thread.depth + 1))
  modify fun thread => { thread with frames := { frame with locals } :: thread.frames }

def onFrame {α : Type} (frame : Frame) (callers : List Frame) (operation : EStateM Fault Frame α) :
    ThreadOperation α := fun thread =>
  match operation frame with
  | .ok result frame => .ok result { thread with frames := frame :: callers }
  | .error fault frame => .error fault { thread with frames := frame :: callers }

def onStack {α : Type} (operation : StackOperation α) : EStateM Fault Frame α := fun frame =>
  match operation frame.stack with
  | .ok result stack => .ok result { frame with stack }
  | .error fault stack => .error fault { frame with stack }

def popArguments (count : Nat) : ThreadOperation (List Cell) := do
  match (← get).frames with
  | [] => pure []
  | frame :: callers => onFrame frame callers (onStack (OperandStack.popCells count))

def callStatic (index : ConstantIndex) : ThreadOperation StepOutcome := do
  let classFile := (← get).classFile
  let methodIndex ← ofExcept (classFile.resolveStatic index)
  let count ← ofExcept (classFile.parameterCount methodIndex)
  let arguments ← popArguments count
  pushFrame methodIndex arguments
  pure .running

/-- Removes the innermost frame and passes the value, if there is one, to its caller. -/
def leaveFrame (value : Option Cell) : ThreadOperation StepOutcome := do
  let thread ← get
  match thread.frames with
  | [] => pure (.finished value)
  | frame :: callers =>
    set { thread with frames := callers }
    tell (.leaving (thread.classFile.methodName frame.methodIndex))
    match callers with
    | [] => pure (.finished value)
    | caller :: others =>
      if let some cell := value then onFrame caller others (onStack (OperandStack.push cell))
      pure .running

def stepFrame (frame : Frame) (callers : List Frame) : ThreadOperation StepOutcome := do
  let (instruction, next) ← ofExcept frame.fetch
  let thread ← get
  if thread.settings.traceInstructions then
    tell (.executing thread.depth frame.pc frame.opcode? instruction)
  match ← onFrame frame callers (Frame.execute thread.classFile.constants instruction next) with
  | .continue => pure .running
  | .invokeStatic index => callStatic index
  | .leave value => leaveFrame value

/-- Executes one instruction. A thread without frames stays as it is and is finished. -/
def step : EStateM ExecutionError Thread StepOutcome := fun thread =>
  match thread.frames with
  | [] => .ok (.finished none) thread
  | frame :: callers =>
    match stepFrame frame callers thread with
    | .ok outcome thread => .ok outcome thread
    | .error fault after =>
      .error
        { method := thread.classFile.methodName frame.methodIndex
          pc := frame.pc
          opcode := frame.opcode?
          fault }
        after

def invoke (name descriptor : String) (arguments : List Cell) :
    EStateM ExecutionError Thread Unit := fun thread =>
  let method := name ++ ":" ++ descriptor
  let entry : ThreadOperation Unit := do
    let found ← ofExcept ((thread.classFile.findMethodIndex name descriptor).mapError .decode)
    match found with
    | none => throw (.methodNotFound method)
    | some methodIndex => pushFrame methodIndex arguments
  match entry thread with
  | .ok result thread => .ok result thread
  | .error fault thread => .error { method, pc := 0, opcode := none, fault } thread

/-- Runs until the outermost frame returns, for at most `steps` instructions. The result is `none`
if they were not enough. -/
def runFor : Nat → EStateM ExecutionError Thread (Option (Option Cell))
  | 0 => pure none
  | steps + 1 => do
    match ← step with
    | .running => runFor steps
    | .finished value => pure (some value)

def invokeAndRunFor (steps : Nat) (name descriptor : String) (arguments : List Cell) :
    EStateM ExecutionError Thread (Option (Option Cell)) := do
  invoke name descriptor arguments
  runFor steps

end Thread

end ClassMachine
