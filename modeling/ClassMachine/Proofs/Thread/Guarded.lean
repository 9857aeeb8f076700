import ClassMachine.Proofs.Guarded
import ClassMachine.Thread.Basic

set_option autoImplicit false

/-!
# Threads with guards

Invoking and stepping once more, as guarded programs: a row may only be sliced or indexed inside of
it, a difference must not be less than zero, the index of the next local variable must be exact, and
so must be an address of 32 bits. What instructions do with an operand stack is also done with the
slot vector that its cells make up, since the room on a stack is the difference of two offsets.
-/

namespace ClassMachine.Guarded

section Vectors

variable {α : Type}

def totalWidth (vector : SlotVector α) : Option Nat := subtract vector.next vector.start

def lookup (vector : SlotVector α) (offset : Nat) : Option (SlotVector.Lookup α) :=
  if offset < vector.start then some .tooSmall
  else
    match vector.startingAt offset with
    | some item => some (.found item)
    | none =>
      if vector.insertionPoint offset = vector.size ∧ vector.next ≤ offset then some .tooLarge
      else (subtract (vector.insertionPoint offset) 1).map .inside

end Vectors

section Stacks

def push (capacity : Nat) (cell : Cell) : Guarded Fault (SlotVector Cell) Unit := do
  let vector ← lift get
  let depth ← demand (totalWidth vector)
  if capacity < depth + width cell then fail .operandStackOverflow
  let (_, vector) ← demand (vector.push cell).toOption
  lift (set vector)

def pop : Guarded Fault (SlotVector Cell) Cell := fun vector =>
  match vector.pop with
  | none => some (.error .operandStackUnderflow vector)
  | some (cell, others) => some (.ok cell others)

def top : Guarded Fault (SlotVector Cell) Cell := fun vector =>
  match vector.peek 0 with
  | .error _ => none
  | .ok none => some (.error .operandStackUnderflow vector)
  | .ok (some cell) => some (.ok cell vector)

/-- The guarded program does with the slot vector of a stack of this capacity, operation by
operation, what the other one does with the stack. -/
inductive Mirrors (capacity : Nat) :
    {α : Type} → Guarded Fault (SlotVector Cell) α → StackOperation α → Prop where
  | pure {α : Type} (value : α) : Mirrors capacity (pure value) (pure value)
  | fail {α : Type} (fault : Fault) : Mirrors capacity (fail fault) (throw fault : StackOperation α)
  | push (cell : Cell) : Mirrors capacity (push capacity cell) (OperandStack.push cell)
  | pop : Mirrors capacity pop OperandStack.pop
  | top : Mirrors capacity top (get >>= fun stack => ofExcept stack.top)
  | bind {α β : Type} {guarded : Guarded Fault (SlotVector Cell) α} {operation : StackOperation α}
      {guardedNext : α → Guarded Fault (SlotVector Cell) β} {next : α → StackOperation β}
      (head : Mirrors capacity guarded operation)
      (tail : ∀ value, Mirrors capacity (guardedNext value) (next value)) :
    Mirrors capacity (guarded >>= guardedNext) (operation >>= next)

end Stacks

section Frames

def decode {σ : Type} (code : List UInt8) (pc : Nat) : Guarded Fault σ (Instruction × Nat) :=
  match code[pc]? with
  | none => fail (.invalidBranchTarget (Int.bmod pc UInt64.size))
  | some opcode =>
    match OpcodeInfo.ofOpcode? opcode with
    | none => fail (.unsupportedOpcode opcode)
    | some info => do
      let operands ← demand (sliceFrom code (pc + 1))
      match Instruction.readOperands pc info.form (Cursor.ofBytes operands) with
      | .error fault _ => fail fault
      | .ok instruction cursor =>
        pure (instruction, pc + 1 + info.operandBytes.getD cursor.position)

def operate (pool : ConstantPool) (locals : LocalVariables) (next : Nat) :
    Instruction → Guarded Fault OperandStack Effect
  | .jumpSubroutine offset => do
    let address ← demand (toWord next)
    lift (OperandStack.pushValue (ReturnAddress.mk address))
    pure (.follow (.jump offset))
  | instruction => lift (ClassMachine.operate pool locals next instruction)

def execute (pool : ConstantPool) (instruction : Instruction) (next : Nat) :
    Guarded Fault Frame Control := fun frame =>
  (operate pool frame.locals next instruction frame.stack).map fun operated =>
    match operated with
    | .error fault stack => .error fault { frame with stack }
    | .ok effect stack =>
      match Frame.commit { frame with stack } next effect with
      | .error fault => .error fault { frame with stack }
      | .ok (frame, control) => .ok control frame

end Frames

section Methods

def methodName (classFile : ClassFile) (methodIndex : Nat) : Option String :=
  classFile.methods[methodIndex]?.map fun _ => classFile.methodName methodIndex

def resolveStatic {σ : Type} (classFile : ClassFile) (index : ConstantIndex) :
    Guarded Fault σ Nat := do
  let reference ← lift (ofExcept ((classFile.constants.methodRef index).mapError .decode))
  let thisClassName ← lift (ofExcept (classFile.thisClassName.mapError .decode))
  if reference.owner ≠ thisClassName then fail (.unresolvedMethod index)
  let found ← lift (ofExcept
    ((classFile.findMethodIndex reference.name reference.descriptor).mapError .decode))
  match found with
  | none => fail (.unresolvedMethod index)
  | some methodIndex => do
    let method ← demand classFile.methods[methodIndex]?
    if method.isStatic then pure methodIndex else fail (.unresolvedMethod index)

def parameterCount {σ : Type} (classFile : ClassFile) (methodIndex : Nat) :
    Guarded Fault σ Nat := do
  let method ← demand classFile.methods[methodIndex]?
  let type ← lift (ofExcept ((method.type classFile.constants).mapError .decode))
  pure type.parameters.length

/-- The argument for the object that a method runs on and those for its parameters are checked
apart. -/
def checkArguments {σ : Type} (descriptor : MethodDescriptor) (hasThis : Bool)
    (arguments : List Cell) : Guarded Fault σ Unit := do
  let thisCount := if hasThis then 1 else 0
  let expected := thisCount + descriptor.parameters.length
  if arguments.length ≠ expected then fail (.wrongArgumentCount expected arguments.length)
  let others ← demand (sliceFrom arguments thisCount)
  let this ← demand (sliceTo arguments thisCount)
  if others.map width ≠ descriptor.parameters.map FieldType.width ∨
      ∃ cell ∈ this, width cell ≠ 1 then
    fail .mismatchedWidth

def storeCells {σ : Type} : UInt16 → List Cell → LocalVariables → Guarded Fault σ LocalVariables
  | _, [], locals => pure locals
  | index, cell :: cells, locals => do
    let locals ← lift (ofExcept (locals.storeCell index cell))
    let index ← demand (add index (UInt16.ofNat (width cell)))
    storeCells index cells locals

end Methods

section Threads

open Thread

def codeOf (methodIndex : Nat) : Guarded Fault Thread Code := do
  let thread ← lift get
  match thread.codeCache.lookup methodIndex with
  | some code => pure code
  | none =>
    let method ← demand thread.classFile.methods[methodIndex]?
    let found ← lift (ofExcept ((method.code thread.classFile.constants).mapError .decode))
    let some code := found | fail .missingCode
    if !code.handlers.isEmpty then
      let name ← demand (methodName thread.classFile methodIndex)
      lift (tell (.ignoringHandlers code.handlers.length name))
    lift (modify fun thread => { thread with codeCache := (methodIndex, code) :: thread.codeCache })
    pure code

def pushFrame (methodIndex : Nat) (arguments : List Cell) : Guarded Fault Thread Unit := do
  let thread ← lift get
  if thread.settings.maxCallDepth ≤ thread.depth then
    fail (.callDepthExceeded thread.settings.maxCallDepth)
  let method ← demand thread.classFile.methods[methodIndex]?
  let descriptor ← lift (ofExcept ((method.type thread.classFile.constants).mapError .decode))
  checkArguments descriptor (!method.isStatic) arguments
  let code ← codeOf methodIndex
  let frame := Frame.enter methodIndex code
  let locals ← storeCells 0 arguments frame.locals
  let name ← demand (methodName thread.classFile methodIndex)
  lift (tell (.entering name (thread.depth + 1)))
  lift (modify fun thread => { thread with frames := { frame with locals } :: thread.frames })

def onFrame {α : Type} (frame : Frame) (callers : List Frame) (operation : Guarded Fault Frame α) :
    Guarded Fault Thread α := fun thread =>
  (operation frame).map fun outcome =>
    match outcome with
    | .ok result frame => .ok result { thread with frames := frame :: callers }
    | .error fault frame => .error fault { thread with frames := frame :: callers }

def callStatic (index : ConstantIndex) : Guarded Fault Thread StepOutcome := do
  let classFile := (← lift get).classFile
  let methodIndex ← resolveStatic classFile index
  let count ← parameterCount classFile methodIndex
  let arguments ← lift (popArguments count)
  pushFrame methodIndex arguments
  pure .running

def leaveFrame (value : Option Cell) : Guarded Fault Thread StepOutcome := do
  let thread ← lift get
  match thread.frames with
  | [] => pure (.finished value)
  | frame :: callers =>
    lift (set { thread with frames := callers })
    let name ← demand (methodName thread.classFile frame.methodIndex)
    lift (tell (.leaving name))
    match callers with
    | [] => pure (.finished value)
    | caller :: others =>
      if let some cell := value then
        lift (Thread.onFrame caller others (onStack (OperandStack.push cell)))
      pure .running

def stepFrame (frame : Frame) (callers : List Frame) : Guarded Fault Thread StepOutcome := do
  let (instruction, next) ← decode frame.code.instructions frame.pc
  let thread ← lift get
  if thread.settings.traceInstructions then
    lift (tell (.executing thread.depth frame.pc frame.opcode? instruction))
  match ← onFrame frame callers (execute thread.classFile.constants instruction next) with
  | .continue => pure .running
  | .invokeStatic index => callStatic index
  | .leave value => leaveFrame value

def step : Guarded ExecutionError Thread StepOutcome := fun thread =>
  match thread.frames with
  | [] => some (.ok (.finished none) thread)
  | frame :: callers =>
    match stepFrame frame callers thread with
    | none => none
    | some (.ok outcome after) => some (.ok outcome after)
    | some (.error fault after) =>
      (methodName thread.classFile frame.methodIndex).map fun method =>
        .error { method, pc := frame.pc, opcode := frame.opcode?, fault } after

def invoke (name descriptor : String) (arguments : List Cell) :
    Guarded ExecutionError Thread Unit := fun thread =>
  let method := name ++ ":" ++ descriptor
  let entry : Guarded Fault Thread Unit := do
    let found ← lift (ofExcept
      ((thread.classFile.findMethodIndex name descriptor).mapError .decode))
    match found with
    | none => fail (.methodNotFound method)
    | some methodIndex => pushFrame methodIndex arguments
  (entry thread).map fun outcome =>
    match outcome with
    | .ok result thread => .ok result thread
    | .error fault thread => .error { method, pc := 0, opcode := none, fault } thread

end Threads

end ClassMachine.Guarded
