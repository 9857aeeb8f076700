import ClassMachine.ClassFile.Code
import ClassMachine.Frame.Operation
import ClassMachine.Instruction.Decode

set_option autoImplicit false

/-!
Frames, the activations of methods. Executing an instruction first works on the operand stack, then
stores a local variable if the instruction asks for it, then moves the program counter. A fault
leaves the local variables and the program counter alone.
-/

namespace ClassMachine

structure Frame where
  /-- The method's position in the class. -/
  methodIndex : Nat
  /-- The offset of the current instruction. -/
  pc : Nat
  stack : OperandStack
  locals : LocalVariables
  code : Code

/-- What the thread has to do after an instruction. -/
inductive Control where
  | continue
  /-- Call the method that a constant refers to, with arguments from the operand stack. -/
  | invokeStatic (index : ConstantIndex)
  /-- Remove the frame and pass the value, if there is one, to its caller. -/
  | leave (value : Option Cell)
  deriving DecidableEq

namespace Frame

def enter (methodIndex : Nat) (code : Code) : Frame where
  methodIndex
  pc := 0
  stack := .empty code.maxStack.toNat
  locals := .zeros code.maxLocals.toNat
  code

/-- The opcode at the program counter, unless that is at the end of the code. -/
def opcode? (frame : Frame) : Option UInt8 := frame.code.instructions[frame.pc]?

/-- The current instruction and the offset after it. -/
def fetch (frame : Frame) : Except Fault (Instruction × Nat) :=
  Instruction.decode frame.code.instructions frame.pc

/-- The offset that is this far from the current instruction, as the sum of signed words of 64
bits. -/
def address (frame : Frame) (offset : Int) : Int := Int.bmod (frame.pc + offset) UInt64.size

/-- A jump target, which must be inside the code. -/
def target (frame : Frame) (address : Int) : Except Fault Nat :=
  if 0 ≤ address ∧ address < frame.code.instructions.length then .ok address.toNat
  else .error (.invalidBranchTarget address)

/-- Where a flow takes the program counter, and what it asks of the thread. -/
def follow (frame : Frame) (next : Nat) : Flow → Except Fault (Nat × Control)
  | .next => .ok (next, .continue)
  | .jump offset => do
    let address ← frame.target (frame.address offset.toInt)
    .ok (address, .continue)
  | .resume address => do
    let address ← frame.target address.toNat
    .ok (address, .continue)
  | .invokeStatic index => .ok (next, .invokeStatic index)
  | .leave value => .ok (frame.pc, .leave value)
  | .unsupported => .error (.unsupportedOpcode (frame.opcode?.getD 0))

def storeWrite (frame : Frame) : Option (UInt16 × Cell) → Except Fault LocalVariables
  | none => .ok frame.locals
  | some (index, cell) => frame.locals.storeCell index cell

/-- Carries out an effect except for the operand stack, which is done. -/
def commit (frame : Frame) (next : Nat) (effect : Effect) : Except Fault (Frame × Control) := do
  let locals ← frame.storeWrite effect.write
  let (pc, control) ← frame.follow next effect.flow
  .ok ({ frame with locals, pc }, control)

/-- Executes an instruction that is at the program counter and is followed by `next`. -/
def execute (pool : ConstantPool) (instruction : Instruction) (next : Nat) :
    EStateM Fault Frame Control := fun frame =>
  match operate pool frame.locals next instruction frame.stack with
  | .error fault stack => .error fault { frame with stack }
  | .ok effect stack =>
    match commit { frame with stack } next effect with
    | .error fault => .error fault { frame with stack }
    | .ok (frame, control) => .ok control frame

def step (pool : ConstantPool) : EStateM Fault Frame Control := fun frame =>
  match frame.fetch with
  | .error fault => .error fault frame
  | .ok (instruction, next) => execute pool instruction next frame

end Frame

end ClassMachine
