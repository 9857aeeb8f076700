import ClassMachine.DecodeError

set_option autoImplicit false

/-!
What can go wrong while bytecode runs. A fault is the cause alone; an execution error also says
which method and instruction were running.
-/

namespace ClassMachine

inductive Fault where
  | operandStackUnderflow
  | operandStackOverflow
  /-- The index, or the one after it for a wide value, is no local variable of the method. -/
  | invalidLocalIndex (index : UInt16)
  | divisionByZero
  /-- The opcode is reserved or undefined, or needs a heap or other classes. -/
  | unsupportedOpcode (opcode : UInt8)
  /-- A narrow value was read as a wide one, or the other way around. -/
  | mismatchedWidth
  /-- The code ends inside an instruction. -/
  | truncatedInstruction
  | invalidWide (opcode : UInt8)
  /-- A switch whose bounds or count ask for a negative number of targets. -/
  | invalidSwitch (targets : Int)
  | invalidBranchTarget (target : Int)
  /-- The constant has no meaning without a heap. -/
  | unloadableConstant (index : UInt16)
  /-- The reference leads to no static method of the running class. -/
  | unresolvedMethod (index : UInt16)
  | methodNotFound (method : String)
  | wrongArgumentCount (expected found : Nat)
  | callDepthExceeded (limit : Nat)
  | missingCode
  | decode (error : DecodeError)
  deriving DecidableEq

namespace Fault

def message : Fault → String
  | .operandStackUnderflow => "operand stack underflow"
  | .operandStackOverflow => "operand stack overflow"
  | .invalidLocalIndex index => s!"invalid local variable index {index}"
  | .divisionByZero => "arithmetic fault: / by zero"
  | .unsupportedOpcode opcode => "unsupported opcode " ++ Hex.literal 2 opcode.toNat
  | .mismatchedWidth => "value read with the wrong width"
  | .truncatedInstruction => "truncated instruction"
  | .invalidWide opcode => "`wide` cannot modify opcode " ++ Hex.literal 2 opcode.toNat
  | .invalidSwitch targets => "switch with " ++ Decimal.ofInt targets ++ " targets"
  | .invalidBranchTarget target =>
    "branch target " ++ Decimal.ofInt target ++ " is outside the code"
  | .unloadableConstant index => s!"constant #{index} cannot be loaded"
  | .unresolvedMethod index => s!"method reference #{index} does not resolve"
  | .methodNotFound method => "no method " ++ method
  | .wrongArgumentCount expected found => s!"expected {expected} arguments but got {found}"
  | .callDepthExceeded limit => s!"call depth exceeded {limit}"
  | .missingCode => "method has no code"
  | .decode error => error.message

def kind : Fault → String
  | .operandStackUnderflow => "OperandStackUnderflow"
  | .operandStackOverflow => "OperandStackOverflow"
  | .invalidLocalIndex _ => "InvalidLocalIndex"
  | .divisionByZero => "ArithmeticFault"
  | .unsupportedOpcode _ => "UnsupportedOpcode"
  | .mismatchedWidth => "MismatchedWidth"
  | .truncatedInstruction => "TruncatedInstruction"
  | .invalidWide _ => "InvalidWide"
  | .invalidSwitch _ => "InvalidSwitch"
  | .invalidBranchTarget _ => "InvalidBranchTarget"
  | .unloadableConstant _ => "UnloadableConstant"
  | .unresolvedMethod _ => "UnresolvedMethod"
  | .methodNotFound _ => "MethodNotFound"
  | .wrongArgumentCount .. => "WrongArgumentCount"
  | .callDepthExceeded _ => "CallDepthExceeded"
  | .missingCode => "MissingCode"
  | .decode _ => "Decode"

open Structural in
def inspect (fault : Fault) : String :=
  match fault with
  | .operandStackUnderflow | .operandStackOverflow | .mismatchedWidth | .truncatedInstruction
  | .missingCode => fault.kind
  | .divisionByZero => apply fault.kind [Quoted.text "/ by zero"]
  | .invalidLocalIndex number | .unloadableConstant number | .unresolvedMethod number =>
    apply fault.kind [toString number]
  | .unsupportedOpcode opcode | .invalidWide opcode => apply fault.kind [toString opcode]
  | .invalidSwitch number | .invalidBranchTarget number =>
    apply fault.kind [Decimal.ofInt number]
  | .methodNotFound method => apply fault.kind [Quoted.text method]
  | .wrongArgumentCount expected found =>
    record fault.kind [("expected", toString expected), ("found", toString found)]
  | .callDepthExceeded limit => apply fault.kind [toString limit]
  | .decode error => apply fault.kind [error.inspect]

end Fault

/-- A fault and where it happened. -/
structure ExecutionError where
  /-- The method's name and descriptor, joined by a colon. -/
  method : String
  /-- The offset of the instruction in the code. -/
  pc : Nat
  /-- The opcode at that offset; `none` outside of any instruction. -/
  opcode : Option UInt8
  fault : Fault
  deriving DecidableEq

namespace ExecutionError

def opcodeText : Option UInt8 → String
  | none => ""
  | some opcode => " (opcode " ++ Hex.literal 2 opcode.toNat ++ ")"

def message (error : ExecutionError) : String :=
  error.method ++ " at pc " ++ toString error.pc ++ opcodeText error.opcode ++ ": " ++
    error.fault.message

open Structural in
def inspect (error : ExecutionError) : String :=
  record "ExecutionError"
    [("method", Quoted.text error.method), ("pc", toString error.pc),
      ("opcode", option (error.opcode.map toString)), ("kind", error.fault.inspect)]

end ExecutionError

end ClassMachine
