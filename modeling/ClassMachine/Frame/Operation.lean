import ClassMachine.Constant.Pool
import ClassMachine.FloatingPoint.Arithmetic
import ClassMachine.Frame.LocalVariables
import ClassMachine.Frame.OperandStack
import ClassMachine.Instruction.Basic

set_option autoImplicit false

/-!
What instructions do on the operand stack. `operate` reads local variables and constants, and only
changes the stack; the local variable to write and the way to go on are its result, an `Effect`,
which the frame then carries out.
-/

namespace ClassMachine

/-- How a frame goes on after an instruction. -/
inductive Flow where
  | next
  /-- To an offset from the instruction. -/
  | jump (offset : Int32)
  /-- To an offset from the start of the code. -/
  | resume (address : UInt32)
  | invokeStatic (index : ConstantIndex)
  | leave (value : Option Cell)
  /-- The instruction needs what the machine does not have. -/
  | unsupported
  deriving DecidableEq

structure Effect where
  /-- The local variable to store a cell in. -/
  write : Option (UInt16 × Cell)
  flow : Flow
  deriving DecidableEq

namespace Effect

def next : Effect := ⟨none, .next⟩

def store (index : UInt16) (cell : Cell) : Effect := ⟨some (index, cell), .next⟩

def follow (flow : Flow) : Effect := ⟨none, flow⟩

def branch (condition : Bool) (offset : Int16) : Effect :=
  follow (if condition then .jump offset.toInt32 else .next)

end Effect

namespace Literal

def cell : Literal → Cell
  | .null => Value.toCell Reference.null
  | .intMinusOne => Value.toCell (-1 : Int32)
  | .int0 => Value.toCell (0 : Int32)
  | .int1 => Value.toCell (1 : Int32)
  | .int2 => Value.toCell (2 : Int32)
  | .int3 => Value.toCell (3 : Int32)
  | .int4 => Value.toCell (4 : Int32)
  | .int5 => Value.toCell (5 : Int32)
  | .long0 => Value.toCell (0 : Int64)
  | .long1 => Value.toCell (1 : Int64)
  | .float0 => .narrow 0
  | .float1 => .narrow 0x3f800000
  | .float2 => .narrow 0x40000000
  | .double0 => .wide 0
  | .double1 => .wide 0x3ff0000000000000

end Literal

namespace StorageType

def slotCount : StorageType → Nat
  | .long | .double => 2
  | .int | .float | .reference => 1

end StorageType

namespace Operation

open OperandStack

def unary {α β : Type} [Value α] [Value β] (operation : α → β) : StackOperation Unit := do
  let operand ← popValue α
  pushValue (operation operand)

/-- Pops two values, the second one first, and pushes the result. -/
def binary {α β : Type} [Value α] [Value β] (operation : α → α → Except Fault β) :
    StackOperation Unit := do
  let second ← popValue α
  let first ← popValue α
  let result ← ofExcept (operation first second)
  pushValue result

def total {α β : Type} [Value α] [Value β] (operation : α → α → β) : StackOperation Unit :=
  binary fun first second => .ok (operation first second)

def drop (expected : Nat) : StackOperation Unit := do
  let _ ← popWidth expected

/-- Drops, copies or exchanges what is on top. Where an instruction has several forms, the widths
of the cells that it finds decide. -/
def shuffle : StackShuffle → StackOperation Unit
  | .pop => drop 1
  | .pop2 => do
    let first ← pop
    if first.isNarrow then drop 1
  | .dup => do
    let first ← ofExcept (← get).top
    if first.isNarrow then push first else throw .mismatchedWidth
  | .dupX1 => do
    let first ← popWidth 1
    let second ← popWidth 1
    pushAll [first, second, first]
  | .dupX2 => do
    let first ← popWidth 1
    let second ← pop
    if second.isNarrow then
      let third ← popWidth 1
      pushAll [first, third, second, first]
    else pushAll [first, second, first]
  | .dup2 => do
    let first ← pop
    if first.isNarrow then
      let second ← popWidth 1
      pushAll [second, first, second, first]
    else pushAll [first, first]
  | .dup2X1 => do
    let first ← pop
    let second ← popWidth 1
    if first.isNarrow then
      let third ← popWidth 1
      pushAll [second, first, third, second, first]
    else pushAll [first, second, first]
  | .dup2X2 => do
    let first ← pop
    if first.isNarrow then
      let second ← popWidth 1
      let third ← pop
      if third.isNarrow then
        let fourth ← popWidth 1
        pushAll [second, first, fourth, third, second, first]
      else pushAll [second, first, third, second, first]
    else
      let second ← pop
      if second.isNarrow then
        let third ← popWidth 1
        pushAll [first, third, second, first]
      else pushAll [first, second, first]
  | .swap => do
    let first ← popWidth 1
    let second ← popWidth 1
    pushAll [first, second]

def intArithmetic : ArithmeticOperation → Int32 → Int32 → Except Fault Int32
  | .add, first, second => .ok (first + second)
  | .sub, first, second => .ok (first - second)
  | .mul, first, second => .ok (first * second)
  | .div, first, second => if second = 0 then .error .divisionByZero else .ok (first / second)
  | .rem, first, second => if second = 0 then .error .divisionByZero else .ok (first % second)

def longArithmetic : ArithmeticOperation → Int64 → Int64 → Except Fault Int64
  | .add, first, second => .ok (first + second)
  | .sub, first, second => .ok (first - second)
  | .mul, first, second => .ok (first * second)
  | .div, first, second => if second = 0 then .error .divisionByZero else .ok (first / second)
  | .rem, first, second => if second = 0 then .error .divisionByZero else .ok (first % second)

def floatArithmetic : ArithmeticOperation → Single → Single → Single
  | .add => Single.add
  | .sub => Single.sub
  | .mul => Single.mul
  | .div => Single.div
  | .rem => Single.rem

def doubleArithmetic : ArithmeticOperation → Double → Double → Double
  | .add => Double.add
  | .sub => Double.sub
  | .mul => Double.mul
  | .div => Double.div
  | .rem => Double.rem

def arithmetic (operation : ArithmeticOperation) : NumericType → StackOperation Unit
  | .int => binary (intArithmetic operation)
  | .long => binary (longArithmetic operation)
  | .float => total (floatArithmetic operation)
  | .double => total (doubleArithmetic operation)

def negate : NumericType → StackOperation Unit
  | .int => unary fun operand : Int32 => -operand
  | .long => unary fun operand : Int64 => -operand
  | .float => unary Single.neg
  | .double => unary Double.neg

/-- Shifts by the five lowest bits of the distance. -/
def shiftInt (direction : ShiftDirection) (operand distance : Int32) : Int32 :=
  let places := distance.toUInt32 &&& 0x1f
  match direction with
  | .left => (operand.toUInt32 <<< places).toInt32
  | .logicalRight => (operand.toUInt32 >>> places).toInt32
  | .arithmeticRight => operand >>> places.toInt32

/-- Shifts by the six lowest bits of the distance. -/
def shiftLong (direction : ShiftDirection) (operand : Int64) (distance : Int32) : Int64 :=
  let places := (distance.toUInt32 &&& 0x3f).toUInt64
  match direction with
  | .left => (operand.toUInt64 <<< places).toInt64
  | .logicalRight => (operand.toUInt64 >>> places).toInt64
  | .arithmeticRight => operand >>> places.toInt64

def shift (direction : ShiftDirection) : IntegerType → StackOperation Unit
  | .int => total fun operand distance => shiftInt direction operand distance
  | .long => do
    let distance ← popValue Int32
    let operand ← popValue Int64
    pushValue (shiftLong direction operand distance)

def bitwiseInt : BitwiseOperation → Int32 → Int32 → Int32
  | .and, first, second => first &&& second
  | .or, first, second => first ||| second
  | .xor, first, second => first ^^^ second

def bitwiseLong : BitwiseOperation → Int64 → Int64 → Int64
  | .and, first, second => first &&& second
  | .or, first, second => first ||| second
  | .xor, first, second => first ^^^ second

def bitwise (operation : BitwiseOperation) : IntegerType → StackOperation Unit
  | .int => total (bitwiseInt operation)
  | .long => total (bitwiseLong operation)

def convert : Conversion → StackOperation Unit
  | .intToLong => unary Int32.toInt64
  | .intToFloat => unary Single.ofInt32
  | .intToDouble => unary Double.ofInt32
  | .longToInt => unary Int64.toInt32
  | .longToFloat => unary Single.ofInt64
  | .longToDouble => unary Double.ofInt64
  | .floatToInt => unary Single.toInt32
  | .floatToLong => unary Single.toInt64
  | .floatToDouble => unary Double.ofSingle
  | .doubleToInt => unary Double.toInt32
  | .doubleToLong => unary Double.toInt64
  | .doubleToFloat => unary Double.toSingle
  | .intToByte => unary Int32.toInt8
  | .intToChar => unary fun operand : Int32 => operand.toUInt32.toUInt16
  | .intToShort => unary Int32.toInt16

/-- The sign of a difference. -/
def signOf : Ordering → Int32
  | .lt => -1
  | .eq => 0
  | .gt => 1

def orderOnNaN : NaNResult → Ordering
  | .less => .lt
  | .greater => .gt

def compareLongs (first second : Int64) : Int32 := signOf (compare first.toInt second.toInt)

/-- The sign of a comparison that may involve something that is no number. -/
def signOrNaN (onNaN : NaNResult) (order : Option Ordering) : Int32 :=
  signOf (order.getD (orderOnNaN onNaN))

/-- The offset for a key among targets from `low` on. -/
def tableTarget (fallback low : Int32) (targets : List Int32) (key : Int32) : Int32 :=
  if low.toInt ≤ key.toInt then
    targets.getD (key.toInt - low.toInt).toNat fallback
  else fallback

/-- The offset of the first target with a key. -/
def lookupTarget (fallback : Int32) (targets : List (Int32 × Int32)) (key : Int32) : Int32 :=
  match targets.find? fun target => target.1 = key with
  | some target => target.2
  | none => fallback

def loadConstant (pool : ConstantPool) (index : ConstantIndex) : StackOperation Unit := do
  match pool.get index with
  | .ok (.integer value) => pushValue value
  | .ok (.float bits) => push (.narrow bits)
  | .ok _ => throw (.unloadableConstant index)
  | .error error => throw (.decode error)

def loadWideConstant (pool : ConstantPool) (index : ConstantIndex) : StackOperation Unit := do
  match pool.get index with
  | .ok (.long value) => pushValue value
  | .ok (.double bits) => push (.wide bits)
  | .ok _ => throw (.unloadableConstant index)
  | .error error => throw (.decode error)

end Operation

open OperandStack Operation in
/-- Carries out an instruction on the operand stack. `next` is the offset of the instruction after
it, which a subroutine returns to. -/
def operate (pool : ConstantPool) (locals : LocalVariables) (next : Nat) :
    Instruction → StackOperation Effect
  | .nop => pure .next
  | .literal value => do
    push value.cell
    pure .next
  | .pushByte value => do
    pushValue value.toInt32
    pure .next
  | .pushShort value => do
    pushValue value.toInt32
    pure .next
  | .loadConstant index => do
    loadConstant pool index
    pure .next
  | .loadWideConstant index => do
    loadWideConstant pool index
    pure .next
  | .load type index => do
    let cell ← ofExcept (locals.loadCell index type.slotCount)
    push cell
    pure .next
  | .store type index => do
    let cell ← popWidth type.slotCount
    pure (.store index cell)
  | .stack kind => do
    shuffle kind
    pure .next
  | .arithmetic operation type => do
    arithmetic operation type
    pure .next
  | .negate type => do
    negate type
    pure .next
  | .shift direction type => do
    shift direction type
    pure .next
  | .bitwise operation type => do
    bitwise operation type
    pure .next
  | .increment index amount => do
    let value ← ofExcept (locals.load Int32 index)
    pure (.store index (Value.toCell (value + amount.toInt32)))
  | .convert conversion => do
    convert conversion
    pure .next
  | .compareLongs => do
    total compareLongs
    pure .next
  | .compareFloats onNaN => do
    total fun first second => signOrNaN onNaN (Single.compare? first second)
    pure .next
  | .compareDoubles onNaN => do
    total fun first second => signOrNaN onNaN (Double.compare? first second)
    pure .next
  | .branchInt comparison offset => do
    let value ← popValue Int32
    pure (.branch (comparison.holds (compare value.toInt 0)) offset)
  | .branchInts comparison offset => do
    let second ← popValue Int32
    let first ← popValue Int32
    pure (.branch (comparison.holds (compare first.toInt second.toInt)) offset)
  | .branchReferences test offset => do
    let second ← popValue Reference
    let first ← popValue Reference
    pure (.branch (test.holds (first == second)) offset)
  | .branchNull test offset => do
    let value ← popValue Reference
    pure (.branch (test.holds value.isNull) offset)
  | .goto offset => pure (.follow (.jump offset))
  | .jumpSubroutine offset => do
    pushValue (ReturnAddress.mk (UInt32.ofNat next))
    pure (.follow (.jump offset))
  | .returnFromSubroutine index => do
    let address ← ofExcept (locals.load ReturnAddress index)
    pure (.follow (.resume address.offset))
  | .tableSwitch fallback low targets => do
    let key ← popValue Int32
    pure (.follow (.jump (tableTarget fallback low targets key)))
  | .lookupSwitch fallback targets => do
    let key ← popValue Int32
    pure (.follow (.jump (lookupTarget fallback targets key)))
  | .returnValue type => do
    let cell ← popWidth type.slotCount
    pure (.follow (.leave (some cell)))
  | .returnVoid => pure (.follow (.leave none))
  | .invoke .static index => pure (.follow (.invokeStatic index))
  | .arrayLoad _ | .arrayStore _ | .field .. | .invoke .. | .invokeDynamic _ | .newObject _
  | .newArray _ | .newReferenceArray _ | .arrayLength | .throwReference | .checkCast _
  | .instanceOf _ | .monitorEnter | .monitorExit | .newMultiArray .. | .reserved _ =>
    pure (.follow .unsupported)

end ClassMachine
