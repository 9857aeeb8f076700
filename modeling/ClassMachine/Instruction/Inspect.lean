import ClassMachine.Constant.Inspect
import ClassMachine.Instruction.Basic
import ClassMachine.Text.Decimal

set_option autoImplicit false

/-!
The structural text of instructions. Instructions that differ in a type carry its letter in their
name: `I` for int, `L` for long, `F` for float, `D` for double, `A` for a reference.
-/

namespace ClassMachine

namespace NumericType

def letter : NumericType → String
  | .int => "I"
  | .long => "L"
  | .float => "F"
  | .double => "D"

end NumericType

namespace IntegerType

def letter : IntegerType → String
  | .int => "I"
  | .long => "L"

end IntegerType

namespace StorageType

def letter : StorageType → String
  | .int => "I"
  | .long => "L"
  | .float => "F"
  | .double => "D"
  | .reference => "A"

end StorageType

namespace ElementType

def letter : ElementType → String
  | .int => "I"
  | .long => "L"
  | .float => "F"
  | .double => "D"
  | .reference => "A"
  | .byte => "B"
  | .char => "C"
  | .short => "S"

end ElementType

namespace Literal

def name : Literal → String
  | .null => "AConstNull"
  | .intMinusOne => "IConstM1"
  | .int0 => "IConst0"
  | .int1 => "IConst1"
  | .int2 => "IConst2"
  | .int3 => "IConst3"
  | .int4 => "IConst4"
  | .int5 => "IConst5"
  | .long0 => "LConst0"
  | .long1 => "LConst1"
  | .float0 => "FConst0"
  | .float1 => "FConst1"
  | .float2 => "FConst2"
  | .double0 => "DConst0"
  | .double1 => "DConst1"

end Literal

namespace StackShuffle

def name : StackShuffle → String
  | .pop => "Pop"
  | .pop2 => "Pop2"
  | .dup => "Dup"
  | .dupX1 => "DupX1"
  | .dupX2 => "DupX2"
  | .dup2 => "Dup2"
  | .dup2X1 => "Dup2X1"
  | .dup2X2 => "Dup2X2"
  | .swap => "Swap"

end StackShuffle

namespace ArithmeticOperation

def name : ArithmeticOperation → String
  | .add => "Add"
  | .sub => "Sub"
  | .mul => "Mul"
  | .div => "Div"
  | .rem => "Rem"

end ArithmeticOperation

namespace ShiftDirection

def name : ShiftDirection → String
  | .left => "Left"
  | .logicalRight => "LogicalRight"
  | .arithmeticRight => "ArithmeticRight"

end ShiftDirection

namespace BitwiseOperation

def name : BitwiseOperation → String
  | .and => "And"
  | .or => "Or"
  | .xor => "Xor"

end BitwiseOperation

namespace Conversion

def name : Conversion → String
  | .intToLong => "I2L"
  | .intToFloat => "I2F"
  | .intToDouble => "I2D"
  | .longToInt => "L2I"
  | .longToFloat => "L2F"
  | .longToDouble => "L2D"
  | .floatToInt => "F2I"
  | .floatToLong => "F2L"
  | .floatToDouble => "F2D"
  | .doubleToInt => "D2I"
  | .doubleToLong => "D2L"
  | .doubleToFloat => "D2F"
  | .intToByte => "I2B"
  | .intToChar => "I2C"
  | .intToShort => "I2S"

end Conversion

namespace NaNResult

def name : NaNResult → String
  | .less => "L"
  | .greater => "G"

end NaNResult

namespace Comparison

def name : Comparison → String
  | .eq => "EQ"
  | .ge => "GE"
  | .gt => "GT"
  | .le => "LE"
  | .lt => "LT"
  | .ne => "NE"

end Comparison

namespace EqualityTest

def name : EqualityTest → String
  | .eq => "EQ"
  | .ne => "NE"

end EqualityTest

namespace FieldAccess

def name : FieldAccess → String
  | .getStatic => "GetStatic"
  | .putStatic => "PutStatic"
  | .getField => "GetField"
  | .putField => "PutField"

end FieldAccess

namespace InvokeKind

def inspect : InvokeKind → String
  | .virtual => "Virtual"
  | .special => "Special"
  | .static => "Static"
  | .interface argumentSlots => Structural.apply "Interface" [toString argumentSlots]

end InvokeKind

namespace Instruction

open Structural

def inspectInt32 (number : Int32) : String := Decimal.ofInt number.toInt

def inspectInt16 (number : Int16) : String := Decimal.ofInt number.toInt

def inspectTarget (target : Int32 × Int32) : String :=
  pair (inspectInt32 target.1) (inspectInt32 target.2)

def inspect : Instruction → String
  | .nop => "Nop"
  | .literal value => value.name
  | .pushByte value => apply "BiPush" [Decimal.ofInt value.toInt]
  | .pushShort value => apply "SiPush" [inspectInt16 value]
  | .loadConstant index => apply "Ldc" [index.inspect]
  | .loadWideConstant index => apply "Ldc2" [index.inspect]
  | .load type index => apply (type.letter ++ "Load") [toString index]
  | .store type index => apply (type.letter ++ "Store") [toString index]
  | .arrayLoad type => type.letter ++ "ALoad"
  | .arrayStore type => type.letter ++ "AStore"
  | .stack shuffle => shuffle.name
  | .arithmetic operation type => type.letter ++ operation.name
  | .negate type => type.letter ++ "Neg"
  | .shift direction type => apply (type.letter ++ "Sh") [direction.name]
  | .bitwise operation type => type.letter ++ operation.name
  | .increment index amount => apply "IInc" [toString index, inspectInt16 amount]
  | .convert conversion => conversion.name
  | .compareLongs => "LCmp"
  | .compareFloats onNaN => apply "FCmp" [onNaN.name]
  | .compareDoubles onNaN => apply "DCmp" [onNaN.name]
  | .branchInt comparison offset => apply "If" [comparison.name, inspectInt16 offset]
  | .branchInts comparison offset => apply "IfICmp" [comparison.name, inspectInt16 offset]
  | .branchReferences test offset => apply "IfACmp" [test.name, inspectInt16 offset]
  | .branchNull test offset => apply "IfNull" [test.name, inspectInt16 offset]
  | .goto offset => apply "Goto" [inspectInt32 offset]
  | .jumpSubroutine offset => apply "Jsr" [inspectInt32 offset]
  | .returnFromSubroutine index => apply "Ret" [toString index]
  | .tableSwitch fallback low targets =>
    record "TableSwitch"
      [("default", inspectInt32 fallback), ("low", inspectInt32 low),
        ("targets", list (targets.map inspectInt32))]
  | .lookupSwitch fallback targets =>
    record "LookupSwitch"
      [("default", inspectInt32 fallback), ("targets", list (targets.map inspectTarget))]
  | .returnValue type => type.letter ++ "Return"
  | .returnVoid => "Return"
  | .field access index => apply access.name [index.inspect]
  | .invoke kind index => apply "Invoke" [kind.inspect, index.inspect]
  | .invokeDynamic index => apply "InvokeDynamic" [index.inspect]
  | .newObject classIndex => apply "New" [classIndex.inspectClass]
  | .newArray elementCode => apply "NewArray" [toString elementCode]
  | .newReferenceArray classIndex => apply "ANewArray" [classIndex.inspectClass]
  | .arrayLength => "ArrayLength"
  | .throwReference => "AThrow"
  | .checkCast classIndex => apply "CheckCast" [classIndex.inspectClass]
  | .instanceOf classIndex => apply "InstanceOf" [classIndex.inspectClass]
  | .monitorEnter => "MonitorEnter"
  | .monitorExit => "MonitorExit"
  | .newMultiArray classIndex dimensions =>
    apply "MultiANewArray" [classIndex.inspectClass, toString dimensions]
  | .reserved opcode => apply "Reserved" [toString opcode]

end Instruction

end ClassMachine
