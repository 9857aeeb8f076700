import ClassMachine.Instruction.Basic
import ClassMachine.Proofs.Binary.Primitive

set_option autoImplicit false

/-!
# The written forms of instructions

The assembler's side of the instruction set. `Encodes pc instruction bytes` says that these bytes,
written at the offset `pc`, are one of the forms of the instruction. Most instructions have one form;
those with a small operand also have a shorter one, and bytes that nothing depends on are free.
-/

namespace ClassMachine

def Literal.opcode : Literal → UInt8
  | .null => 0x01
  | .intMinusOne => 0x02
  | .int0 => 0x03
  | .int1 => 0x04
  | .int2 => 0x05
  | .int3 => 0x06
  | .int4 => 0x07
  | .int5 => 0x08
  | .long0 => 0x09
  | .long1 => 0x0a
  | .float0 => 0x0b
  | .float1 => 0x0c
  | .float2 => 0x0d
  | .double0 => 0x0e
  | .double1 => 0x0f

def NumericType.position : NumericType → UInt8
  | .int => 0
  | .long => 1
  | .float => 2
  | .double => 3

def IntegerType.position : IntegerType → UInt8
  | .int => 0
  | .long => 1

def StorageType.position : StorageType → UInt8
  | .int => 0
  | .long => 1
  | .float => 2
  | .double => 3
  | .reference => 4

def ElementType.position : ElementType → UInt8
  | .int => 0
  | .long => 1
  | .float => 2
  | .double => 3
  | .reference => 4
  | .byte => 5
  | .char => 6
  | .short => 7

def StorageType.loadOpcode (type : StorageType) : UInt8 := 0x15 + type.position

def StorageType.storeOpcode (type : StorageType) : UInt8 := 0x36 + type.position

/-- Loads and stores of the first four local variables, whose index is part of the opcode. -/
def StorageType.shortLoadOpcode (type : StorageType) (index : UInt16) : UInt8 :=
  0x1a + 4 * type.position + index.toUInt8

def StorageType.shortStoreOpcode (type : StorageType) (index : UInt16) : UInt8 :=
  0x3b + 4 * type.position + index.toUInt8

def StackShuffle.opcode : StackShuffle → UInt8
  | .pop => 0x57
  | .pop2 => 0x58
  | .dup => 0x59
  | .dupX1 => 0x5a
  | .dupX2 => 0x5b
  | .dup2 => 0x5c
  | .dup2X1 => 0x5d
  | .dup2X2 => 0x5e
  | .swap => 0x5f

def ArithmeticOperation.firstOpcode : ArithmeticOperation → UInt8
  | .add => 0x60
  | .sub => 0x64
  | .mul => 0x68
  | .div => 0x6c
  | .rem => 0x70

def ShiftDirection.firstOpcode : ShiftDirection → UInt8
  | .left => 0x78
  | .arithmeticRight => 0x7a
  | .logicalRight => 0x7c

def BitwiseOperation.firstOpcode : BitwiseOperation → UInt8
  | .and => 0x7e
  | .or => 0x80
  | .xor => 0x82

def Conversion.opcode : Conversion → UInt8
  | .intToLong => 0x85
  | .intToFloat => 0x86
  | .intToDouble => 0x87
  | .longToInt => 0x88
  | .longToFloat => 0x89
  | .longToDouble => 0x8a
  | .floatToInt => 0x8b
  | .floatToLong => 0x8c
  | .floatToDouble => 0x8d
  | .doubleToInt => 0x8e
  | .doubleToLong => 0x8f
  | .doubleToFloat => 0x90
  | .intToByte => 0x91
  | .intToChar => 0x92
  | .intToShort => 0x93

def NaNResult.position : NaNResult → UInt8
  | .less => 0
  | .greater => 1

def Comparison.position : Comparison → UInt8
  | .eq => 0
  | .ne => 1
  | .lt => 2
  | .ge => 3
  | .gt => 4
  | .le => 5

def EqualityTest.position : EqualityTest → UInt8
  | .eq => 0
  | .ne => 1

def FieldAccess.opcode : FieldAccess → UInt8
  | .getStatic => 0xb2
  | .putStatic => 0xb3
  | .getField => 0xb4
  | .putField => 0xb5

def InvokeKind.opcode? : InvokeKind → Option UInt8
  | .virtual => some 0xb6
  | .special => some 0xb7
  | .static => some 0xb8
  | .interface _ => none

namespace Instruction

def singleByte? : Instruction → Option UInt8
  | .nop => some 0x00
  | .literal value => some value.opcode
  | .load type index => if index < 4 then some (type.shortLoadOpcode index) else none
  | .store type index => if index < 4 then some (type.shortStoreOpcode index) else none
  | .arrayLoad type => some (0x2e + type.position)
  | .arrayStore type => some (0x4f + type.position)
  | .stack shuffle => some shuffle.opcode
  | .arithmetic operation type => some (operation.firstOpcode + type.position)
  | .negate type => some (0x74 + type.position)
  | .shift direction type => some (direction.firstOpcode + type.position)
  | .bitwise operation type => some (operation.firstOpcode + type.position)
  | .convert conversion => some conversion.opcode
  | .compareLongs => some 0x94
  | .compareFloats onNaN => some (0x95 + onNaN.position)
  | .compareDoubles onNaN => some (0x97 + onNaN.position)
  | .returnValue type => some (0xac + type.position)
  | .returnVoid => some 0xb1
  | .arrayLength => some 0xbe
  | .throwReference => some 0xbf
  | .monitorEnter => some 0xc2
  | .monitorExit => some 0xc3
  | .reserved opcode => if opcode ∈ [0xca, 0xfe, 0xff] then some opcode else none
  | _ => none

def twoByteOperand? : Instruction → Option (UInt8 × UInt16)
  | .pushShort value => some (0x11, value.toUInt16)
  | .loadConstant index => some (0x13, index)
  | .loadWideConstant index => some (0x14, index)
  | .branchInt comparison offset => some (0x99 + comparison.position, offset.toUInt16)
  | .branchInts comparison offset => some (0x9f + comparison.position, offset.toUInt16)
  | .branchReferences test offset => some (0xa5 + test.position, offset.toUInt16)
  | .branchNull test offset => some (0xc6 + test.position, offset.toUInt16)
  | .field access index => some (access.opcode, index)
  | .invoke kind index => kind.opcode?.map (·, index)
  | .newObject classIndex => some (0xbb, classIndex)
  | .newReferenceArray classIndex => some (0xbd, classIndex)
  | .checkCast classIndex => some (0xc0, classIndex)
  | .instanceOf classIndex => some (0xc1, classIndex)
  | _ => none

def localOperand? : Instruction → Option (UInt8 × UInt16)
  | .load type index => some (type.loadOpcode, index)
  | .store type index => some (type.storeOpcode, index)
  | .returnFromSubroutine index => some (0xa9, index)
  | _ => none

/-- Bytes before the operands of a switch at an offset: the fewest that bring them to a multiple of
four. -/
def IsPadding (pc : Nat) (padding : List UInt8) : Prop :=
  padding.length < 4 ∧ 4 ∣ pc + 1 + padding.length

def encodeTargets (targets : List Int32) : List UInt8 :=
  targets.flatMap fun target => doubleWord target.toUInt32

def encodeCases (targets : List (Int32 × Int32)) : List UInt8 :=
  targets.flatMap fun target => doubleWord target.1.toUInt32 ++ doubleWord target.2.toUInt32

/-- At an offset, these bytes are a form of the instruction. -/
inductive Encodes (pc : Nat) : Instruction → List UInt8 → Prop where
  | single {instruction : Instruction} {opcode : UInt8}
      (known : instruction.singleByte? = some opcode) : Encodes pc instruction [opcode]
  | twoByteOperand {instruction : Instruction} {opcode : UInt8} {operand : UInt16}
      (known : instruction.twoByteOperand? = some (opcode, operand)) :
      Encodes pc instruction (opcode :: word operand)
  | byteLocal {instruction : Instruction} {opcode index : UInt8}
      (known : instruction.localOperand? = some (opcode, index.toUInt16)) :
      Encodes pc instruction [opcode, index]
  | wideLocal {instruction : Instruction} {opcode : UInt8} {index : UInt16}
      (known : instruction.localOperand? = some (opcode, index)) :
      Encodes pc instruction (0xc4 :: opcode :: word index)
  | pushByte (value : Int8) : Encodes pc (.pushByte value) [0x10, value.toUInt8]
  | loadConstant (index : UInt8) : Encodes pc (.loadConstant index.toUInt16) [0x12, index]
  | increment (index : UInt8) (amount : Int8) :
      Encodes pc (.increment index.toUInt16 amount.toInt16) [0x84, index, amount.toUInt8]
  | wideIncrement (index : UInt16) (amount : Int16) :
      Encodes pc (.increment index amount) (0xc4 :: 0x84 :: word index ++ word amount.toUInt16)
  | goto (offset : Int16) : Encodes pc (.goto offset.toInt32) (0xa7 :: word offset.toUInt16)
  | wideGoto (offset : Int32) : Encodes pc (.goto offset) (0xc8 :: doubleWord offset.toUInt32)
  | jumpSubroutine (offset : Int16) :
      Encodes pc (.jumpSubroutine offset.toInt32) (0xa8 :: word offset.toUInt16)
  | wideJumpSubroutine (offset : Int32) :
      Encodes pc (.jumpSubroutine offset) (0xc9 :: doubleWord offset.toUInt32)
  | tableSwitch {padding : List UInt8} {fallback low high : Int32} {targets : List Int32}
      (padded : IsPadding pc padding) (counted : high.toInt = low.toInt + targets.length - 1) :
      Encodes pc (.tableSwitch fallback low targets)
        (0xaa :: padding ++ doubleWord fallback.toUInt32 ++ doubleWord low.toUInt32 ++
          doubleWord high.toUInt32 ++ encodeTargets targets)
  | lookupSwitch {padding : List UInt8} {fallback count : Int32}
      {targets : List (Int32 × Int32)} (padded : IsPadding pc padding)
      (counted : count.toInt = targets.length) :
      Encodes pc (.lookupSwitch fallback targets)
        (0xab :: padding ++ doubleWord fallback.toUInt32 ++ doubleWord count.toUInt32 ++
          encodeCases targets)
  | invokeInterface (index : ConstantIndex) (argumentSlots ignored : UInt8) :
      Encodes pc (.invoke (.interface argumentSlots) index)
        (0xb9 :: word index ++ [argumentSlots, ignored])
  | invokeDynamic (index : ConstantIndex) (first second : UInt8) :
      Encodes pc (.invokeDynamic index) (0xba :: word index ++ [first, second])
  | newArray (elementCode : UInt8) : Encodes pc (.newArray elementCode) [0xbc, elementCode]
  | newMultiArray (classIndex : ConstantIndex) (dimensions : UInt8) :
      Encodes pc (.newMultiArray classIndex dimensions) (0xc5 :: word classIndex ++ [dimensions])

end Instruction

end ClassMachine
