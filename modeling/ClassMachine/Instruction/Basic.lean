import ClassMachine.Constant.Basic

set_option autoImplicit false

/-!
Instructions as they are executed. Short, wide and prefixed forms of an instruction are the same
instruction here, and instructions that differ only in a type or an operation are one constructor.
Branch offsets count from the start of the branching instruction.
-/

namespace ClassMachine

inductive NumericType where
  | int
  | long
  | float
  | double
  deriving DecidableEq

inductive IntegerType where
  | int
  | long
  deriving DecidableEq

/-- Types of local variables and returned values. -/
inductive StorageType where
  | int
  | long
  | float
  | double
  | reference
  deriving DecidableEq

inductive ElementType where
  | int
  | long
  | float
  | double
  | reference
  | byte
  | char
  | short
  deriving DecidableEq

/-- The values that have an instruction of their own. -/
inductive Literal where
  | null
  | intMinusOne
  | int0
  | int1
  | int2
  | int3
  | int4
  | int5
  | long0
  | long1
  | float0
  | float1
  | float2
  | double0
  | double1
  deriving DecidableEq

/-- Instructions that drop, copy or exchange whatever is on top of the stack. -/
inductive StackShuffle where
  | pop
  | pop2
  | dup
  | dupX1
  | dupX2
  | dup2
  | dup2X1
  | dup2X2
  | swap
  deriving DecidableEq

inductive ArithmeticOperation where
  | add
  | sub
  | mul
  | div
  | rem
  deriving DecidableEq

inductive ShiftDirection where
  | left
  | logicalRight
  | arithmeticRight
  deriving DecidableEq

inductive BitwiseOperation where
  | and
  | or
  | xor
  deriving DecidableEq

inductive Conversion where
  | intToLong
  | intToFloat
  | intToDouble
  | longToInt
  | longToFloat
  | longToDouble
  | floatToInt
  | floatToLong
  | floatToDouble
  | doubleToInt
  | doubleToLong
  | doubleToFloat
  | intToByte
  | intToChar
  | intToShort
  deriving DecidableEq

/-- What a comparison gives if one side is no number. -/
inductive NaNResult where
  | less
  | greater
  deriving DecidableEq

inductive Comparison where
  | eq
  | ge
  | gt
  | le
  | lt
  | ne
  deriving DecidableEq

inductive EqualityTest where
  | eq
  | ne
  deriving DecidableEq

inductive FieldAccess where
  | getStatic
  | putStatic
  | getField
  | putField
  deriving DecidableEq

inductive InvokeKind where
  | virtual
  | special
  | static
  /-- `argumentSlots` counts the slots of all arguments. -/
  | interface (argumentSlots : UInt8)
  deriving DecidableEq

inductive Instruction where
  | nop
  | literal (value : Literal)
  | pushByte (value : Int8)
  | pushShort (value : Int16)
  | loadConstant (index : ConstantIndex)
  | loadWideConstant (index : ConstantIndex)
  | load (type : StorageType) (index : UInt16)
  | store (type : StorageType) (index : UInt16)
  | arrayLoad (type : ElementType)
  | arrayStore (type : ElementType)
  | stack (shuffle : StackShuffle)
  | arithmetic (operation : ArithmeticOperation) (type : NumericType)
  | negate (type : NumericType)
  | shift (direction : ShiftDirection) (type : IntegerType)
  | bitwise (operation : BitwiseOperation) (type : IntegerType)
  | increment (index : UInt16) (amount : Int16)
  | convert (conversion : Conversion)
  | compareLongs
  | compareFloats (onNaN : NaNResult)
  | compareDoubles (onNaN : NaNResult)
  /-- Branches if an integer compares to zero. -/
  | branchInt (comparison : Comparison) (offset : Int16)
  /-- Branches if two integers compare to each other. -/
  | branchInts (comparison : Comparison) (offset : Int16)
  | branchReferences (test : EqualityTest) (offset : Int16)
  | branchNull (test : EqualityTest) (offset : Int16)
  | goto (offset : Int32)
  | jumpSubroutine (offset : Int32)
  | returnFromSubroutine (index : UInt16)
  /-- `targets` are for the keys from `low` on, `fallback` is for all others. -/
  | tableSwitch (fallback low : Int32) (targets : List Int32)
  /-- `targets` are keys with their offsets, `fallback` is for all others. -/
  | lookupSwitch (fallback : Int32) (targets : List (Int32 × Int32))
  | returnValue (type : StorageType)
  | returnVoid
  | field (access : FieldAccess) (index : ConstantIndex)
  | invoke (kind : InvokeKind) (index : ConstantIndex)
  | invokeDynamic (index : ConstantIndex)
  | newObject (classIndex : ConstantIndex)
  | newArray (elementCode : UInt8)
  | newReferenceArray (classIndex : ConstantIndex)
  | arrayLength
  | throwReference
  | checkCast (classIndex : ConstantIndex)
  | instanceOf (classIndex : ConstantIndex)
  | monitorEnter
  | monitorExit
  | newMultiArray (classIndex : ConstantIndex) (dimensions : UInt8)
  /-- Opcodes that a debugger or an implementation keeps for itself. -/
  | reserved (opcode : UInt8)
  deriving DecidableEq

namespace Comparison

/-- Whether the comparison holds of two operands that compare like this. -/
def holds : Comparison → Ordering → Bool
  | .eq, order => order = .eq
  | .ge, order => order ≠ .lt
  | .gt, order => order = .gt
  | .le, order => order ≠ .gt
  | .lt, order => order = .lt
  | .ne, order => order ≠ .eq

/-- The comparison that holds exactly where this one does not. -/
def negate : Comparison → Comparison
  | .eq => .ne
  | .ge => .lt
  | .gt => .le
  | .le => .gt
  | .lt => .ge
  | .ne => .eq

end Comparison

namespace EqualityTest

def holds : EqualityTest → Bool → Bool
  | .eq, areEqual => areEqual
  | .ne, areEqual => !areEqual

end EqualityTest

end ClassMachine
