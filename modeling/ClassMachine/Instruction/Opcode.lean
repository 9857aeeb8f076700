import ClassMachine.Instruction.Basic

set_option autoImplicit false

/-!
The opcode table: for every opcode with a meaning its mnemonic, the number of bytes after it and what
they make. An opcode is its position in the table; two reserved ones stand apart at the end of the
byte range.
-/

namespace ClassMachine

/-- The form of the operands after an opcode, and the instruction that they make. -/
inductive OperandForm where
  | plain (instruction : Instruction)
  | int8 (build : Int8 → Instruction)
  | int16 (build : Int16 → Instruction)
  | int32 (build : Int32 → Instruction)
  | uint8 (build : UInt8 → Instruction)
  | uint16 (build : UInt16 → Instruction)
  /-- A local variable and a signed byte. -/
  | increment
  /-- A constant, a count of slots and a byte that is ignored. -/
  | interfaceCall
  /-- A constant and two bytes that are ignored. -/
  | dynamicCall
  /-- A constant and a count of dimensions. -/
  | multiArray
  | tableSwitch
  | lookupSwitch
  /-- Another opcode, with wider operands. -/
  | wide

structure OpcodeInfo where
  mnemonic : String
  /-- The number of operand bytes, unless it depends on them or on the instruction's position. -/
  operandBytes : Option Nat
  form : OperandForm

namespace OpcodeInfo

/-- Constants, from opcode 0x00. -/
def constants : List OpcodeInfo := [
  ⟨"nop", some 0, .plain .nop⟩,
  ⟨"aconst_null", some 0, .plain (.literal .null)⟩,
  ⟨"iconst_m1", some 0, .plain (.literal .intMinusOne)⟩,
  ⟨"iconst_0", some 0, .plain (.literal .int0)⟩,
  ⟨"iconst_1", some 0, .plain (.literal .int1)⟩,
  ⟨"iconst_2", some 0, .plain (.literal .int2)⟩,
  ⟨"iconst_3", some 0, .plain (.literal .int3)⟩,
  ⟨"iconst_4", some 0, .plain (.literal .int4)⟩,
  ⟨"iconst_5", some 0, .plain (.literal .int5)⟩,
  ⟨"lconst_0", some 0, .plain (.literal .long0)⟩,
  ⟨"lconst_1", some 0, .plain (.literal .long1)⟩,
  ⟨"fconst_0", some 0, .plain (.literal .float0)⟩,
  ⟨"fconst_1", some 0, .plain (.literal .float1)⟩,
  ⟨"fconst_2", some 0, .plain (.literal .float2)⟩,
  ⟨"dconst_0", some 0, .plain (.literal .double0)⟩,
  ⟨"dconst_1", some 0, .plain (.literal .double1)⟩,
  ⟨"bipush", some 1, .int8 .pushByte⟩,
  ⟨"sipush", some 2, .int16 .pushShort⟩,
  ⟨"ldc", some 1, .uint8 (fun index => .loadConstant index.toUInt16)⟩,
  ⟨"ldc_w", some 2, .uint16 .loadConstant⟩,
  ⟨"ldc2_w", some 2, .uint16 .loadWideConstant⟩]

/-- Loads, from opcode 0x15. -/
def loads : List OpcodeInfo := [
  ⟨"iload", some 1, .uint8 (fun index => .load .int index.toUInt16)⟩,
  ⟨"lload", some 1, .uint8 (fun index => .load .long index.toUInt16)⟩,
  ⟨"fload", some 1, .uint8 (fun index => .load .float index.toUInt16)⟩,
  ⟨"dload", some 1, .uint8 (fun index => .load .double index.toUInt16)⟩,
  ⟨"aload", some 1, .uint8 (fun index => .load .reference index.toUInt16)⟩,
  ⟨"iload_0", some 0, .plain (.load .int 0)⟩,
  ⟨"iload_1", some 0, .plain (.load .int 1)⟩,
  ⟨"iload_2", some 0, .plain (.load .int 2)⟩,
  ⟨"iload_3", some 0, .plain (.load .int 3)⟩,
  ⟨"lload_0", some 0, .plain (.load .long 0)⟩,
  ⟨"lload_1", some 0, .plain (.load .long 1)⟩,
  ⟨"lload_2", some 0, .plain (.load .long 2)⟩,
  ⟨"lload_3", some 0, .plain (.load .long 3)⟩,
  ⟨"fload_0", some 0, .plain (.load .float 0)⟩,
  ⟨"fload_1", some 0, .plain (.load .float 1)⟩,
  ⟨"fload_2", some 0, .plain (.load .float 2)⟩,
  ⟨"fload_3", some 0, .plain (.load .float 3)⟩,
  ⟨"dload_0", some 0, .plain (.load .double 0)⟩,
  ⟨"dload_1", some 0, .plain (.load .double 1)⟩,
  ⟨"dload_2", some 0, .plain (.load .double 2)⟩,
  ⟨"dload_3", some 0, .plain (.load .double 3)⟩,
  ⟨"aload_0", some 0, .plain (.load .reference 0)⟩,
  ⟨"aload_1", some 0, .plain (.load .reference 1)⟩,
  ⟨"aload_2", some 0, .plain (.load .reference 2)⟩,
  ⟨"aload_3", some 0, .plain (.load .reference 3)⟩,
  ⟨"iaload", some 0, .plain (.arrayLoad .int)⟩,
  ⟨"laload", some 0, .plain (.arrayLoad .long)⟩,
  ⟨"faload", some 0, .plain (.arrayLoad .float)⟩,
  ⟨"daload", some 0, .plain (.arrayLoad .double)⟩,
  ⟨"aaload", some 0, .plain (.arrayLoad .reference)⟩,
  ⟨"baload", some 0, .plain (.arrayLoad .byte)⟩,
  ⟨"caload", some 0, .plain (.arrayLoad .char)⟩,
  ⟨"saload", some 0, .plain (.arrayLoad .short)⟩]

/-- Stores, from opcode 0x36. -/
def stores : List OpcodeInfo := [
  ⟨"istore", some 1, .uint8 (fun index => .store .int index.toUInt16)⟩,
  ⟨"lstore", some 1, .uint8 (fun index => .store .long index.toUInt16)⟩,
  ⟨"fstore", some 1, .uint8 (fun index => .store .float index.toUInt16)⟩,
  ⟨"dstore", some 1, .uint8 (fun index => .store .double index.toUInt16)⟩,
  ⟨"astore", some 1, .uint8 (fun index => .store .reference index.toUInt16)⟩,
  ⟨"istore_0", some 0, .plain (.store .int 0)⟩,
  ⟨"istore_1", some 0, .plain (.store .int 1)⟩,
  ⟨"istore_2", some 0, .plain (.store .int 2)⟩,
  ⟨"istore_3", some 0, .plain (.store .int 3)⟩,
  ⟨"lstore_0", some 0, .plain (.store .long 0)⟩,
  ⟨"lstore_1", some 0, .plain (.store .long 1)⟩,
  ⟨"lstore_2", some 0, .plain (.store .long 2)⟩,
  ⟨"lstore_3", some 0, .plain (.store .long 3)⟩,
  ⟨"fstore_0", some 0, .plain (.store .float 0)⟩,
  ⟨"fstore_1", some 0, .plain (.store .float 1)⟩,
  ⟨"fstore_2", some 0, .plain (.store .float 2)⟩,
  ⟨"fstore_3", some 0, .plain (.store .float 3)⟩,
  ⟨"dstore_0", some 0, .plain (.store .double 0)⟩,
  ⟨"dstore_1", some 0, .plain (.store .double 1)⟩,
  ⟨"dstore_2", some 0, .plain (.store .double 2)⟩,
  ⟨"dstore_3", some 0, .plain (.store .double 3)⟩,
  ⟨"astore_0", some 0, .plain (.store .reference 0)⟩,
  ⟨"astore_1", some 0, .plain (.store .reference 1)⟩,
  ⟨"astore_2", some 0, .plain (.store .reference 2)⟩,
  ⟨"astore_3", some 0, .plain (.store .reference 3)⟩,
  ⟨"iastore", some 0, .plain (.arrayStore .int)⟩,
  ⟨"lastore", some 0, .plain (.arrayStore .long)⟩,
  ⟨"fastore", some 0, .plain (.arrayStore .float)⟩,
  ⟨"dastore", some 0, .plain (.arrayStore .double)⟩,
  ⟨"aastore", some 0, .plain (.arrayStore .reference)⟩,
  ⟨"bastore", some 0, .plain (.arrayStore .byte)⟩,
  ⟨"castore", some 0, .plain (.arrayStore .char)⟩,
  ⟨"sastore", some 0, .plain (.arrayStore .short)⟩]

/-- Operations on the stack as such, from opcode 0x57. -/
def stackOperations : List OpcodeInfo := [
  ⟨"pop", some 0, .plain (.stack .pop)⟩,
  ⟨"pop2", some 0, .plain (.stack .pop2)⟩,
  ⟨"dup", some 0, .plain (.stack .dup)⟩,
  ⟨"dup_x1", some 0, .plain (.stack .dupX1)⟩,
  ⟨"dup_x2", some 0, .plain (.stack .dupX2)⟩,
  ⟨"dup2", some 0, .plain (.stack .dup2)⟩,
  ⟨"dup2_x1", some 0, .plain (.stack .dup2X1)⟩,
  ⟨"dup2_x2", some 0, .plain (.stack .dup2X2)⟩,
  ⟨"swap", some 0, .plain (.stack .swap)⟩]

/-- Arithmetic, from opcode 0x60. -/
def mathematics : List OpcodeInfo := [
  ⟨"iadd", some 0, .plain (.arithmetic .add .int)⟩,
  ⟨"ladd", some 0, .plain (.arithmetic .add .long)⟩,
  ⟨"fadd", some 0, .plain (.arithmetic .add .float)⟩,
  ⟨"dadd", some 0, .plain (.arithmetic .add .double)⟩,
  ⟨"isub", some 0, .plain (.arithmetic .sub .int)⟩,
  ⟨"lsub", some 0, .plain (.arithmetic .sub .long)⟩,
  ⟨"fsub", some 0, .plain (.arithmetic .sub .float)⟩,
  ⟨"dsub", some 0, .plain (.arithmetic .sub .double)⟩,
  ⟨"imul", some 0, .plain (.arithmetic .mul .int)⟩,
  ⟨"lmul", some 0, .plain (.arithmetic .mul .long)⟩,
  ⟨"fmul", some 0, .plain (.arithmetic .mul .float)⟩,
  ⟨"dmul", some 0, .plain (.arithmetic .mul .double)⟩,
  ⟨"idiv", some 0, .plain (.arithmetic .div .int)⟩,
  ⟨"ldiv", some 0, .plain (.arithmetic .div .long)⟩,
  ⟨"fdiv", some 0, .plain (.arithmetic .div .float)⟩,
  ⟨"ddiv", some 0, .plain (.arithmetic .div .double)⟩,
  ⟨"irem", some 0, .plain (.arithmetic .rem .int)⟩,
  ⟨"lrem", some 0, .plain (.arithmetic .rem .long)⟩,
  ⟨"frem", some 0, .plain (.arithmetic .rem .float)⟩,
  ⟨"drem", some 0, .plain (.arithmetic .rem .double)⟩,
  ⟨"ineg", some 0, .plain (.negate .int)⟩,
  ⟨"lneg", some 0, .plain (.negate .long)⟩,
  ⟨"fneg", some 0, .plain (.negate .float)⟩,
  ⟨"dneg", some 0, .plain (.negate .double)⟩,
  ⟨"ishl", some 0, .plain (.shift .left .int)⟩,
  ⟨"lshl", some 0, .plain (.shift .left .long)⟩,
  ⟨"ishr", some 0, .plain (.shift .arithmeticRight .int)⟩,
  ⟨"lshr", some 0, .plain (.shift .arithmeticRight .long)⟩,
  ⟨"iushr", some 0, .plain (.shift .logicalRight .int)⟩,
  ⟨"lushr", some 0, .plain (.shift .logicalRight .long)⟩,
  ⟨"iand", some 0, .plain (.bitwise .and .int)⟩,
  ⟨"land", some 0, .plain (.bitwise .and .long)⟩,
  ⟨"ior", some 0, .plain (.bitwise .or .int)⟩,
  ⟨"lor", some 0, .plain (.bitwise .or .long)⟩,
  ⟨"ixor", some 0, .plain (.bitwise .xor .int)⟩,
  ⟨"lxor", some 0, .plain (.bitwise .xor .long)⟩,
  ⟨"iinc", some 2, .increment⟩]

/-- Conversions, from opcode 0x85. -/
def conversions : List OpcodeInfo := [
  ⟨"i2l", some 0, .plain (.convert .intToLong)⟩,
  ⟨"i2f", some 0, .plain (.convert .intToFloat)⟩,
  ⟨"i2d", some 0, .plain (.convert .intToDouble)⟩,
  ⟨"l2i", some 0, .plain (.convert .longToInt)⟩,
  ⟨"l2f", some 0, .plain (.convert .longToFloat)⟩,
  ⟨"l2d", some 0, .plain (.convert .longToDouble)⟩,
  ⟨"f2i", some 0, .plain (.convert .floatToInt)⟩,
  ⟨"f2l", some 0, .plain (.convert .floatToLong)⟩,
  ⟨"f2d", some 0, .plain (.convert .floatToDouble)⟩,
  ⟨"d2i", some 0, .plain (.convert .doubleToInt)⟩,
  ⟨"d2l", some 0, .plain (.convert .doubleToLong)⟩,
  ⟨"d2f", some 0, .plain (.convert .doubleToFloat)⟩,
  ⟨"i2b", some 0, .plain (.convert .intToByte)⟩,
  ⟨"i2c", some 0, .plain (.convert .intToChar)⟩,
  ⟨"i2s", some 0, .plain (.convert .intToShort)⟩]

/-- Comparisons and conditional branches, from opcode 0x94. -/
def comparisons : List OpcodeInfo := [
  ⟨"lcmp", some 0, .plain .compareLongs⟩,
  ⟨"fcmpl", some 0, .plain (.compareFloats .less)⟩,
  ⟨"fcmpg", some 0, .plain (.compareFloats .greater)⟩,
  ⟨"dcmpl", some 0, .plain (.compareDoubles .less)⟩,
  ⟨"dcmpg", some 0, .plain (.compareDoubles .greater)⟩,
  ⟨"ifeq", some 2, .int16 (.branchInt .eq)⟩,
  ⟨"ifne", some 2, .int16 (.branchInt .ne)⟩,
  ⟨"iflt", some 2, .int16 (.branchInt .lt)⟩,
  ⟨"ifge", some 2, .int16 (.branchInt .ge)⟩,
  ⟨"ifgt", some 2, .int16 (.branchInt .gt)⟩,
  ⟨"ifle", some 2, .int16 (.branchInt .le)⟩,
  ⟨"if_icmpeq", some 2, .int16 (.branchInts .eq)⟩,
  ⟨"if_icmpne", some 2, .int16 (.branchInts .ne)⟩,
  ⟨"if_icmplt", some 2, .int16 (.branchInts .lt)⟩,
  ⟨"if_icmpge", some 2, .int16 (.branchInts .ge)⟩,
  ⟨"if_icmpgt", some 2, .int16 (.branchInts .gt)⟩,
  ⟨"if_icmple", some 2, .int16 (.branchInts .le)⟩,
  ⟨"if_acmpeq", some 2, .int16 (.branchReferences .eq)⟩,
  ⟨"if_acmpne", some 2, .int16 (.branchReferences .ne)⟩]

/-- Other branches and returns, from opcode 0xa7. -/
def control : List OpcodeInfo := [
  ⟨"goto", some 2, .int16 (fun offset => .goto offset.toInt32)⟩,
  ⟨"jsr", some 2, .int16 (fun offset => .jumpSubroutine offset.toInt32)⟩,
  ⟨"ret", some 1, .uint8 (fun index => .returnFromSubroutine index.toUInt16)⟩,
  ⟨"tableswitch", none, .tableSwitch⟩,
  ⟨"lookupswitch", none, .lookupSwitch⟩,
  ⟨"ireturn", some 0, .plain (.returnValue .int)⟩,
  ⟨"lreturn", some 0, .plain (.returnValue .long)⟩,
  ⟨"freturn", some 0, .plain (.returnValue .float)⟩,
  ⟨"dreturn", some 0, .plain (.returnValue .double)⟩,
  ⟨"areturn", some 0, .plain (.returnValue .reference)⟩,
  ⟨"return", some 0, .plain .returnVoid⟩]

/-- Fields, methods, objects and arrays, from opcode 0xb2. -/
def references : List OpcodeInfo := [
  ⟨"getstatic", some 2, .uint16 (.field .getStatic)⟩,
  ⟨"putstatic", some 2, .uint16 (.field .putStatic)⟩,
  ⟨"getfield", some 2, .uint16 (.field .getField)⟩,
  ⟨"putfield", some 2, .uint16 (.field .putField)⟩,
  ⟨"invokevirtual", some 2, .uint16 (.invoke .virtual)⟩,
  ⟨"invokespecial", some 2, .uint16 (.invoke .special)⟩,
  ⟨"invokestatic", some 2, .uint16 (.invoke .static)⟩,
  ⟨"invokeinterface", some 4, .interfaceCall⟩,
  ⟨"invokedynamic", some 4, .dynamicCall⟩,
  ⟨"new", some 2, .uint16 .newObject⟩,
  ⟨"newarray", some 1, .uint8 .newArray⟩,
  ⟨"anewarray", some 2, .uint16 .newReferenceArray⟩,
  ⟨"arraylength", some 0, .plain .arrayLength⟩,
  ⟨"athrow", some 0, .plain .throwReference⟩,
  ⟨"checkcast", some 2, .uint16 .checkCast⟩,
  ⟨"instanceof", some 2, .uint16 .instanceOf⟩,
  ⟨"monitorenter", some 0, .plain .monitorEnter⟩,
  ⟨"monitorexit", some 0, .plain .monitorExit⟩]

/-- Prefixed and wide forms and the first reserved opcode, from opcode 0xc4. -/
def extended : List OpcodeInfo := [
  ⟨"wide", none, .wide⟩,
  ⟨"multianewarray", some 3, .multiArray⟩,
  ⟨"ifnull", some 2, .int16 (.branchNull .eq)⟩,
  ⟨"ifnonnull", some 2, .int16 (.branchNull .ne)⟩,
  ⟨"goto_w", some 4, .int32 .goto⟩,
  ⟨"jsr_w", some 4, .int32 .jumpSubroutine⟩,
  ⟨"breakpoint", some 0, .plain (.reserved 0xca)⟩]

/-- The entries of the opcodes from zero on without a gap. -/
def entries : List OpcodeInfo :=
  constants ++ loads ++ stores ++ stackOperations ++ mathematics ++ conversions ++ comparisons ++
    control ++ references ++ extended

def table : Array OpcodeInfo := entries.toArray

/-- What an opcode means, if it means anything. -/
def ofOpcode? (opcode : UInt8) : Option OpcodeInfo :=
  if opcode = 0xfe then some ⟨"impdep1", some 0, .plain (.reserved 0xfe)⟩
  else if opcode = 0xff then some ⟨"impdep2", some 0, .plain (.reserved 0xff)⟩
  else table[opcode.toNat]?

example : table.size = 0xcb := by decide +kernel

example : (ofOpcode? 0x60).map mnemonic = some "iadd" := by decide +kernel

example : (ofOpcode? 0xca).map mnemonic = some "breakpoint" := by decide +kernel

end OpcodeInfo

end ClassMachine
