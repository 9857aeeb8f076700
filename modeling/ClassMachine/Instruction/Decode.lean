import ClassMachine.Binary.Reader
import ClassMachine.Fault
import ClassMachine.Instruction.Opcode

set_option autoImplicit false

/-!
Decoding one instruction at an offset of a code array. The operands of a switch start at a multiple
of four from the start of the code, so up to three bytes before them are passed over. Code that
ends inside an instruction is a fault of its own.
-/

namespace ClassMachine

abbrev OperandReader (α : Type) := EStateM Fault Cursor α

namespace OperandReader

/-- The fault that a failed read of operands stands for. -/
def faultOf : DecodeError → Fault
  | .unexpectedEndOfInput .. => .truncatedInstruction
  | error => .decode error

def ofReader {α : Type} (reader : Reader α) : OperandReader α := fun cursor =>
  match reader cursor with
  | .ok result cursor => .ok result cursor
  | .error error cursor => .error (faultOf error) cursor

end OperandReader

namespace Instruction

open OperandReader

/-- The bytes between an opcode at this offset and the next multiple of four. -/
def switchPadding (pc : Nat) : Nat := (4 - (pc + 1) % 4) % 4

def readIncrement : OperandReader Instruction := do
  let index ← ofReader Reader.uint8
  let amount ← ofReader Reader.int8
  pure (.increment index.toUInt16 amount.toInt16)

def readInterfaceCall : OperandReader Instruction := do
  let index ← ofReader Reader.uint16
  let argumentSlots ← ofReader Reader.uint8
  ofReader (Reader.skip 1)
  pure (.invoke (.interface argumentSlots) index)

def readDynamicCall : OperandReader Instruction := do
  let index ← ofReader Reader.uint16
  ofReader (Reader.skip 2)
  pure (.invokeDynamic index)

def readMultiArray : OperandReader Instruction := do
  let classIndex ← ofReader Reader.uint16
  let dimensions ← ofReader Reader.uint8
  pure (.newMultiArray classIndex dimensions)

def readTableSwitch (pc : Nat) : OperandReader Instruction := do
  ofReader (Reader.skip (switchPadding pc))
  let fallback ← ofReader Reader.int32
  let low ← ofReader Reader.int32
  let high ← ofReader Reader.int32
  let count := high.toInt - low.toInt + 1
  if count < 0 then throw (.invalidSwitch count)
  let targets ← ofReader (Reader.times count.toNat Reader.int32)
  pure (.tableSwitch fallback low targets)

/-- A key and the offset to go to for it. -/
def readCase : Reader (Int32 × Int32) := do
  let key ← Reader.int32
  let offset ← Reader.int32
  pure (key, offset)

def readLookupSwitch (pc : Nat) : OperandReader Instruction := do
  ofReader (Reader.skip (switchPadding pc))
  let fallback ← ofReader Reader.int32
  let count ← ofReader Reader.int32
  if count.toInt < 0 then throw (.invalidSwitch count.toInt)
  let targets ← ofReader (Reader.times count.toInt.toNat readCase)
  pure (.lookupSwitch fallback targets)

/-- The instructions with one local variable that have a wide form. -/
def ofWideOpcode? : UInt8 → Option (UInt16 → Instruction)
  | 0x15 => some (.load .int)
  | 0x16 => some (.load .long)
  | 0x17 => some (.load .float)
  | 0x18 => some (.load .double)
  | 0x19 => some (.load .reference)
  | 0x36 => some (.store .int)
  | 0x37 => some (.store .long)
  | 0x38 => some (.store .float)
  | 0x39 => some (.store .double)
  | 0x3a => some (.store .reference)
  | 0xa9 => some .returnFromSubroutine
  | _ => none

/-- Reads the operands of the wide form of an instruction with this opcode. -/
def readWideOperands (opcode : UInt8) : OperandReader Instruction :=
  match ofWideOpcode? opcode with
  | some build => ofReader (build <$> Reader.uint16)
  | none => do
    if opcode ≠ 0x84 then throw (.invalidWide opcode)
    let index ← ofReader Reader.uint16
    let amount ← ofReader Reader.int16
    pure (.increment index amount)

def readWide : OperandReader Instruction := do
  let opcode ← ofReader Reader.uint8
  readWideOperands opcode

/-- Reads the operands after an opcode at this offset. -/
def readOperands (pc : Nat) : OperandForm → OperandReader Instruction
  | .plain instruction => pure instruction
  | .int8 build => ofReader (build <$> Reader.int8)
  | .int16 build => ofReader (build <$> Reader.int16)
  | .int32 build => ofReader (build <$> Reader.int32)
  | .uint8 build => ofReader (build <$> Reader.uint8)
  | .uint16 build => ofReader (build <$> Reader.uint16)
  | .increment => readIncrement
  | .interfaceCall => readInterfaceCall
  | .dynamicCall => readDynamicCall
  | .multiArray => readMultiArray
  | .tableSwitch => readTableSwitch pc
  | .lookupSwitch => readLookupSwitch pc
  | .wide => readWide

/-- The instruction at an offset of the code, and the offset after it. An offset outside of the code
is reported as a signed word of 64 bits. -/
def decode (code : List UInt8) (pc : Nat) : Except Fault (Instruction × Nat) :=
  match code.drop pc with
  | [] => .error (.invalidBranchTarget (Int.bmod pc UInt64.size))
  | opcode :: operands =>
    match OpcodeInfo.ofOpcode? opcode with
    | none => .error (.unsupportedOpcode opcode)
    | some info =>
      match readOperands pc info.form (Cursor.ofBytes operands) with
      | .error fault _ => .error fault
      | .ok instruction cursor =>
        .ok (instruction, pc + 1 + info.operandBytes.getD cursor.position)

/-- Decodes one instruction after the other from an offset on. Stops at the end of the code or at
an instruction that cannot be decoded, which is the last outcome then; gives up after `limit`
instructions. -/
def sweep (code : List UInt8) : Nat → Nat → List (Nat × Except Fault (Instruction × Nat))
  | 0, _ => []
  | limit + 1, pc =>
    match decode code pc with
    | .error fault => [(pc, .error fault)]
    | .ok (instruction, next) =>
      (pc, .ok (instruction, next)) ::
        if next = code.length then [] else sweep code limit next

end Instruction

end ClassMachine
