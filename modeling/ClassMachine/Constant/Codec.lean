import ClassMachine.Binary.Reader
import ClassMachine.Constant.Basic

set_option autoImplicit false

/-!
The written form of constants: a tag byte, then the particulars of the kind.
-/

namespace ClassMachine

namespace HandleKind

def read : Reader HandleKind := do
  let code ← Reader.uint8
  match ofCode? code with
  | some kind => pure kind
  | none => throw (.invalidHandleKind code)

end HandleKind

namespace Constant

def readUtf8 : Reader Constant := do
  let length ← Reader.uint16
  let bytes ← Reader.bytes length.toNat
  pure (.utf8 bytes)

/-- Eight bytes, as two halves of four. -/
def readHalves : Reader UInt64 := do
  let high ← Reader.uint32
  let low ← Reader.uint32
  pure (high.toUInt64 <<< 32 ||| low.toUInt64)

def readPair (build : UInt16 → UInt16 → Constant) : Reader Constant := do
  let first ← Reader.uint16
  let second ← Reader.uint16
  pure (build first second)

def readMethodHandle : Reader Constant := do
  let kind ← HandleKind.read
  let member ← Reader.uint16
  pure (.methodHandle kind member)

/-- The particulars after a tag. -/
def readTagged : UInt8 → Reader Constant
  | 1 => readUtf8
  | 3 => .integer <$> Reader.int32
  | 4 => .float <$> Reader.uint32
  | 5 => (fun bits => .long bits.toInt64) <$> readHalves
  | 6 => .double <$> readHalves
  | 7 => .classRef <$> Reader.uint16
  | 8 => .string <$> Reader.uint16
  | 9 => readPair .fieldRef
  | 10 => readPair (.methodRef · · false)
  | 11 => readPair (.methodRef · · true)
  | 12 => readPair .nameAndType
  | 15 => readMethodHandle
  | 16 => .methodType <$> Reader.uint16
  | 17 => readPair .dynamic
  | 18 => readPair .invokeDynamic
  | 19 => .moduleName <$> Reader.uint16
  | 20 => .packageName <$> Reader.uint16
  | tag => throw (.undefinedConstantTag tag)

def read : Reader Constant := do
  let tag ← Reader.uint8
  readTagged tag

def tag : Constant → UInt8
  | .utf8 _ => 1
  | .integer _ => 3
  | .float _ => 4
  | .long _ => 5
  | .double _ => 6
  | .classRef _ => 7
  | .string _ => 8
  | .fieldRef .. => 9
  | .methodRef _ _ false => 10
  | .methodRef _ _ true => 11
  | .nameAndType .. => 12
  | .methodHandle .. => 15
  | .methodType _ => 16
  | .dynamic .. => 17
  | .invokeDynamic .. => 18
  | .moduleName _ => 19
  | .packageName _ => 20

def encodeParticulars : Constant → List UInt8
  | .utf8 bytes => BigEndian.encode 2 bytes.length ++ bytes
  | .integer value => BigEndian.encode 4 value.toUInt32.toNat
  | .float bits => BigEndian.encode 4 bits.toNat
  | .long value => BigEndian.encode 8 value.toUInt64.toNat
  | .double bits => BigEndian.encode 8 bits.toNat
  | .classRef index | .string index | .methodType index | .moduleName index
  | .packageName index => BigEndian.encode 2 index.toNat
  | .fieldRef first second | .methodRef first second _ | .nameAndType first second
  | .dynamic first second | .invokeDynamic first second =>
    BigEndian.encode 2 first.toNat ++ BigEndian.encode 2 second.toNat
  | .methodHandle kind member => kind.code :: BigEndian.encode 2 member.toNat

/-- The bytes of a constant whose text, if it is one, has at most 65535 of them. -/
def encode (constant : Constant) : List UInt8 :=
  constant.tag :: constant.encodeParticulars

end Constant

end ClassMachine
