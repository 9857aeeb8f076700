import ClassMachine.ClassFile.Basic

set_option autoImplicit false

/-!
The written form of class files. `ClassFile.parse` accepts a byte string that is a class file and
nothing else; `ClassFile.encode` writes one.
-/

namespace ClassMachine

namespace Version

/-- The minor number comes first although it is the less significant one. -/
def read : Reader Version := do
  let minor ← Reader.uint16
  let major ← Reader.uint16
  pure ⟨major, minor⟩

def encode (version : Version) : List UInt8 :=
  BigEndian.encode 2 version.minor.toNat ++ BigEndian.encode 2 version.major.toNat

end Version

namespace Member

def read (owner : FlagOwner) : Reader (Member owner) := do
  let flags ← AccessFlags.read owner
  let name ← Reader.uint16
  let descriptor ← Reader.uint16
  let attributes ← Reader.counted Attribute.read
  pure ⟨flags, name, descriptor, attributes⟩

def encode {owner : FlagOwner} (member : Member owner) : List UInt8 :=
  BigEndian.encode 2 member.flags.bits.toNat ++ BigEndian.encode 2 member.name.toNat ++
    BigEndian.encode 2 member.descriptor.toNat ++ encodeCounted Attribute.encode member.attributes

end Member

namespace ClassFile

/-- The first four bytes of every class file. -/
def magic : List UInt8 := [0xCA, 0xFE, 0xBA, 0xBE]

/-- What a class file begins with. -/
structure Preamble where
  version : Version
  constants : ConstantPool

namespace Preamble

def read : Reader Preamble := do
  let start ← Reader.bytes 4
  if start ≠ magic then throw .notRecognizedFormat
  let version ← Version.read
  let constants ← ConstantPool.read
  pure ⟨version, constants⟩

def readRest (preamble : Preamble) : Reader ClassFile := do
  let flags ← AccessFlags.read .classFile
  let thisClass ← Reader.uint16
  let superClass ← Reader.uint16
  let interfaces ← Reader.counted Reader.uint16
  let fields ← Reader.counted (Member.read .field)
  let methods ← Reader.counted (Member.read .method)
  let attributes ← Reader.counted Attribute.read
  pure
    { version := preamble.version
      constants := preamble.constants
      flags, thisClass, superClass, interfaces, fields, methods, attributes }

end Preamble

def read : Reader ClassFile := do
  let preamble ← Preamble.read
  preamble.readRest

def parse (bytes : List UInt8) : Except DecodeError ClassFile :=
  match read (Cursor.ofBytes bytes) with
  | .error reason _ => .error reason
  | .ok classFile cursor => do
    cursor.finish
    .ok classFile

def encode (classFile : ClassFile) : List UInt8 :=
  magic ++ classFile.version.encode ++ classFile.constants.encode ++
    BigEndian.encode 2 classFile.flags.bits.toNat ++
    BigEndian.encode 2 classFile.thisClass.toNat ++
    BigEndian.encode 2 classFile.superClass.toNat ++
    encodeCounted (fun index => BigEndian.encode 2 index.toNat) classFile.interfaces ++
    encodeCounted Member.encode classFile.fields ++
    encodeCounted Member.encode classFile.methods ++
    encodeCounted Attribute.encode classFile.attributes

end ClassFile

end ClassMachine
