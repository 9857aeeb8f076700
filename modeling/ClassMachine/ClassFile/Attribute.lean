import ClassMachine.Constant.Pool

set_option autoImplicit false

/-!
Attributes of classes, fields, methods and code: a name, a four-byte length and that many bytes.
The bytes stay as they are, so unknown attributes are passed over correctly; a known kind is read
from them on demand and must use all of them.
-/

namespace ClassMachine

structure Attribute where
  name : ConstantIndex
  info : List UInt8
  deriving DecidableEq

namespace Attribute

def read : Reader Attribute := do
  let name ← Reader.uint16
  let length ← Reader.uint32
  let info ← Reader.bytes length.toNat
  pure ⟨name, info⟩

/-- The bytes of an attribute whose information has less than 2³² of them. -/
def encode (entry : Attribute) : List UInt8 :=
  BigEndian.encode 2 entry.name.toNat ++ BigEndian.encode 4 entry.info.length ++
    entry.info

end Attribute

/-- A kind of attribute whose information has a known form. -/
structure AttributeKind (α : Type) where
  name : String
  reader : Reader α

namespace AttributeKind

variable {α : Type}

/-- Reads an attribute's information as this kind, which must use all of it. -/
def decode (kind : AttributeKind α) (info : List UInt8) : Except DecodeError α :=
  match kind.reader (Cursor.ofBytes info) with
  | .error reason _ => .error reason
  | .ok result cursor =>
    if cursor.isEmpty then .ok result
    else .error (.attributeLengthMismatch kind.name info.length cursor.position)

/-- The first attribute with this kind's name. A name that is no text before it is an error. -/
def find (kind : AttributeKind α) (pool : ConstantPool) :
    List Attribute → Except DecodeError (Option α)
  | [] => .ok none
  | entry :: others => do
    let name ← pool.utf8 entry.name
    if name = kind.name then some <$> kind.decode entry.info
    else kind.find pool others

def constantValue : AttributeKind ConstantIndex := ⟨"ConstantValue", Reader.uint16⟩

def sourceFile : AttributeKind ConstantIndex := ⟨"SourceFile", Reader.uint16⟩

end AttributeKind

end ClassMachine
