import ClassMachine.Binary.Reader

set_option autoImplicit false

/-!
Access flags of classes, methods and fields. One bit can mean different things on different owners,
so a flag set carries the kind of its owner, whose table names the bits. Bits that the table does
not name are dropped, so files of newer versions of the format still decode.
-/

namespace ClassMachine

inductive FlagOwner where
  | classFile
  | method
  | field
  deriving DecidableEq

namespace FlagOwner

def table : FlagOwner → List (UInt16 × String)
  | .classFile => [
    (0x0001, "PUBLIC"), (0x0010, "FINAL"), (0x0020, "SUPER"), (0x0200, "INTERFACE"),
    (0x0400, "ABSTRACT"), (0x1000, "SYNTHETIC"), (0x2000, "ANNOTATION"), (0x4000, "ENUM")]
  | .method => [
    (0x0001, "PUBLIC"), (0x0002, "PRIVATE"), (0x0004, "PROTECTED"), (0x0008, "STATIC"),
    (0x0010, "FINAL"), (0x0020, "SYNCHRONIZED"), (0x0040, "BRIDGE"), (0x0080, "VARARGS"),
    (0x0100, "NATIVE"), (0x0400, "ABSTRACT"), (0x0800, "STRICT"), (0x1000, "SYNTHETIC")]
  | .field => [
    (0x0001, "PUBLIC"), (0x0002, "PRIVATE"), (0x0004, "PROTECTED"), (0x0008, "STATIC"),
    (0x0010, "FINAL"), (0x0040, "VOLATILE"), (0x0080, "TRANSIENT"), (0x1000, "SYNTHETIC"),
    (0x4000, "ENUM")]

def mask (owner : FlagOwner) : UInt16 :=
  owner.table.foldl (fun bits flag => bits ||| flag.1) 0

end FlagOwner

structure AccessFlags (owner : FlagOwner) where
  bits : UInt16
  deriving DecidableEq

namespace AccessFlags

variable {owner : FlagOwner}

def ofMask (owner : FlagOwner) (mask : UInt16) : AccessFlags owner :=
  ⟨mask &&& owner.mask⟩

/-- Every bit has a name. -/
def InTable (flags : AccessFlags owner) : Prop :=
  flags.bits &&& owner.mask = flags.bits

instance (flags : AccessFlags owner) : Decidable flags.InTable :=
  inferInstanceAs (Decidable (_ = _))

theorem inTable_ofMask (mask : UInt16) : (ofMask owner mask).InTable := by
  simp [ofMask, InTable, UInt16.and_assoc]

def names (flags : AccessFlags owner) : List String :=
  (owner.table.filter fun flag => flags.bits &&& flag.1 = flag.1).map Prod.snd

def text (flags : AccessFlags owner) : String :=
  if flags.names.isEmpty then "(empty)" else " | ".intercalate flags.names

def read (owner : FlagOwner) : Reader (AccessFlags owner) :=
  ofMask owner <$> Reader.uint16

/-- Methods that run without an object. -/
def isStatic (flags : AccessFlags .method) : Bool :=
  flags.bits &&& 0x0008 = 0x0008

end AccessFlags

end ClassMachine
