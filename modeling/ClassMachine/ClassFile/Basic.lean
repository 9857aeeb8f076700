import ClassMachine.AccessFlags
import ClassMachine.ClassFile.Code
import ClassMachine.Descriptor.Parser

set_option autoImplicit false

/-!
Decoded class files, and what their members and names are once the constant pool has been asked.
-/

namespace ClassMachine

/-- A field or a method. Both are laid out alike and differ in their table of access flags. -/
structure Member (owner : FlagOwner) where
  flags : AccessFlags owner
  name : ConstantIndex
  descriptor : ConstantIndex
  attributes : List Attribute
  deriving DecidableEq

abbrev Field := Member .field

abbrev Method := Member .method

structure Version where
  major : UInt16
  minor : UInt16
  deriving DecidableEq

structure ClassFile where
  version : Version
  constants : ConstantPool
  flags : AccessFlags .classFile
  thisClass : ConstantIndex
  /-- Zero if there is no superclass. -/
  superClass : ConstantIndex
  interfaces : List ConstantIndex
  fields : List Field
  methods : List Method
  attributes : List Attribute

namespace Member

variable {owner : FlagOwner}

def nameText (member : Member owner) (pool : ConstantPool) : Except DecodeError String :=
  pool.utf8 member.name

def descriptorText (member : Member owner) (pool : ConstantPool) : Except DecodeError String :=
  pool.utf8 member.descriptor

end Member

namespace Field

def type (field : Field) (pool : ConstantPool) : Except DecodeError FieldType := do
  FieldType.parse (← field.descriptorText pool)

def constantValue (field : Field) (pool : ConstantPool) :
    Except DecodeError (Option ConstantIndex) :=
  AttributeKind.constantValue.find pool field.attributes

end Field

namespace Method

def type (method : Method) (pool : ConstantPool) : Except DecodeError MethodDescriptor := do
  MethodDescriptor.parse (← method.descriptorText pool)

/-- The code of a method; an abstract or native one has none. -/
def code (method : Method) (pool : ConstantPool) : Except DecodeError (Option Code) :=
  AttributeKind.code.find pool method.attributes

def isStatic (method : Method) : Bool := method.flags.isStatic

/-- Whether a method has this name and descriptor. The descriptor is looked at only if the name is
the right one. -/
def isNamed (method : Method) (pool : ConstantPool) (name descriptor : String) :
    Except DecodeError Bool := do
  let nameText ← method.nameText pool
  if nameText = name then
    let descriptorText ← method.descriptorText pool
    pure (descriptorText = descriptor)
  else
    pure false

/-- The position of the first method with this name and descriptor. -/
def findIndex (pool : ConstantPool) (name descriptor : String) :
    List Method → Except DecodeError (Option Nat)
  | [] => .ok none
  | method :: others => do
    if ← method.isNamed pool name descriptor then
      pure (some 0)
    else
      let position ← findIndex pool name descriptor others
      pure (position.map (· + 1))

end Method

namespace Version

def text (version : Version) : String :=
  toString version.major ++ "." ++ toString version.minor

end Version

namespace ClassFile

def thisClassName (classFile : ClassFile) : Except DecodeError String :=
  classFile.constants.className classFile.thisClass

def superClassName (classFile : ClassFile) : Except DecodeError (Option String) :=
  if classFile.superClass = 0 then .ok none
  else some <$> classFile.constants.className classFile.superClass

def interfaceNames (classFile : ClassFile) : Except DecodeError (List String) :=
  classFile.interfaces.mapM classFile.constants.className

def sourceFile (classFile : ClassFile) : Except DecodeError (Option String) := do
  match ← AttributeKind.sourceFile.find classFile.constants classFile.attributes with
  | some name => some <$> classFile.constants.utf8 name
  | none => .ok none

def findMethodIndex (classFile : ClassFile) (name descriptor : String) :
    Except DecodeError (Option Nat) :=
  Method.findIndex classFile.constants name descriptor classFile.methods

end ClassFile

end ClassMachine
