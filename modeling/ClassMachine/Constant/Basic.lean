import ClassMachine.SlotVector
import ClassMachine.Text.Structural

set_option autoImplicit false

/-!
Constants of a class file. Numeric constants keep the bits of the file: no floating-point constant
is converted while it is decoded.
-/

namespace ClassMachine

abbrev ConstantIndex := UInt16

inductive HandleKind where
  | getField
  | getStatic
  | putField
  | putStatic
  | invokeVirtual
  | invokeStatic
  | invokeSpecial
  | newInvokeSpecial
  | invokeInterface
  deriving DecidableEq

namespace HandleKind

def name : HandleKind → String
  | .getField => "GetField"
  | .getStatic => "GetStatic"
  | .putField => "PutField"
  | .putStatic => "PutStatic"
  | .invokeVirtual => "InvokeVirtual"
  | .invokeStatic => "InvokeStatic"
  | .invokeSpecial => "InvokeSpecial"
  | .newInvokeSpecial => "NewInvokeSpecial"
  | .invokeInterface => "InvokeInterface"

def code : HandleKind → UInt8
  | .getField => 1
  | .getStatic => 2
  | .putField => 3
  | .putStatic => 4
  | .invokeVirtual => 5
  | .invokeStatic => 6
  | .invokeSpecial => 7
  | .newInvokeSpecial => 8
  | .invokeInterface => 9

def ofCode? : UInt8 → Option HandleKind
  | 1 => some .getField
  | 2 => some .getStatic
  | 3 => some .putField
  | 4 => some .putStatic
  | 5 => some .invokeVirtual
  | 6 => some .invokeStatic
  | 7 => some .invokeSpecial
  | 8 => some .newInvokeSpecial
  | 9 => some .invokeInterface
  | _ => none

@[simp]
theorem ofCode?_code (kind : HandleKind) : ofCode? kind.code = some kind := by
  cases kind <;> rfl

end HandleKind

inductive Constant where
  /-- Text in modified UTF-8. -/
  | utf8 (bytes : List UInt8)
  | integer (value : Int32)
  | float (bits : UInt32)
  | long (value : Int64)
  | double (bits : UInt64)
  | classRef (name : ConstantIndex)
  | string (text : ConstantIndex)
  | fieldRef (owner nameAndType : ConstantIndex)
  /-- A method of a class or of an interface. -/
  | methodRef (owner nameAndType : ConstantIndex) (isInterface : Bool)
  | nameAndType (name descriptor : ConstantIndex)
  | methodHandle (kind : HandleKind) (member : ConstantIndex)
  | methodType (descriptor : ConstantIndex)
  | dynamic (bootstrapMethod : UInt16) (nameAndType : ConstantIndex)
  | invokeDynamic (bootstrapMethod : UInt16) (nameAndType : ConstantIndex)
  | moduleName (name : ConstantIndex)
  | packageName (name : ConstantIndex)
  deriving DecidableEq

namespace Constant

def kindName : Constant → String
  | .utf8 _ => "Utf8"
  | .integer _ => "Integer"
  | .float _ => "Float"
  | .long _ => "Long"
  | .double _ => "Double"
  | .classRef _ => "Class"
  | .string _ => "String"
  | .fieldRef .. => "Fieldref"
  | .methodRef _ _ false => "Methodref"
  | .methodRef _ _ true => "InterfaceMethodref"
  | .nameAndType .. => "NameAndType"
  | .methodHandle .. => "MethodHandle"
  | .methodType _ => "MethodType"
  | .dynamic .. => "Dynamic"
  | .invokeDynamic .. => "InvokeDynamic"
  | .moduleName _ => "Module"
  | .packageName _ => "Package"

/-- Eight-byte constants take two indices, the second of which is never a valid one. -/
def isEightByte : Constant → Bool
  | .long _ | .double _ => true
  | _ => false

instance : HasWidth Constant where
  width constant := if constant.isEightByte then 2 else 1

theorem width_pos (constant : Constant) : 0 < width constant := by
  change 0 < if constant.isEightByte then 2 else 1
  split <;> decide

end Constant

end ClassMachine
