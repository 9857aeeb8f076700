import ClassMachine.Constant.Basic

set_option autoImplicit false

/-!
The structural text of constants. Every index is shown with the kind of constant that it must
lead to.
-/

namespace ClassMachine

namespace ConstantIndex

open Structural

def inspect (index : ConstantIndex) : String :=
  apply "ConstantIndex" [toString index]

def inspectUtf8 (index : ConstantIndex) : String :=
  apply "Utf8ConstantIndex" [inspect index]

def inspectClass (index : ConstantIndex) : String :=
  apply "ClassConstantIndex" [inspect index]

def inspectNameAndType (index : ConstantIndex) : String :=
  apply "NameAndTypeConstantIndex" [inspect index]

end ConstantIndex

namespace Constant

open Structural ConstantIndex

def inspect : Constant → String
  | .utf8 bytes => apply "Utf8" [list (bytes.map toString)]
  | .integer value => apply "Integer" [toString value]
  | .float bits => apply "Float" [toString bits]
  | .long value => apply "Long" [toString value]
  | .double bits => apply "Double" [toString bits]
  | .classRef name => apply "Class" [inspectUtf8 name]
  | .string text => apply "String" [inspectUtf8 text]
  | .fieldRef owner member =>
    record "FieldRef"
      [("class", inspectClass owner), ("name_and_type", inspectNameAndType member)]
  | .methodRef owner member isInterface =>
    record "MethodRef"
      [("class", inspectClass owner), ("name_and_type", inspectNameAndType member),
        ("is_interface", boolean isInterface)]
  | .nameAndType name descriptor =>
    record "NameAndType" [("name", inspectUtf8 name), ("descriptor", inspectUtf8 descriptor)]
  | .methodHandle kind member =>
    record "MethodHandle" [("handle_kind", kind.name), ("member", ConstantIndex.inspect member)]
  | .methodType descriptor => record "MethodType" [("descriptor", inspectUtf8 descriptor)]
  | .dynamic bootstrapMethod member =>
    record "Dynamic"
      [("bootstrap_method", toString bootstrapMethod),
        ("name_and_type", inspectNameAndType member)]
  | .invokeDynamic bootstrapMethod member =>
    record "InvokeDynamic"
      [("bootstrap_method", toString bootstrapMethod),
        ("name_and_type", inspectNameAndType member)]
  | .moduleName name => apply "Module" [inspectUtf8 name]
  | .packageName name => apply "Package" [inspectUtf8 name]

end Constant

end ClassMachine
