import ClassMachine.ClassFile.Basic

set_option autoImplicit false

/-!
The outline of a class file, line by line. Lines that come before something that cannot be decoded
are kept.
-/

namespace ClassMachine.Cli

/-- Writes lines, of which the last one comes first. -/
abbrev Writing (α : Type) := EStateM DecodeError (List String) α

def say (line : String) : Writing Unit :=
  modify (line :: ·)

def describeField (pool : ConstantPool) (field : Field) : Writing Unit := do
  let name ← ofExcept (field.nameText pool)
  let descriptor ← ofExcept (field.descriptorText pool)
  say ("field " ++ name ++ ":" ++ descriptor ++ " (" ++ field.flags.text ++ ")")

def codeSize : Option Code → String
  | none => "no code"
  | some code => toString code.instructions.length ++ " bytes"

def describeMethod (pool : ConstantPool) (method : Method) : Writing Unit := do
  let code ← ofExcept (method.code pool)
  let name ← ofExcept (method.nameText pool)
  let descriptor ← ofExcept (method.descriptorText pool)
  say ("method " ++ name ++ ":" ++ descriptor ++ " (" ++ method.flags.text ++ ", " ++
    codeSize code ++ ")")

def describe (classFile : ClassFile) : Writing Unit := do
  say ("version: " ++ classFile.version.text)
  say ("flags: " ++ classFile.flags.text)
  say ("class: " ++ (← ofExcept classFile.thisClassName))
  if let some name ← ofExcept classFile.superClassName then say ("extends: " ++ name)
  for name in ← ofExcept classFile.interfaceNames do say ("implements: " ++ name)
  if let some name ← ofExcept classFile.sourceFile then say ("source: " ++ name)
  say ("constants: " ++ toString classFile.constants.size)
  for field in classFile.fields do describeField classFile.constants field
  for method in classFile.methods do describeMethod classFile.constants method

end ClassMachine.Cli
