import ClassMachine.SlotVector
import ClassMachine.Text.Structural

set_option autoImplicit false

/-!
Types of fields and signatures of methods, and their written form. A type is valid if that form can
be read back: at most 255 dimensions, and class names that are not empty and hold no semicolon.
-/

namespace ClassMachine

inductive BaseType where
  | byte
  | char
  | double
  | float
  | int
  | long
  | short
  | boolean
  deriving DecidableEq

namespace BaseType

def name : BaseType → String
  | .byte => "Byte"
  | .char => "Char"
  | .double => "Double"
  | .float => "Float"
  | .int => "Int"
  | .long => "Long"
  | .short => "Short"
  | .boolean => "Boolean"

def letter : BaseType → Char
  | .byte => 'B'
  | .char => 'C'
  | .double => 'D'
  | .float => 'F'
  | .int => 'I'
  | .long => 'J'
  | .short => 'S'
  | .boolean => 'Z'

def ofLetter? : Char → Option BaseType
  | 'B' => some .byte
  | 'C' => some .char
  | 'D' => some .double
  | 'F' => some .float
  | 'I' => some .int
  | 'J' => some .long
  | 'S' => some .short
  | 'Z' => some .boolean
  | _ => none

@[simp]
theorem ofLetter?_letter (base : BaseType) : ofLetter? base.letter = some base := by
  cases base <;> rfl

/-- The number of 32-bit slots that a value takes. -/
def width : BaseType → Nat
  | .double | .long => 2
  | _ => 1

end BaseType

inductive FieldType where
  | base (type : BaseType)
  /-- A class or interface by its binary name, such as `java/lang/String`. -/
  | object (name : String)
  | array (element : FieldType)
  deriving DecidableEq

namespace FieldType

/-- The most dimensions that an array type can have. -/
def maxDimensions : Nat := 255

def width : FieldType → Nat
  | .base type => type.width
  | .object _ | .array _ => 1

instance : HasWidth FieldType := ⟨width⟩

def dimensions : FieldType → Nat
  | .array element => element.dimensions + 1
  | _ => 0

/-- The type below all array dimensions. -/
def innermost : FieldType → FieldType
  | .array element => element.innermost
  | type => type

def arrayOf : Nat → FieldType → FieldType
  | 0, type => type
  | dimensions + 1, type => .array (arrayOf dimensions type)

def render : FieldType → List Char
  | .base type => [type.letter]
  | .object name => 'L' :: name.toList ++ [';']
  | .array element => '[' :: element.render

def HasValidNames : FieldType → Prop
  | .base _ => True
  | .object name => name.toList ≠ [] ∧ ';' ∉ name.toList
  | .array element => element.HasValidNames

def Valid (type : FieldType) : Prop :=
  type.HasValidNames ∧ type.dimensions ≤ maxDimensions

open Structural in
def inspect : FieldType → String
  | .base type => apply "Base" [type.name]
  | .object name => apply "Object" [Quoted.text name]
  | .array element => apply "Array" [element.inspect]

end FieldType

structure MethodDescriptor where
  parameters : List FieldType
  /-- Nothing is returned where this is `none`. -/
  result : Option FieldType
  deriving DecidableEq

namespace MethodDescriptor

/-- The local variable slots that the arguments take, counting the object the method runs on. -/
def parameterLength (descriptor : MethodDescriptor) (hasThis : Bool) : Nat :=
  (if hasThis then 1 else 0) + totalWidth descriptor.parameters

def renderResult : Option FieldType → List Char
  | none => ['V']
  | some type => type.render

def render (descriptor : MethodDescriptor) : List Char :=
  '(' :: descriptor.parameters.flatMap FieldType.render ++ ')' :: renderResult descriptor.result

def Valid (descriptor : MethodDescriptor) : Prop :=
  (∀ type ∈ descriptor.parameters, type.Valid) ∧ ∀ type ∈ descriptor.result, type.Valid

end MethodDescriptor

end ClassMachine
