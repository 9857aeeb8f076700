import ClassMachine.ClassFile.Attribute

set_option autoImplicit false

/-!
The code of a method: its instructions as bytes, the room that it needs on the operand stack and in
the local variables, its exception handlers and its own attributes.
-/

namespace ClassMachine

structure ExceptionHandler where
  /-- The first offset that is covered. -/
  startPc : UInt16
  /-- The offset after the last one that is covered. -/
  endPc : UInt16
  handlerPc : UInt16
  /-- The class of what is caught; zero catches everything. -/
  catchType : ConstantIndex
  deriving DecidableEq

structure Code where
  maxStack : UInt16
  maxLocals : UInt16
  instructions : List UInt8
  handlers : List ExceptionHandler
  attributes : List Attribute
  deriving DecidableEq

namespace ExceptionHandler

def read : Reader ExceptionHandler := do
  let startPc ← Reader.uint16
  let endPc ← Reader.uint16
  let handlerPc ← Reader.uint16
  let catchType ← Reader.uint16
  pure ⟨startPc, endPc, handlerPc, catchType⟩

def encode (handler : ExceptionHandler) : List UInt8 :=
  BigEndian.encode 2 handler.startPc.toNat ++ BigEndian.encode 2 handler.endPc.toNat ++
    BigEndian.encode 2 handler.handlerPc.toNat ++ BigEndian.encode 2 handler.catchType.toNat

end ExceptionHandler

/-- Items after a two-byte count of them; there must be at most 65535. -/
def encodeCounted {α : Type} (encode : α → List UInt8) (items : List α) : List UInt8 :=
  BigEndian.encode 2 items.length ++ items.flatMap encode

namespace Code

def read : Reader Code := do
  let maxStack ← Reader.uint16
  let maxLocals ← Reader.uint16
  let length ← Reader.uint32
  let instructions ← Reader.bytes length.toNat
  let handlers ← Reader.counted ExceptionHandler.read
  let attributes ← Reader.counted Attribute.read
  pure ⟨maxStack, maxLocals, instructions, handlers, attributes⟩

def encode (code : Code) : List UInt8 :=
  BigEndian.encode 2 code.maxStack.toNat ++ BigEndian.encode 2 code.maxLocals.toNat ++
    BigEndian.encode 4 code.instructions.length ++ code.instructions ++
    encodeCounted ExceptionHandler.encode code.handlers ++
    encodeCounted Attribute.encode code.attributes

/-- All counts and lengths fit the fields that they are written in. -/
def Fits (code : Code) : Prop :=
  code.instructions.length < UInt32.size ∧ code.handlers.length < UInt16.size ∧
    code.attributes.length < UInt16.size ∧
      ∀ entry ∈ code.attributes, entry.info.length < UInt32.size

end Code

namespace AttributeKind

def code : AttributeKind Code := ⟨"Code", Code.read⟩

end AttributeKind

end ClassMachine
