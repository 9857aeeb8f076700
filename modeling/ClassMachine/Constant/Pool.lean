import ClassMachine.Constant.Codec
import ClassMachine.Constant.Inspect
import ClassMachine.Text.ModifiedUtf8

set_option autoImplicit false

/-!
The constant pool. Indices start at one, and eight-byte constants take two of them. In a file the
pool is preceded by its count, which is one more than the highest index; constants are read until
the next free index is that count.
-/

namespace ClassMachine

structure ConstantPool where
  constants : SlotVector Constant
  /-- The constants were pushed one after the other, from index one on. -/
  constants_eq : constants = .ofList 1 constants.toList

/-- The names that a reference to a method leads to. -/
structure MethodRef where
  owner : String
  name : String
  descriptor : String
  deriving DecidableEq

namespace ConstantPool

def empty : ConstantPool := ⟨.empty 1, rfl⟩

def ofList (constants : List Constant) : ConstantPool where
  constants := .ofList 1 constants
  constants_eq := by rw [SlotVector.toList_ofList]

def toList (pool : ConstantPool) : List Constant := pool.constants.toList

@[simp]
theorem toList_ofList (constants : List Constant) : (ofList constants).toList = constants :=
  SlotVector.toList_ofList 1 constants

@[simp]
theorem ofList_toList (pool : ConstantPool) : ofList pool.toList = pool := by
  obtain ⟨constants, constants_eq⟩ := pool
  simp only [ofList, toList, mk.injEq]
  exact constants_eq.symm

/-- The number of constants; eight-byte ones count once. -/
def size (pool : ConstantPool) : Nat := pool.constants.size

def isEmpty (pool : ConstantPool) : Bool := pool.constants.isEmpty

/-- The count that the pool is written with. -/
def count (pool : ConstantPool) : UInt16 := UInt16.ofNat pool.constants.next

theorem constants_eq_of_push {pool : ConstantPool} {constant : Constant} {offset : Nat}
    {constants : SlotVector Constant}
    (pushed : pool.constants.push constant = .ok (offset, constants)) :
    constants = .ofList 1 constants.toList := by
  obtain ⟨-, -, rfl⟩ := SlotVector.push_eq_ok.mp pushed
  rw [SlotVector.toList_append, ← SlotVector.append_ofList, ← pool.constants_eq]

/-- Adds a constant and answers with its index. -/
def push (pool : ConstantPool) (constant : Constant) :
    Except SlotVector.OffsetOverflow (ConstantIndex × ConstantPool) :=
  match pushed : pool.constants.push constant with
  | .error overflow => .error overflow
  | .ok (offset, constants) => .ok (UInt16.ofNat offset, ⟨constants, constants_eq_of_push pushed⟩)

def indexed (pool : ConstantPool) : List (ConstantIndex × Constant) :=
  pool.constants.toEntries.map fun entry => (UInt16.ofNat entry.offset, entry.item)

def get (pool : ConstantPool) (index : ConstantIndex) : Except DecodeError Constant :=
  match pool.constants.lookup index.toNat with
  | .found constant => .ok constant
  | _ => .error (.invalidConstantIndex index)

def utf8 (pool : ConstantPool) (index : ConstantIndex) : Except DecodeError String := do
  match ← pool.get index with
  | .utf8 bytes =>
    match ModifiedUtf8.decode bytes with
    | some text => .ok text
    | none => .error (.malformedUtf8 index)
  | _ => .error (.unexpectedConstant index .utf8)

def className (pool : ConstantPool) (index : ConstantIndex) : Except DecodeError String := do
  match ← pool.get index with
  | .classRef name => pool.utf8 name
  | _ => .error (.unexpectedConstant index .classRef)

def nameAndType (pool : ConstantPool) (index : ConstantIndex) :
    Except DecodeError (String × String) := do
  match ← pool.get index with
  | .nameAndType name descriptor => do
    let name ← pool.utf8 name
    let descriptor ← pool.utf8 descriptor
    .ok (name, descriptor)
  | _ => .error (.unexpectedConstant index .nameAndType)

def methodRef (pool : ConstantPool) (index : ConstantIndex) : Except DecodeError MethodRef := do
  match ← pool.get index with
  | .methodRef owner nameAndType _ => do
    let (name, descriptor) ← pool.nameAndType nameAndType
    let owner ← pool.className owner
    .ok ⟨owner, name, descriptor⟩
  | _ => .error (.unexpectedConstant index .methodRef)

/-- Reads constants that fill this many indices. -/
def readConstants (count : UInt16) : Nat → Reader (List Constant)
  | 0 => pure []
  | 1 => do
    let constant ← Constant.read
    if constant.isEightByte then throw (.invalidConstantPoolCount count)
    pure [constant]
  | indices + 2 => do
    let constant ← Constant.read
    let others ←
      if constant.isEightByte then readConstants count indices
      else readConstants count (indices + 1)
    pure (constant :: others)

def read : Reader ConstantPool := do
  let count ← Reader.uint16
  if count = 0 then throw (.invalidConstantPoolCount count)
  let constants ← readConstants count (count.toNat - 1)
  pure (ofList constants)

/-- The bytes of a pool whose count is at most 65535. -/
def encode (pool : ConstantPool) : List UInt8 :=
  BigEndian.encode 2 pool.constants.next ++ pool.toList.flatMap Constant.encode

def inspect (pool : ConstantPool) : String :=
  Structural.apply "ConstantPool"
    [Structural.list (pool.constants.toEntries.map fun entry =>
      "#" ++ toString entry.offset ++ " = " ++ entry.item.inspect)]

end ConstantPool

end ClassMachine
