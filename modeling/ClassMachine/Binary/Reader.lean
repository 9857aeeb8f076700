import ClassMachine.Binary.BigEndian
import ClassMachine.DecodeError

set_option autoImplicit false

/-!
Reading from the front of a byte string. A primitive read either takes the bytes that it needs or
fails and leaves the cursor where it was; a sequence of reads that fails keeps what its earlier
parts took. Numbers are big-endian.
-/

namespace ClassMachine

/-- The unread part of a byte string, and how many bytes came before it. -/
structure Cursor where
  rest : List UInt8
  position : Nat
  deriving DecidableEq

namespace Cursor

def ofBytes (bytes : List UInt8) : Cursor := ⟨bytes, 0⟩

def remaining (cursor : Cursor) : Nat := cursor.rest.length

def isEmpty (cursor : Cursor) : Bool := cursor.rest.isEmpty

def advance (cursor : Cursor) (count : Nat) : Cursor :=
  ⟨cursor.rest.drop count, cursor.position + count⟩

def finish (cursor : Cursor) : Except DecodeError Unit :=
  if cursor.isEmpty then .ok () else .error (.trailingBytes cursor.remaining)

end Cursor

abbrev Reader (α : Type) := EStateM DecodeError Cursor α

namespace Reader

/-- Whether a list has at least `count` items; looks at no item after those. -/
def hasAtLeast {α : Type} : Nat → List α → Bool
  | 0, _ => true
  | _ + 1, [] => false
  | count + 1, _ :: items => hasAtLeast count items

theorem hasAtLeast_eq {α : Type} (count : Nat) (items : List α) :
    hasAtLeast count items = decide (count ≤ items.length) := by
  induction items generalizing count with
  | nil => cases count <;> simp [hasAtLeast]
  | cons item items inductionHypothesis => cases count <;> simp [hasAtLeast, inductionHypothesis]

/-- Exactly `count` bytes. -/
def bytes (count : Nat) : Reader (List UInt8) := fun cursor =>
  if hasAtLeast count cursor.rest then
    .ok (cursor.rest.take count) (cursor.advance count)
  else
    .error (.unexpectedEndOfInput count cursor.remaining) cursor

theorem bytes_of_le {count : Nat} {cursor : Cursor} (enough : count ≤ cursor.remaining) :
    bytes count cursor = .ok (cursor.rest.take count) (cursor.advance count) := by
  have enough : count ≤ cursor.rest.length := enough
  simp [bytes, hasAtLeast_eq, enough]

theorem bytes_of_lt {count : Nat} {cursor : Cursor} (short : cursor.remaining < count) :
    bytes count cursor = .error (.unexpectedEndOfInput count cursor.remaining) cursor := by
  have short : ¬count ≤ cursor.rest.length := Nat.not_le_of_lt short
  simp [bytes, hasAtLeast_eq, short]

def skip (count : Nat) : Reader Unit := do
  let _ ← bytes count

/-- The number that the next `width` bytes stand for. -/
def number (width : Nat) : Reader Nat :=
  BigEndian.value <$> bytes width

/-- The low 64 bits of the number that the next `width` bytes stand for. Of more than eight bytes
only the last eight are looked at. -/
def uint (width : Nat) : Reader UInt64 :=
  (fun digits => UInt64.ofNat (BigEndian.value (digits.drop (width - 8)))) <$> bytes width

def uint8 : Reader UInt8 := UInt8.ofNat <$> number 1

def uint16 : Reader UInt16 := UInt16.ofNat <$> number 2

def uint32 : Reader UInt32 := UInt32.ofNat <$> number 4

def uint64 : Reader UInt64 := UInt64.ofNat <$> number 8

def int8 : Reader Int8 := UInt8.toInt8 <$> uint8

def int16 : Reader Int16 := UInt16.toInt16 <$> uint16

def int32 : Reader Int32 := UInt32.toInt32 <$> uint32

def times {α : Type} : Nat → Reader α → Reader (List α)
  | 0, _ => pure []
  | count + 1, item => do
    let first ← item
    let others ← times count item
    pure (first :: others)

def counted {α : Type} (item : Reader α) : Reader (List α) := do
  let count ← uint16
  times count.toNat item

end Reader

end ClassMachine
