set_option autoImplicit false

/-!
Vectors of items that take different numbers of slots. An item's offset is the start of the vector
plus the widths of the items before it. The constant pool is such a vector: its eight-byte
constants take two indices.
-/

namespace ClassMachine

class HasWidth (α : Type) where
  width : α → Nat

export HasWidth (width)

def totalWidth {α : Type} [HasWidth α] : List α → Nat
  | [] => 0
  | item :: items => width item + totalWidth items

section TotalWidth

variable {α : Type} [HasWidth α]

@[simp]
theorem totalWidth_nil : totalWidth ([] : List α) = 0 := rfl

@[simp]
theorem totalWidth_cons (item : α) (items : List α) :
    totalWidth (item :: items) = width item + totalWidth items :=
  rfl

@[simp]
theorem totalWidth_append (first second : List α) :
    totalWidth (first ++ second) = totalWidth first + totalWidth second := by
  induction first with
  | nil => simp
  | cons item items inductionHypothesis => simp [inductionHypothesis, Nat.add_assoc]

@[simp]
theorem totalWidth_reverse (items : List α) : totalWidth items.reverse = totalWidth items := by
  induction items with
  | nil => rfl
  | cons item items inductionHypothesis => simp [inductionHypothesis, Nat.add_comm]

end TotalWidth

namespace SlotVector

structure Entry (α : Type) where
  offset : Nat
  item : α
  deriving DecidableEq

/-- What lies at an offset. -/
inductive Lookup (α : Type) where
  | found (item : α)
  /-- Inside the item at this position, past its first slot. -/
  | inside (position : Nat)
  | tooSmall
  | tooLarge
  deriving DecidableEq

namespace Lookup

def item? {α : Type} : Lookup α → Option α
  | .found item => some item
  | _ => none

end Lookup

inductive OffsetOverflow where
  | offsetOverflow
  deriving DecidableEq

/-- The number of items down to a depth is no machine word. -/
inductive DepthOverflow where
  | depthOverflow
  deriving DecidableEq

end SlotVector

structure SlotVector (α : Type) where
  start : Nat
  /-- Items with their offsets, the last one first. -/
  entries : List (SlotVector.Entry α)
  /-- The offset that the next item will have. -/
  next : Nat

namespace SlotVector

variable {α : Type}

def empty (start : Nat) : SlotVector α := ⟨start, [], start⟩

def size (vector : SlotVector α) : Nat := vector.entries.length

def isEmpty (vector : SlotVector α) : Bool := vector.entries.isEmpty

def totalWidth (vector : SlotVector α) : Nat := vector.next - vector.start

def toEntries (vector : SlotVector α) : List (Entry α) := vector.entries.reverse

def toList (vector : SlotVector α) : List α := vector.toEntries.map Entry.item

def append [HasWidth α] (vector : SlotVector α) (item : α) : SlotVector α :=
  { vector with
    entries := ⟨vector.next, item⟩ :: vector.entries
    next := vector.next + width item }

def ofList [HasWidth α] (start : Nat) (items : List α) : SlotVector α :=
  items.foldl append (empty start)

/-- Puts an item where the vector ends and answers with this offset. Offsets are machine words, and
so must be the one after the item. -/
def push [HasWidth α] (vector : SlotVector α) (item : α) :
    Except OffsetOverflow (Nat × SlotVector α) :=
  if vector.next + width item < UInt64.size then .ok (vector.next, vector.append item)
  else .error .offsetOverflow

def pushAll [HasWidth α] : List α → SlotVector α → Except OffsetOverflow (SlotVector α)
  | [], vector => .ok vector
  | item :: items, vector => do
    let (_, vector) ← vector.push item
    pushAll items vector

def pop (vector : SlotVector α) : Option (α × SlotVector α) :=
  match vector.entries with
  | [] => none
  | last :: others => some (last.item, { vector with entries := others, next := last.offset })

def clear (vector : SlotVector α) : SlotVector α := empty vector.start

/-- The item below this many others, counted from the end. Depths are machine words, and so must be
the count of items down to the one looked for. -/
def peek (vector : SlotVector α) (depth : UInt64) : Except DepthOverflow (Option α) :=
  if depth.toNat + 1 < UInt64.size then .ok (vector.entries[depth.toNat]?.map Entry.item)
  else .error .depthOverflow

/-- The number of items that start before an offset. -/
def insertionPoint (vector : SlotVector α) (offset : Nat) : Nat :=
  vector.entries.countP fun entry => entry.offset < offset

def startingAt (vector : SlotVector α) (offset : Nat) : Option α :=
  (vector.entries.find? fun entry => entry.offset == offset).map Entry.item

def lookup (vector : SlotVector α) (offset : Nat) : Lookup α :=
  if offset < vector.start then .tooSmall
  else
    match vector.startingAt offset with
    | some item => .found item
    | none =>
      if vector.insertionPoint offset = vector.size ∧ vector.next ≤ offset then .tooLarge
      else .inside (vector.insertionPoint offset - 1)

def beq [DecidableEq α] (first second : SlotVector α) : Bool :=
  first.entries == second.entries

instance [DecidableEq α] : BEq (SlotVector α) := ⟨beq⟩

section Append

variable [HasWidth α]

@[simp]
theorem pop_append (vector : SlotVector α) (item : α) :
    (vector.append item).pop = some (item, vector) := rfl

@[simp]
theorem toEntries_append (vector : SlotVector α) (item : α) :
    (vector.append item).toEntries = vector.toEntries ++ [⟨vector.next, item⟩] :=
  List.reverse_cons

@[simp]
theorem toList_append (vector : SlotVector α) (item : α) :
    (vector.append item).toList = vector.toList ++ [item] := by
  simp [toList]

@[simp]
theorem next_append (vector : SlotVector α) (item : α) :
    (vector.append item).next = vector.next + width item := rfl

theorem foldl_append_toList (items : List α) (vector : SlotVector α) :
    (items.foldl append vector).toList = vector.toList ++ items := by
  induction items generalizing vector with
  | nil => simp
  | cons item items inductionHypothesis => simp [inductionHypothesis]

@[simp]
theorem toList_ofList (start : Nat) (items : List α) : (ofList start items).toList = items := by
  rw [ofList, foldl_append_toList]
  rfl

theorem append_ofList (start : Nat) (items : List α) (item : α) :
    (ofList start items).append item = ofList start (items ++ [item]) := by
  simp [ofList]

@[simp]
theorem start_ofList (start : Nat) (items : List α) : (ofList start items).start = start := by
  suffices preserved : ∀ vector : SlotVector α,
      (items.foldl append vector).start = vector.start from preserved (empty start)
  intro vector
  induction items generalizing vector with
  | nil => rfl
  | cons item items inductionHypothesis => exact inductionHypothesis (vector.append item)

@[simp]
theorem next_ofList (start : Nat) (items : List α) :
    (ofList start items).next = start + ClassMachine.totalWidth items := by
  suffices advanced : ∀ vector : SlotVector α,
      (items.foldl append vector).next = vector.next + ClassMachine.totalWidth items from
    advanced (empty start)
  intro vector
  induction items generalizing vector with
  | nil => rfl
  | cons item items inductionHypothesis =>
    rw [List.foldl_cons, inductionHypothesis, next_append, totalWidth_cons, Nat.add_assoc]

end Append

section Push

variable [HasWidth α] {vector after : SlotVector α} {item : α} {offset : Nat}

theorem push_eq_ok :
    vector.push item = .ok (offset, after) ↔
      vector.next + width item < UInt64.size ∧ offset = vector.next ∧
        after = vector.append item := by
  unfold push
  split
  next fits => simp [fits, eq_comm]
  next overflows => simp [overflows]

theorem push_eq_error :
    vector.push item = .error .offsetOverflow ↔ UInt64.size ≤ vector.next + width item := by
  unfold push
  split
  next fits => simp [fits]
  next overflows => simp [Nat.le_of_not_lt overflows]

end Push

end SlotVector

end ClassMachine
