import ClassMachine.Constant.Pool
import ClassMachine.Proofs.Frame.OperandStack

set_option autoImplicit false

/-!
# What lies before an offset

The first item of a vector starts where the vector does. So an offset inside an item, at which no
item starts, has an item before it. Operand stacks are slot vectors that start at zero.
-/

namespace ClassMachine

namespace SlotVector

section Entries

variable {α : Type} {vector : SlotVector α} {entry : Entry α}

theorem insertionPoint_pos {offset : Nat} (member : entry ∈ vector.entries)
    (before : entry.offset < offset) : 0 < vector.insertionPoint offset :=
  List.countP_pos_iff.mpr ⟨entry, member, decide_eq_true before⟩

theorem startingAt_ne_none (member : entry ∈ vector.entries) :
    vector.startingAt entry.offset ≠ none := by
  intro nothing
  have absent := List.find?_eq_none.mp (Option.map_eq_none_iff.mp nothing) entry member
  exact absent (beq_self_eq_true entry.offset)

theorem lookup_eq_inside {offset position : Nat} :
    vector.lookup offset = .inside position ↔
      vector.start ≤ offset ∧ vector.startingAt offset = none ∧
        ¬(vector.insertionPoint offset = vector.size ∧ vector.next ≤ offset) ∧
          vector.insertionPoint offset - 1 = position := by
  unfold lookup
  split
  next small => simp [Nat.not_le_of_lt small]
  next large =>
    cases vector.startingAt offset with
    | some item => simp
    | none =>
      by_cases beyond : vector.insertionPoint offset = vector.size ∧ vector.next ≤ offset
      · simp [beyond]
      · simp [beyond, Nat.le_of_not_lt large]

end Entries

variable {α : Type} [HasWidth α]

theorem mem_entries_foldl_append {items : List α} {vector : SlotVector α} {entry : Entry α}
    (member : entry ∈ vector.entries) : entry ∈ (items.foldl append vector).entries := by
  induction items generalizing vector with
  | nil => exact member
  | cons item items inductionHypothesis =>
    exact inductionHypothesis (List.mem_cons_of_mem _ member)

theorem mem_entries_ofList_cons (start : Nat) (item : α) (items : List α) :
    ⟨start, item⟩ ∈ (ofList start (item :: items)).entries := by
  have first : ⟨start, item⟩ ∈ ((empty start).append item).entries := List.mem_singleton_self _
  rw [ofList, List.foldl_cons]
  exact mem_entries_foldl_append first

theorem insertionPoint_pos_of_inside {start offset position : Nat} {items : List α}
    (found : (ofList start items).lookup offset = .inside position) :
    0 < (ofList start items).insertionPoint offset := by
  obtain ⟨from_start, none_starts, within, -⟩ := lookup_eq_inside.mp found
  cases items with
  | nil => exact absurd ⟨rfl, from_start⟩ within
  | cons item items =>
    have first := mem_entries_ofList_cons start item items
    rw [start_ofList] at from_start
    have other : start ≠ offset := by
      rintro rfl
      exact startingAt_ne_none first none_starts
    exact insertionPoint_pos first (Nat.lt_of_le_of_ne from_start other)

end SlotVector

namespace ConstantPool

theorem insertionPoint_pos_of_inside {pool : ConstantPool} {offset position : Nat}
    (found : pool.constants.lookup offset = .inside position) :
    0 < pool.constants.insertionPoint offset := by
  rw [pool.constants_eq] at found ⊢
  exact SlotVector.insertionPoint_pos_of_inside found

end ConstantPool

namespace OperandStack

/-- The cells as a slot vector, whose last item is the top of the stack. -/
def vector (stack : OperandStack) : SlotVector Cell := .ofList 0 stack.cells.reverse

section Operations

variable {stack after : OperandStack} {cell : Cell}

theorem push_vector (small : stack.capacity < UInt64.size) (pushed : push cell stack = .ok () after) :
    stack.vector.push cell = .ok (stack.depth, after.vector) := by
  obtain ⟨cells_eq, capacity_eq, within⟩ := push_eq_ok.mp pushed
  have next_eq : stack.vector.next = stack.depth := by simp [vector, stack.depth_eq]
  refine SlotVector.push_eq_ok.mpr ⟨?_, next_eq.symm, ?_⟩
  · rw [after.depth_eq, cells_eq, totalWidth_cons, ← stack.depth_eq] at within
    omega
  · unfold vector
    rw [cells_eq, List.reverse_cons, SlotVector.append_ofList]

theorem pop_vector (popped : pop stack = .ok cell after) :
    stack.vector.pop = some (cell, after.vector) := by
  obtain ⟨cells_eq, -⟩ := pop_eq_ok.mp popped
  unfold vector
  rw [cells_eq, List.reverse_cons, ← SlotVector.append_ofList, SlotVector.pop_append]

end Operations

end OperandStack

end ClassMachine
