import ClassMachine.Frame.OperandStack
import ClassMachine.Proofs.Outcome

set_option autoImplicit false

/-!
# What operand stack operations do when they succeed

One equivalence for each operation: the cells before and after, the capacity, which stays the same,
and what has to hold for the operation to succeed. Pushing cells in a row succeeds exactly if all of
them fit in the end.
-/

namespace ClassMachine.OperandStack

open Outcome

variable {stack after : OperandStack} {cell : Cell}

@[simp]
theorem cells_ofCells (capacity : Nat) (cells : List Cell) :
    (ofCells capacity cells).cells = cells :=
  rfl

@[simp]
theorem capacity_ofCells (capacity : Nat) (cells : List Cell) :
    (ofCells capacity cells).capacity = capacity :=
  rfl

@[simp]
theorem depth_ofCells (capacity : Nat) (cells : List Cell) :
    (ofCells capacity cells).depth = totalWidth cells :=
  rfl

theorem push_eq_ok :
    push cell stack = .ok () after ↔
      after.cells = cell :: stack.cells ∧ after.capacity = stack.capacity ∧
        after.depth ≤ after.capacity := by
  unfold push
  constructor
  · intro pushed
    split at pushed
    next room =>
      cases pushed
      refine ⟨rfl, rfl, ?_⟩
      change width cell + stack.depth ≤ stack.capacity
      omega
    next => cases pushed
  · rintro ⟨cells_eq, capacity_eq, fits⟩
    have depth_eq : after.depth = width cell + stack.depth := by
      rw [after.depth_eq, cells_eq, totalWidth_cons, stack.depth_eq]
    have room : stack.depth + width cell ≤ stack.capacity := by omega
    have after_eq : stack.withCell cell = after := ext cells_eq.symm capacity_eq.symm
    rw [if_pos room, after_eq]

theorem pushAll_eq_ok {cells : List Cell} :
    pushAll cells stack = .ok () after ↔
      after.cells = cells.reverse ++ stack.cells ∧ after.capacity = stack.capacity ∧
        (cells = [] ∨ after.depth ≤ after.capacity) := by
  induction cells generalizing stack with
  | nil =>
    constructor
    · intro pushed
      cases pushed
      exact ⟨rfl, rfl, .inl rfl⟩
    · rintro ⟨cells_eq, capacity_eq, -⟩
      have after_eq : stack = after := ext cells_eq.symm capacity_eq.symm
      rw [after_eq]
      rfl
  | cons cell cells inductionHypothesis =>
    constructor
    · intro pushed
      obtain ⟨_, between, first, rest⟩ := bind_eq_ok.mp pushed
      obtain ⟨between_cells, between_capacity, between_fits⟩ := push_eq_ok.mp first
      obtain ⟨after_cells, after_capacity, after_fits⟩ := inductionHypothesis.mp rest
      refine ⟨?_, after_capacity.trans between_capacity, .inr ?_⟩
      · rw [after_cells, between_cells, List.reverse_cons, List.append_assoc]
        rfl
      · rcases after_fits with rfl | fits
        · have after_eq : after = between := ext after_cells after_capacity
          rwa [after_eq]
        · exact fits
    · rintro ⟨after_cells, after_capacity, after_fits⟩
      obtain fits := after_fits.resolve_left (List.cons_ne_nil cell cells)
      have depth_eq : after.depth = totalWidth cells + (stack.withCell cell).depth := by
        rw [after.depth_eq, after_cells, totalWidth_append, totalWidth_reverse, totalWidth_cons,
          (stack.withCell cell).depth_eq]
        change _ = totalWidth cells + totalWidth (cell :: stack.cells)
        rw [totalWidth_cons]
        omega
      have between_fits : (stack.withCell cell).depth ≤ stack.capacity := by omega
      refine bind_eq_ok.mpr ⟨(), stack.withCell cell, push_eq_ok.mpr ⟨rfl, rfl, between_fits⟩, ?_⟩
      refine inductionHypothesis.mpr ⟨?_, after_capacity, .inr fits⟩
      rw [after_cells, List.reverse_cons, List.append_assoc]
      rfl

theorem pop_eq_ok :
    pop stack = .ok cell after ↔
      stack.cells = cell :: after.cells ∧ after.capacity = stack.capacity := by
  constructor
  · intro popped
    unfold pop at popped
    split at popped
    next => cases popped
    next cells_eq =>
      cases popped
      exact ⟨cells_eq, rfl⟩
  · rintro ⟨cells_eq, capacity_eq⟩
    unfold pop
    split
    next none_left =>
      rw [none_left] at cells_eq
      cases cells_eq
    next first others split_eq =>
      obtain ⟨rfl, others_eq⟩ := List.cons.inj (split_eq.symm.trans cells_eq)
      exact congrArg _ (ext others_eq capacity_eq.symm)

theorem pop_eq_error {fault : Fault} :
    pop stack = .error fault after ↔
      stack.cells = [] ∧ fault = .operandStackUnderflow ∧ after = stack := by
  unfold pop
  split
  next none_left => simp [none_left, eq_comm]
  next cells_eq => simp [cells_eq]

theorem popWidth_eq_ok {expected : Nat} :
    popWidth expected stack = .ok cell after ↔
      stack.cells = cell :: after.cells ∧ after.capacity = stack.capacity ∧
        width cell = expected := by
  unfold popWidth
  simp only [bind_eq_ok, pop_eq_ok]
  constructor
  · rintro ⟨found, between, ⟨cells_eq, capacity_eq⟩, checked⟩
    split at checked
    next same =>
      cases checked
      exact ⟨cells_eq, capacity_eq, same⟩
    next => cases checked
  · rintro ⟨cells_eq, capacity_eq, same⟩
    refine ⟨cell, after, ⟨cells_eq, capacity_eq⟩, ?_⟩
    rw [if_pos same]
    rfl

theorem popCells_eq_ok {count : Nat} {cells : List Cell} :
    popCells count stack = .ok cells after ↔
      stack.cells = cells.reverse ++ after.cells ∧ after.capacity = stack.capacity ∧
        cells.length = count := by
  unfold popCells
  constructor
  · intro popped
    split at popped
    next enough =>
      cases popped
      refine ⟨?_, rfl, ?_⟩
      · rw [List.reverse_reverse, List.take_append_drop]
      · rw [List.length_reverse, List.length_take, Nat.min_eq_left enough]
    next => cases popped
  · rintro ⟨cells_eq, capacity_eq, rfl⟩
    have length_eq : cells.reverse.length = cells.length := List.length_reverse
    have enough : cells.length ≤ stack.cells.length := by
      rw [cells_eq, List.length_append, length_eq]
      exact Nat.le_add_right ..
    have taken : (stack.cells.take cells.length).reverse = cells := by
      rw [cells_eq, List.take_left' length_eq, List.reverse_reverse]
    rw [if_pos enough, taken]
    refine congrArg _ (ext ?_ capacity_eq.symm)
    change stack.cells.drop cells.length = after.cells
    rw [cells_eq, List.drop_left' length_eq]

end ClassMachine.OperandStack
