import ClassMachine.Frame.LocalVariables
import ClassMachine.Proofs.Outcome

set_option autoImplicit false

/-!
# Storing cells in local variables

A cell that is stored takes the place of as many slots as it is wide. Cells that are stored one
after the other take the places of a whole stretch of slots, provided that it ends inside the row;
the index then never gets past the largest one there is.
-/

namespace ClassMachine.LocalVariables

open Outcome

/-- The local variables with other slots in place of those from a position on. -/
def replace (locals : LocalVariables) (position : Nat) (slots : List UInt32) : LocalVariables where
  slots := (locals.slots.toList.take position ++
    (slots ++ locals.slots.toList.drop (position + slots.length))).toArray

theorem eq_of_toList_eq {first second : LocalVariables}
    (toList_eq : first.slots.toList = second.slots.toList) : first = second := by
  obtain ⟨slots⟩ := first
  exact congrArg mk (Array.toList_inj.mp toList_eq)

section Replace

variable (locals : LocalVariables)

@[simp]
theorem toList_replace (position : Nat) (slots : List UInt32) :
    (locals.replace position slots).slots.toList =
      locals.slots.toList.take position ++
        (slots ++ locals.slots.toList.drop (position + slots.length)) :=
  rfl

theorem replace_nil (position : Nat) : locals.replace position [] = locals := by
  apply eq_of_toList_eq
  rw [toList_replace, List.nil_append, List.length_nil, Nat.add_zero, List.take_append_drop]

theorem size_replace {position : Nat} {slots : List UInt32}
    (inside : position + slots.length ≤ locals.size) :
    (locals.replace position slots).size = locals.size := by
  have size_eq (row : LocalVariables) : row.size = row.slots.toList.length :=
    Array.length_toList.symm
  rw [size_eq] at inside
  rw [size_eq, size_eq, toList_replace, List.length_append, List.length_append, List.length_take,
    List.length_drop]
  omega

theorem replace_replace {position : Nat} (inside : position ≤ locals.size)
    (first second : List UInt32) :
    (locals.replace position first).replace (position + first.length) second =
      locals.replace position (first ++ second) := by
  have taken : (locals.slots.toList.take position ++ first).length = position + first.length := by
    rw [List.length_append, List.length_take, Array.length_toList]
    exact congrArg (· + first.length) (Nat.min_eq_left inside)
  apply eq_of_toList_eq
  simp only [toList_replace]
  rw [← List.append_assoc (List.take _ _) first, List.take_left' taken, ← taken,
    List.drop_length_add_append, List.drop_drop, taken, List.length_append, Nat.add_assoc]
  simp only [List.append_assoc]

theorem set_eq_replace {position : Nat} (inside : position < locals.size) (bits : UInt32) :
    ⟨locals.slots.setIfInBounds position bits⟩ = locals.replace position [bits] := by
  have within : position < locals.slots.toList.length := by
    rwa [Array.length_toList]
  apply eq_of_toList_eq
  rw [toList_replace, Array.toList_setIfInBounds, List.set_eq_take_append_cons_drop, if_pos within]
  rfl

end Replace

theorem storeCell_of_room {locals : LocalVariables} {index : UInt16} {cell : Cell}
    (room : index.toNat + width cell ≤ locals.size) :
    locals.storeCell index cell = .ok (locals.replace index.toNat cell.slots) := by
  unfold storeCell
  rw [if_pos room]
  cases cell with
  | narrow bits => exact congrArg Except.ok (locals.set_eq_replace room bits)
  | wide bits =>
    -- The two halves are stored in slots side by side.
    have first_inside : index.toNat + 1 ≤ locals.size := Nat.le_of_succ_le room
    have second_inside :
        index.toNat + 1 < (locals.replace index.toNat [(bits >>> 32).toUInt32]).size := by
      rw [locals.size_replace first_inside]
      exact room
    have second_set := set_eq_replace _ second_inside bits.toUInt32
    rw [← locals.set_eq_replace first_inside] at second_set
    have joined := locals.replace_replace (Nat.le_of_succ_le first_inside)
      [(bits >>> 32).toUInt32] [bits.toUInt32]
    rw [← locals.set_eq_replace first_inside] at joined
    exact congrArg Except.ok (second_set.trans joined)

theorem storeCell_of_full {locals : LocalVariables} {index : UInt16} {cell : Cell}
    (full : ¬index.toNat + width cell ≤ locals.size) :
    locals.storeCell index cell = .error (.invalidLocalIndex index) :=
  if_neg full

theorem storeCell_eq_ok {locals stored : LocalVariables} {index : UInt16} {cell : Cell} :
    locals.storeCell index cell = .ok stored ↔
      index.toNat + width cell ≤ locals.size ∧
        stored = locals.replace index.toNat cell.slots := by
  by_cases room : index.toNat + width cell ≤ locals.size
  · rw [storeCell_of_room room]
    simp [room, eq_comm]
  · rw [storeCell_of_full room]
    simp [room]

theorem size_storeCell {locals stored : LocalVariables} {index : UInt16} {cell : Cell}
    (succeeded : locals.storeCell index cell = .ok stored) : stored.size = locals.size := by
  obtain ⟨room, rfl⟩ := storeCell_eq_ok.mp succeeded
  rw [← Cell.length_slots] at room
  exact locals.size_replace room

theorem storeCells_eq_ok {cells : List Cell} {locals stored : LocalVariables} {index : UInt16}
    (few : locals.size < UInt16.size) (inside : index.toNat ≤ locals.size) :
    storeCells index cells locals = .ok stored ↔
      index.toNat + totalWidth cells ≤ locals.size ∧
        stored = locals.replace index.toNat (cells.flatMap Cell.slots) := by
  induction cells generalizing locals index with
  | nil =>
    rw [List.flatMap_nil, replace_nil]
    simp [storeCells, inside, eq_comm]
  | cons cell cells inductionHypothesis =>
    rw [storeCells, totalWidth_cons, List.flatMap_cons]
    by_cases room : index.toNat + width cell ≤ locals.size
    · have size_eq : (locals.replace index.toNat cell.slots).size = locals.size :=
        locals.size_replace (by rwa [Cell.length_slots])
      -- The index is exact because there are no more slots than an index can name.
      have index_eq : (index + UInt16.ofNat (width cell)).toNat = index.toNat + width cell := by
        rw [UInt16.toNat_add, UInt16.toNat_ofNat', Nat.add_mod_mod]
        exact Nat.mod_eq_of_lt (Nat.lt_of_le_of_lt room few)
      rw [storeCell_of_room room]
      dsimp only
      rw [inductionHypothesis (by rwa [size_eq]) (by rwa [index_eq, size_eq]), size_eq, index_eq,
        ← Cell.length_slots, replace_replace _ inside, Cell.length_slots, Nat.add_assoc]
    · have overfull : ¬index.toNat + (width cell + totalWidth cells) ≤ locals.size := by omega
      rw [storeCell_of_full room]
      simp [overfull]

theorem storeCells_eq_error {cells : List Cell} {locals : LocalVariables} {index : UInt16}
    {fault : Fault} (failed : storeCells index cells locals = .error fault) :
    ∃ reached, fault = .invalidLocalIndex reached := by
  induction cells generalizing locals index with
  | nil => cases failed
  | cons cell cells inductionHypothesis =>
    rw [storeCells] at failed
    by_cases room : index.toNat + width cell ≤ locals.size
    · rw [storeCell_of_room room] at failed
      exact inductionHypothesis failed
    · rw [storeCell_of_full room] at failed
      cases failed
      exact ⟨index, rfl⟩

/-- That many local variables, of which the first ones hold these cells and the others are zero. -/
def holding (count : Nat) (cells : List Cell) : LocalVariables where
  slots := (cells.flatMap Cell.slots ++ List.replicate (count - totalWidth cells) 0).toArray

theorem size_holding {count : Nat} {cells : List Cell} (fits : totalWidth cells ≤ count) :
    (holding count cells).size = count := by
  unfold holding size
  rw [List.size_toArray, List.length_append, Cell.length_flatMap_slots, List.length_replicate]
  exact Nat.add_sub_cancel' fits

theorem storeCells_zeros_eq_ok {count : Nat} (few : count < UInt16.size) {cells : List Cell}
    {stored : LocalVariables} :
    storeCells 0 cells (zeros count) = .ok stored ↔
      totalWidth cells ≤ count ∧ stored = holding count cells := by
  have size_eq : (zeros count).size = count := Array.size_replicate
  have replaced : (zeros count).replace 0 (cells.flatMap Cell.slots) = holding count cells := by
    apply eq_of_toList_eq
    rw [toList_replace, Cell.length_flatMap_slots]
    simp [zeros, holding]
  rw [storeCells_eq_ok (by rwa [size_eq]) (Nat.zero_le _), size_eq]
  change 0 + _ ≤ _ ∧ _ = (zeros count).replace 0 _ ↔ _
  rw [Nat.zero_add, replaced]

end ClassMachine.LocalVariables
