import ClassMachine.Proofs.SlotVector

set_option autoImplicit false

/-!
# Looking from the end

Looking at the item that lies some way from the end, popping down to it and going through the items
backwards all lead to the same item. Depths are machine words, and looking first counts the items
down to the one that is looked for, this one included. At the greatest depth this count is no
machine word, so looking there fails whatever the vector holds. At every other depth looking gives
an answer, which is that there is nothing if the depth is not less than the number of items.
-/

namespace ClassMachine

namespace SlotVector

variable {α : Type} {vector : SlotVector α} {depth : UInt64} {item : α}

def poppedAfter : Nat → SlotVector α → Option α
  | 0, vector => vector.pop.map Prod.fst
  | count + 1, vector => vector.pop.bind fun popped => poppedAfter count popped.2

theorem poppedAfter_eq (count : Nat) (vector : SlotVector α) :
    poppedAfter count vector = vector.entries[count]?.map Entry.item := by
  induction count generalizing vector with
  | zero =>
    obtain ⟨start, entries, next⟩ := vector
    cases entries <;> simp [poppedAfter, pop]
  | succ count inductionHypothesis =>
    obtain ⟨start, entries, next⟩ := vector
    cases entries <;> simp [poppedAfter, pop, inductionHypothesis]

theorem getElem?_reverse_toList (count : Nat) (vector : SlotVector α) :
    vector.toList.reverse[count]? = vector.entries[count]?.map Entry.item := by
  simp [toList, toEntries]

theorem poppedAfter_eq_none {count : Nat} :
    poppedAfter count vector = none ↔ vector.size ≤ count := by
  simp [poppedAfter_eq, size]

def greatestDepth : UInt64 := UInt64.ofNat (UInt64.size - 1)

theorem succ_lt_size_iff : depth.toNat + 1 < UInt64.size ↔ depth ≠ greatestDepth := by
  have depth_lt : depth.toNat < UInt64.size := depth.toNat_lt
  have greatest : greatestDepth.toNat = UInt64.size - 1 := by decide
  rw [Ne, ← UInt64.toNat_inj, greatest]
  omega

/-- Looking is popping down to the item, except at the greatest depth. -/
theorem peek_eq (vector : SlotVector α) (depth : UInt64) :
    vector.peek depth =
      if depth = greatestDepth then .error .depthOverflow
      else .ok (poppedAfter depth.toNat vector) := by
  unfold peek
  by_cases greatest : depth = greatestDepth
  · have overflows : ¬depth.toNat + 1 < UInt64.size := by simp [succ_lt_size_iff, greatest]
    rw [if_neg overflows, if_pos greatest]
  · rw [if_pos (succ_lt_size_iff.mpr greatest), if_neg greatest, poppedAfter_eq]

end SlotVector

namespace OperandStack

variable {stack : OperandStack} {depth : UInt64} {cell : Cell}

/-- The cells from the top of the stack down. -/
def fromTop (stack : OperandStack) : List Cell := stack.vector.toList.reverse

@[simp]
theorem fromTop_eq (stack : OperandStack) : stack.fromTop = stack.cells := by
  simp [fromTop, vector]

@[simp]
theorem size_vector (stack : OperandStack) : stack.vector.size = stack.size := by
  have length_eq := congrArg List.length (fromTop_eq stack)
  simpa [fromTop, SlotVector.toList, SlotVector.toEntries, SlotVector.size, size] using length_eq

theorem peek_eq_peek_vector (stack : OperandStack) (depth : UInt64) :
    stack.peek depth = (stack.vector.peek depth).map fun found =>
      found.elim (.error .operandStackUnderflow) .ok := by
  have same : SlotVector.poppedAfter depth.toNat stack.vector = stack.cells[depth.toNat]? := by
    rw [SlotVector.poppedAfter_eq, ← SlotVector.getElem?_reverse_toList, ← fromTop, fromTop_eq]
  rw [SlotVector.peek_eq, same]
  unfold peek
  by_cases greatest : depth = SlotVector.greatestDepth
  · simp [SlotVector.succ_lt_size_iff, greatest, Except.map]
  · simp only [SlotVector.succ_lt_size_iff, greatest]
    cases stack.cells[depth.toNat]? <;> simp [greatest, Except.map]

end OperandStack

namespace SlotVector

variable {α : Type}

/-- At the greatest depth there is no answer, and at every other depth there is: the item that is
popped next after so many others, which is the one at this place from the end, or that there is
none. -/
theorem peek_exact (vector : SlotVector α) (few : vector.size < UInt64.size - 1)
    (depth : UInt64) :
    (∀ item, vector.peek depth = .ok (some item) ↔
      depth.toNat < vector.size ∧ poppedAfter depth.toNat vector = some item ∧
        vector.toList.reverse[depth.toNat]? = some item) ∧
    (vector.peek depth = .ok none ↔ vector.size ≤ depth.toNat ∧ depth ≠ greatestDepth) ∧
    (vector.peek depth = .error .depthOverflow ↔ depth = greatestDepth) ∧
    ∀ stack : OperandStack, stack.peek depth = .ok (.error .operandStackUnderflow) ↔
      stack.size ≤ depth.toNat ∧ depth ≠ greatestDepth := by
  have backwards : vector.toList.reverse[depth.toNat]? = poppedAfter depth.toNat vector := by
    rw [getElem?_reverse_toList, poppedAfter_eq]
  refine ⟨?_, ?_, ?_, ?_⟩
  · intro item
    rw [backwards, and_self, peek_eq]
    constructor
    · intro found
      split at found
      next => cases found
      next =>
        injection found with popped
        have inside : ¬vector.size ≤ depth.toNat := by
          rw [← poppedAfter_eq_none, popped]
          exact Option.some_ne_none item
        exact ⟨Nat.lt_of_not_le inside, popped⟩
    · rintro ⟨inside, popped⟩
      have short : depth ≠ greatestDepth := succ_lt_size_iff.mp (by omega)
      rw [if_neg short, popped]
  · rw [peek_eq, ← poppedAfter_eq_none]
    by_cases greatest : depth = greatestDepth <;> simp [greatest]
  · rw [peek_eq]
    by_cases greatest : depth = greatestDepth <;> simp [greatest]
  · intro stack
    have nothing_iff : poppedAfter depth.toNat stack.vector = none ↔ stack.size ≤ depth.toNat := by
      rw [poppedAfter_eq_none, OperandStack.size_vector]
    rw [OperandStack.peek_eq_peek_vector, peek_eq, ← nothing_iff]
    by_cases greatest : depth = greatestDepth
    · simp [greatest, Except.map]
    · cases poppedAfter depth.toNat stack.vector <;> simp [greatest, Except.map]

/-- The item below the last one. -/
theorem peek_exact_below_top :
    (ofList 0 [.narrow 7, .wide 8] : SlotVector Cell).peek 1 = .ok (some (.narrow 7)) ∧
      (ofList 0 [.narrow 7, .wide 8] : SlotVector Cell).peek 2 = .ok none := by
  have few : (ofList 0 [.narrow 7, .wide 8] : SlotVector Cell).size < UInt64.size - 1 := by decide
  exact ⟨((peek_exact _ few 1).1 _).mpr (by decide), (peek_exact _ few 2).2.1.mpr (by decide)⟩

/-- Looking at the greatest depth fails where there is nothing to be found. -/
theorem peek_empty_at_greatest_depth :
    (empty 0 : SlotVector Cell).size < UInt64.size - 1 ∧
      (empty 0 : SlotVector Cell).size ≤ greatestDepth.toNat ∧
      (empty 0 : SlotVector Cell).peek greatestDepth = .error .depthOverflow ∧
      (OperandStack.empty 0).peek greatestDepth = .error .depthOverflow := by
  decide

end SlotVector

end ClassMachine
