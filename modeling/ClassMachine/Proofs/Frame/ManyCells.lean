import ClassMachine.Proofs.Frame.Bounds
import ClassMachine.Proofs.SlotVector.FromEnd

set_option autoImplicit false

/-!
# Moving many cells at once

Room is counted in slots and popping in cells, so the two have to be brought together. Cells that
are pushed in a row go onto the stack until one does not fit, which stops all that come after it
too, and popping as many cells as were pushed gives them back. Popping many cells takes all of them
or none, and those that it takes can always be pushed again. This holds of every stack that is
within its capacity, and whatever is done to a stack keeps it so.
-/

namespace ClassMachine.OperandStack

open Outcome

inductive Change where
  | push (cell : Cell)
  | pushAll (cells : List Cell)
  | pop
  | popWidth (expected : Nat)
  | popCells (count : Nat)
  | pushValue {α : Type} (type : Value α) (value : α)
  | popValue {α : Type} (type : Value α)
  | popValues {α : Type} (type : Value α) (count : Nat)
  | clear

def perform (stack : OperandStack) : Change → OperandStack
  | .push cell => state (push cell stack)
  | .pushAll cells => state (pushAll cells stack)
  | .pop => state (pop stack)
  | .popWidth expected => state (popWidth expected stack)
  | .popCells count => state (popCells count stack)
  | .pushValue _ value => state (pushValue value stack)
  | .popValue type => state (@popValue _ type stack)
  | .popValues type count => state (@popValues _ type count stack)
  | .clear => stack.clear

/-- Changes of an empty stack with this capacity lead to this one. -/
def Reachable (capacity : Nat) (stack : OperandStack) : Prop :=
  ∃ changes : List Change, stack = changes.foldl perform (empty capacity)

instance respects_popValues (α : Type) [Value α] (count : Nat) :
    Respects KeepsRoom (popValues α count) := by
  unfold popValues
  infer_instance

theorem keepsRoom_perform (stack : OperandStack) (change : Change) :
    KeepsRoom stack (stack.perform change) := by
  cases change with
  | push cell => exact (respects_push cell).related stack
  | pushAll cells => exact (respects_of_composite (pushAll cells)).related stack
  | pop => exact respects_pop.related stack
  | popWidth expected => exact (respects_of_composite (popWidth expected)).related stack
  | popCells count => exact (respects_popCells count).related stack
  | pushValue type value => exact (respects_of_composite (pushValue value)).related stack
  | popValue type => exact (respects_of_composite (popValue _)).related stack
  | popValues type count => exact (respects_popValues _ count).related stack
  | clear => exact ⟨rfl, fun _ => Nat.zero_le _⟩

theorem Reachable.within {capacity : Nat} {stack : OperandStack}
    (reachable : Reachable capacity stack) :
    stack.capacity = capacity ∧ stack.depth ≤ capacity := by
  obtain ⟨changes, rfl⟩ := reachable
  have kept : KeepsRoom (empty capacity) (changes.foldl perform (empty capacity)) := by
    generalize empty capacity = start
    induction changes generalizing start with
    | nil => exact Chain.refl start
    | cons change changes inductionHypothesis =>
      exact Chain.trans (keepsRoom_perform start change) (inductionHypothesis _)
  have fits := kept.2 (Nat.zero_le _)
  rw [kept.1] at fits
  exact ⟨kept.1, fits⟩

variable {stack after : OperandStack} {cells : List Cell} {cell : Cell} {count : Nat}
  {fault : Fault}

/-- All these cells fit on top of the stack. -/
def HasRoom (stack : OperandStack) (cells : List Cell) : Prop :=
  stack.depth + totalWidth cells ≤ stack.capacity

instance (stack : OperandStack) (cells : List Cell) : Decidable (stack.HasRoom cells) :=
  inferInstanceAs (Decidable (_ ≤ _))

/-- The stack with these cells pushed from first to last, whether it has room for them or not. -/
def withCells (stack : OperandStack) (cells : List Cell) : OperandStack :=
  ofCells stack.capacity (cells.reverse ++ stack.cells)

@[simp]
theorem capacity_withCells (stack : OperandStack) (cells : List Cell) :
    (stack.withCells cells).capacity = stack.capacity :=
  rfl

@[simp]
theorem depth_withCells (stack : OperandStack) (cells : List Cell) :
    (stack.withCells cells).depth = stack.depth + totalWidth cells := by
  simp [withCells, stack.depth_eq, Nat.add_comm]

theorem pushAll_of_hasRoom (room : stack.HasRoom cells) :
    pushAll cells stack = .ok () (stack.withCells cells) := by
  refine pushAll_eq_ok.mpr ⟨rfl, rfl, .inr ?_⟩
  rw [depth_withCells]
  exact room

theorem pushAll_append (first second : List Cell) :
    pushAll (first ++ second) = pushAll first >>= fun _ => pushAll second := by
  induction first with
  | nil => rfl
  | cons cell cells inductionHypothesis =>
    rw [List.cons_append, pushAll, inductionHypothesis, pushAll, bind_assoc]

theorem pushAll_of_full {fitting others : List Cell} (room : stack.HasRoom fitting)
    (full : ¬stack.HasRoom (fitting ++ [cell])) :
    pushAll (fitting ++ cell :: others) stack =
      .error .operandStackOverflow (stack.withCells fitting) := by
  have refused : push cell (stack.withCells fitting) =
      .error .operandStackOverflow (stack.withCells fitting) := by
    apply if_neg
    intro room
    rw [depth_withCells, Nat.add_assoc] at room
    exact full (by simpa [HasRoom] using room)
  rw [pushAll_append, bind_of_ok (pushAll_of_hasRoom room), pushAll]
  exact bind_of_error refused

/-- These are the first ones of the cells, and as many of them as the stack has room for. -/
structure IsLongestFitting (stack : OperandStack) (cells fitting : List Cell) : Prop where
  starts : fitting <+: cells
  hasRoom : stack.HasRoom fitting
  longest : ∀ other, other <+: cells → stack.HasRoom other → other <+: fitting

theorem HasRoom.of_append {first second : List Cell} (room : stack.HasRoom (first ++ second)) :
    stack.HasRoom first := by
  unfold HasRoom at room ⊢
  rw [totalWidth_append] at room
  omega

theorem isLongestFitting_append {fitting others : List Cell} (room : stack.HasRoom fitting)
    (full : ¬stack.HasRoom (fitting ++ [cell])) :
    stack.IsLongestFitting (fitting ++ cell :: others) fitting where
  starts := List.prefix_append ..
  hasRoom := room
  longest other starts fits := by
    by_cases short : other.length ≤ fitting.length
    · exact List.prefix_of_prefix_length_le starts (List.prefix_append ..) short
    · -- A longer one would begin with the cell that does not fit.
      have begins : fitting ++ [cell] <+: other := by
        refine List.prefix_of_prefix_length_le ?_ starts ?_
        · exact ⟨others, by simp⟩
        · rw [List.length_append, List.length_singleton]
          omega
      obtain ⟨more, rfl⟩ := begins
      exact absurd fits.of_append full

theorem exists_first_full (within : stack.depth ≤ stack.capacity) (full : ¬stack.HasRoom cells) :
    ∃ fitting cell others, cells = fitting ++ cell :: others ∧ stack.HasRoom fitting ∧
      ¬stack.HasRoom (fitting ++ [cell]) := by
  induction cells using List.reverseRecOn with
  | nil => exact absurd within full
  | append_singleton cells last inductionHypothesis =>
    by_cases room : stack.HasRoom cells
    · exact ⟨cells, last, [], rfl, room, full⟩
    · obtain ⟨fitting, cell, others, rfl, fits, stops⟩ := inductionHypothesis room
      exact ⟨fitting, cell, others ++ [last], by simp, fits, stops⟩

theorem pushAll_eq_error (within : stack.depth ≤ stack.capacity)
    (failed : pushAll cells stack = .error fault after) :
    fault = .operandStackOverflow ∧
      ∃ fitting, stack.IsLongestFitting cells fitting ∧ after = stack.withCells fitting := by
  have full : ¬stack.HasRoom cells := by
    intro room
    rw [pushAll_of_hasRoom room] at failed
    cases failed
  obtain ⟨fitting, cell, others, rfl, room, stops⟩ := exists_first_full within full
  rw [pushAll_of_full room stops] at failed
  cases failed
  exact ⟨rfl, fitting, isLongestFitting_append room stops, rfl⟩

theorem exists_pushAll_eq_ok (within : stack.depth ≤ stack.capacity) :
    (∃ after, pushAll cells stack = .ok () after) ↔ stack.HasRoom cells := by
  constructor
  · rintro ⟨after, pushed⟩
    obtain ⟨cells_eq, capacity_eq, rfl | fits⟩ := pushAll_eq_ok.mp pushed
    · exact within
    · have after_eq : after = stack.withCells cells := ext cells_eq capacity_eq
      rwa [after_eq, depth_withCells] at fits
  · intro room
    exact ⟨_, pushAll_of_hasRoom room⟩

theorem popCells_of_pushAll (pushed : pushAll cells stack = .ok () after) :
    popCells cells.length after = .ok cells stack := by
  obtain ⟨cells_eq, capacity_eq, -⟩ := pushAll_eq_ok.mp pushed
  exact popCells_eq_ok.mpr ⟨cells_eq, capacity_eq.symm, rfl⟩

/-- Pops cells one by one and returns them as they come. -/
def popEach : Nat → StackOperation (List Cell)
  | 0 => pure []
  | count + 1 => do
    let cell ← pop
    let others ← popEach count
    pure (cell :: others)

theorem popEach_eq_ok :
    popEach count stack = .ok cells after ↔
      stack.cells = cells ++ after.cells ∧ after.capacity = stack.capacity ∧
        cells.length = count := by
  induction count generalizing stack after cells with
  | zero =>
    constructor
    · intro popped
      cases popped
      exact ⟨rfl, rfl, rfl⟩
    · rintro ⟨cells_eq, capacity_eq, nothing⟩
      obtain rfl := List.length_eq_zero_iff.mp nothing
      have same : stack = after := ext cells_eq capacity_eq.symm
      rw [same]
      rfl
  | succ count inductionHypothesis =>
    unfold popEach
    simp only [bind_eq_ok, pop_eq_ok, inductionHypothesis]
    constructor
    · rintro ⟨cell, between, ⟨cells_eq, capacity_eq⟩, others, _, ⟨others_eq, same, rfl⟩, ⟨⟩⟩
      exact ⟨by rw [cells_eq, others_eq, List.cons_append], same.trans capacity_eq, rfl⟩
    · rintro ⟨cells_eq, capacity_eq, length_eq⟩
      obtain ⟨cell, others, rfl⟩ := List.exists_cons_of_length_eq_add_one length_eq
      exact ⟨cell, ofCells stack.capacity (others ++ after.cells), ⟨cells_eq, rfl⟩, others, after,
        ⟨rfl, capacity_eq, Nat.succ.inj length_eq⟩, rfl⟩

theorem popCells_eq_error :
    popCells count stack = .error fault after ↔
      stack.size < count ∧ fault = .operandStackUnderflow ∧ after = stack := by
  unfold popCells
  split
  next enough => simp [size, Nat.not_lt_of_le enough]
  next few =>
    have short : stack.size < count := Nat.lt_of_not_le few
    simp [short, eq_comm]

theorem exists_popCells_eq_ok :
    (∃ cells after, popCells count stack = .ok cells after) ↔ count ≤ stack.size := by
  constructor
  · rintro ⟨cells, after, popped⟩
    obtain ⟨cells_eq, -, rfl⟩ := popCells_eq_ok.mp popped
    simp [size, cells_eq]
  · intro enough
    exact ⟨_, _, if_pos enough⟩

theorem pushAll_of_popCells (within : stack.depth ≤ stack.capacity)
    (popped : popCells count stack = .ok cells after) : pushAll cells after = .ok () stack := by
  obtain ⟨cells_eq, capacity_eq, -⟩ := popCells_eq_ok.mp popped
  exact pushAll_eq_ok.mpr ⟨cells_eq, capacity_eq.symm, .inr within⟩

theorem length_le_totalWidth (cells : List Cell) : cells.length ≤ totalWidth cells := by
  induction cells with
  | nil => exact Nat.le_refl 0
  | cons cell cells inductionHypothesis =>
    have positive := cell.width_eq
    rw [List.length_cons, totalWidth_cons]
    omega

theorem depth_lt_of_getElem? {position : Nat} (found : stack.cells[position]? = some cell) :
    position < stack.depth := by
  have inside : position < stack.cells.length := (List.getElem?_eq_some_iff.mp found).1
  rw [stack.depth_eq]
  exact Nat.lt_of_lt_of_le inside (length_le_totalWidth _)

theorem peek_eq_ok {depth : UInt64} (small : stack.depth < UInt64.size) :
    stack.peek depth = .ok (.ok cell) ↔ stack.fromTop[depth.toNat]? = some cell := by
  rw [fromTop_eq]
  constructor
  · intro looked
    unfold peek at looked
    split at looked
    next =>
      split at looked
      next found =>
        cases looked
        exact found
      next => cases looked
    next => cases looked
  · intro found
    have counted : depth.toNat + 1 < UInt64.size :=
      Nat.lt_of_le_of_lt (depth_lt_of_getElem? found) small
    unfold peek
    rw [if_pos counted, found]

/-- Pushing many cells succeeds exactly if all of them fit, and popping as many then returns them
and the stack as it was; if it fails then the longest part of them that fits is on the stack.
Popping many cells succeeds exactly if there are as many, and pops none otherwise. It pops them one
by one and turns them around, so that they can be pushed again, and they are what is seen from the
top. -/
theorem many_cells_exact {capacity : UInt64} {stack : OperandStack}
    (reachable : Reachable capacity.toNat stack) :
    (∀ cells,
      ((∃ after, pushAll cells stack = .ok () after) ↔
        stack.depth + totalWidth cells ≤ capacity.toNat) ∧
      (∀ after, pushAll cells stack = .ok () after →
        popCells cells.length after = .ok cells stack) ∧
      ∀ fault after, pushAll cells stack = .error fault after →
        fault = .operandStackOverflow ∧
          ∃ fitting, stack.IsLongestFitting cells fitting ∧ after = stack.withCells fitting) ∧
    ∀ count,
      ((∃ cells after, popCells count stack = .ok cells after) ↔ count ≤ stack.size) ∧
      (∀ fault after, popCells count stack = .error fault after →
        fault = .operandStackUnderflow ∧ after = stack) ∧
      ∀ cells after, popCells count stack = .ok cells after →
        popEach count stack = .ok cells.reverse after ∧
        pushAll cells after = .ok () stack ∧
        stack.fromTop = cells.reverse ++ after.fromTop ∧
        ∀ (depth : UInt64) (cell : Cell),
          stack.peek depth = .ok (.ok cell) ↔ stack.fromTop[depth.toNat]? = some cell := by
  obtain ⟨capacity_eq, fits⟩ := reachable.within
  have within : stack.depth ≤ stack.capacity := by rwa [capacity_eq]
  have small : stack.depth < UInt64.size := Nat.lt_of_le_of_lt fits capacity.toNat_lt
  constructor
  · intro cells
    refine ⟨?_, fun after => popCells_of_pushAll, fun fault after => pushAll_eq_error within⟩
    rw [exists_pushAll_eq_ok within, HasRoom, capacity_eq]
  · intro count
    refine ⟨exists_popCells_eq_ok, ?_, ?_⟩
    · intro fault after failed
      exact (popCells_eq_error.mp failed).2
    · intro cells after popped
      obtain ⟨cells_eq, same, length_eq⟩ := popCells_eq_ok.mp popped
      refine ⟨?_, pushAll_of_popCells within popped, ?_, fun depth cell => peek_eq_ok small⟩
      · exact popEach_eq_ok.mpr ⟨cells_eq, same, by rw [List.length_reverse, length_eq]⟩
      · rw [fromTop_eq, fromTop_eq, cells_eq]

def oneWide : OperandStack := ofCells 4 [.wide 7]

/-- The second cell does not fit, and the third one would but is not pushed either. -/
theorem many_cells_exact_refused :
    Reachable (4 : UInt64).toNat oneWide ∧
      pushAll [.narrow 1, .wide 2, .narrow 3] oneWide =
        .error .operandStackOverflow (oneWide.withCells [.narrow 1]) ∧
      (∃ fitting, oneWide.IsLongestFitting [.narrow 1, .wide 2, .narrow 3] fitting ∧
        oneWide.withCells [.narrow 1] = oneWide.withCells fitting) ∧
      pushAll [.wide 2] oneWide = .ok () (oneWide.withCells [.wide 2]) ∧
      popCells 1 (oneWide.withCells [.wide 2]) = .ok [.wide 2] oneWide := by
  have reachable : Reachable (4 : UInt64).toNat oneWide := ⟨[.push (.wide 7)], rfl⟩
  have pushing := (many_cells_exact reachable).1
  have refused : pushAll [.narrow 1, .wide 2, .narrow 3] oneWide =
      .error .operandStackOverflow (oneWide.withCells [.narrow 1]) := rfl
  have pushed : pushAll [.wide 2] oneWide = .ok () (oneWide.withCells [.wide 2]) := rfl
  exact ⟨reachable, refused, ((pushing _).2.2 _ _ refused).2, pushed, (pushing _).2.1 _ pushed⟩

end ClassMachine.OperandStack
