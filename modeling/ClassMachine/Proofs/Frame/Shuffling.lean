import ClassMachine.Proofs.Frame.Control

set_option autoImplicit false

/-!
# Stack instructions move slots

Without types, a stack instruction is a rule about slots: it takes the topmost block of one or two
slots, and removes it, exchanges it with the slots right beneath it, or copies it beneath them. The
instructions on cells, whose forms go by the widths of the cells that they find, follow this rule.
They insist on nothing but that no wide cell is cut in two and that the result has room.
-/

namespace ClassMachine

open Outcome

namespace StackShuffle

def block : StackShuffle → Nat
  | .pop | .dup | .dupX1 | .dupX2 | .swap => 1
  | .pop2 | .dup2 | .dup2X1 | .dup2X2 => 2

/-- The slots right beneath the block that it is exchanged with or copied beneath. -/
def beneath : StackShuffle → Nat
  | .pop | .pop2 | .dup | .dup2 => 0
  | .dupX1 | .dup2X1 | .swap => 1
  | .dupX2 | .dup2X2 => 2

/-- What takes the place of the block and of what is beneath it, from the bottom up. -/
def rearrange {α : Type} (under block : List α) : StackShuffle → List α
  | .pop | .pop2 => under
  | .swap => block ++ under
  | .dup | .dupX1 | .dupX2 | .dup2 | .dup2X1 | .dup2X2 => block ++ under ++ block

theorem block_le (kind : StackShuffle) : kind.block ≤ 2 := by
  cases kind <;> decide

theorem beneath_le (kind : StackShuffle) : kind.beneath ≤ 2 := by
  cases kind <;> decide

/-- The rule on slots, from the bottom up; there may be too few of them. -/
def onSlots {α : Type} (kind : StackShuffle) (slots : List α) : Option (List α) :=
  if kind.beneath + kind.block ≤ slots.length then
    let others := slots.take (slots.length - (kind.beneath + kind.block))
    let moved := slots.drop (slots.length - (kind.beneath + kind.block))
    some (others ++ kind.rearrange (moved.take kind.beneath) (moved.drop kind.beneath))
  else none

theorem onSlots_append {α : Type} {kind : StackShuffle} {others under block : List α}
    (under_length : under.length = kind.beneath) (block_length : block.length = kind.block) :
    kind.onSlots (others ++ (under ++ block)) = some (others ++ kind.rearrange under block) := by
  have moved_length : (under ++ block).length = kind.beneath + kind.block := by
    rw [List.length_append, under_length, block_length]
  have enough : kind.beneath + kind.block ≤ (others ++ (under ++ block)).length := by
    rw [List.length_append, moved_length]
    exact Nat.le_add_left ..
  have others_length :
      (others ++ (under ++ block)).length - (kind.beneath + kind.block) = others.length := by
    rw [List.length_append, moved_length, Nat.add_sub_cancel]
  unfold onSlots
  rw [if_pos enough, others_length, List.take_left, List.drop_left]
  dsimp only
  rw [List.take_left' under_length, List.drop_left' under_length]

theorem flatMap_rearrange {α β : Type} (kind : StackShuffle) (items : α → List β)
    (under block : List α) :
    (kind.rearrange under block).flatMap items =
      kind.rearrange (under.flatMap items) (block.flatMap items) := by
  cases kind <;> simp [rearrange]

end StackShuffle

/-- The cells of a stack, from the bottom up, with the block and what is beneath it. -/
structure StackShuffle.Divides (kind : StackShuffle) (stack : OperandStack)
    (others under block : List Cell) : Prop where
  cells_eq : stack.cells.reverse = others ++ (under ++ block)
  under_width : totalWidth under = kind.beneath
  block_width : totalWidth block = kind.block

namespace Cell

theorem isNarrow_iff {cell : Cell} : cell.isNarrow ↔ width cell = 1 := by
  cases cell <;> simp [isNarrow]

theorem not_isNarrow_iff {cell : Cell} : ¬cell.isNarrow ↔ width cell = 2 := by
  cases cell <;> simp [isNarrow]

end Cell

theorem totalWidth_eq_zero {cells : List Cell} : totalWidth cells = 0 ↔ cells = [] := by
  cases cells with
  | nil => simp
  | cons cell cells =>
    have wide_or_narrow := cell.width_eq
    simp only [totalWidth_cons, reduceCtorEq, iff_false]
    omega

theorem totalWidth_eq_one {cells : List Cell} :
    totalWidth cells = 1 ↔ ∃ cell, width cell = 1 ∧ cells = [cell] := by
  constructor
  · intro one
    cases cells with
    | nil => cases one
    | cons cell cells =>
      have wide_or_narrow := cell.width_eq
      rw [totalWidth_cons] at one
      obtain rfl := totalWidth_eq_zero.mp (show totalWidth cells = 0 by omega)
      exact ⟨cell, by omega, rfl⟩
  · rintro ⟨cell, narrow, rfl⟩
    rw [totalWidth_cons, narrow, totalWidth_nil]

theorem totalWidth_eq_two {cells : List Cell} :
    totalWidth cells = 2 ↔
      (∃ cell, width cell = 2 ∧ cells = [cell]) ∨
        ∃ first second, width first = 1 ∧ width second = 1 ∧ cells = [first, second] := by
  constructor
  · intro two
    cases cells with
    | nil => cases two
    | cons cell cells =>
      rw [totalWidth_cons] at two
      rcases cell.width_eq with narrow | wide
      · obtain ⟨second, second_narrow, rfl⟩ :=
          totalWidth_eq_one.mp (show totalWidth cells = 1 by omega)
        exact .inr ⟨cell, second, narrow, second_narrow, rfl⟩
      · obtain rfl := totalWidth_eq_zero.mp (show totalWidth cells = 0 by omega)
        exact .inl ⟨cell, wide, rfl⟩
  · rintro (⟨cell, wide, rfl⟩ | ⟨first, second, first_narrow, second_narrow, rfl⟩)
    · rw [totalWidth_cons, wide, totalWidth_nil]
    · rw [totalWidth_cons, totalWidth_cons, first_narrow, second_narrow, totalWidth_nil]

namespace Operation

open OperandStack

/-- Pops the cells of that many slots, which may be up to two, and returns them in the order in
which they were pushed. -/
def popBlock : Nat → StackOperation (List Cell)
  | 0 => pure []
  | 1 => do
    let cell ← popWidth 1
    pure [cell]
  | _ => do
    let first ← pop
    if first.isNarrow then
      let second ← popWidth 1
      pure [second, first]
    else pure [first]

section Bind

variable {α : Type} (next : List Cell → StackOperation α)

theorem popBlock_zero_bind : popBlock 0 >>= next = next [] := rfl

theorem popBlock_one_bind :
    popBlock 1 >>= next = popWidth 1 >>= fun cell => next [cell] := by
  simp only [popBlock, bind_assoc, pure_bind]

theorem popBlock_two_bind :
    popBlock 2 >>= next = pop >>= fun first =>
      if first.isNarrow then popWidth 1 >>= fun second => next [second, first]
      else next [first] := by
  simp only [popBlock, bind_assoc]
  refine bind_congr fun first => ?_
  split
  · simp only [bind_assoc, pure_bind]
  · rw [pure_bind]

end Bind

theorem popBlock_eq_ok {slotCount : Nat} (few : slotCount ≤ 2) {stack after : OperandStack}
    {block : List Cell} :
    popBlock slotCount stack = .ok block after ↔
      stack.cells = block.reverse ++ after.cells ∧ after.capacity = stack.capacity ∧
        totalWidth block = slotCount := by
  have last {cells : List Cell} {before : OperandStack} :
      (pure cells : StackOperation (List Cell)) before = .ok block after ↔
        cells = block ∧ before = after := by
    simp [pure_apply]
  match slotCount, few with
  | 0, _ =>
    rw [popBlock, last, totalWidth_eq_zero]
    constructor
    · rintro ⟨rfl, rfl⟩
      exact ⟨rfl, rfl, rfl⟩
    · rintro ⟨cells_eq, capacity_eq, rfl⟩
      exact ⟨rfl, ext cells_eq capacity_eq.symm⟩
  | 1, _ =>
    simp only [popBlock, bind_eq_ok, popWidth_eq_ok, last, totalWidth_eq_one]
    constructor
    · rintro ⟨cell, between, ⟨cells_eq, capacity_eq, narrow⟩, rfl, rfl⟩
      exact ⟨cells_eq, capacity_eq, cell, narrow, rfl⟩
    · rintro ⟨cells_eq, capacity_eq, cell, narrow, rfl⟩
      exact ⟨cell, after, ⟨cells_eq, capacity_eq, narrow⟩, rfl, rfl⟩
  | 2, _ =>
    simp only [popBlock, bind_eq_ok, pop_eq_ok, totalWidth_eq_two]
    constructor
    · rintro ⟨first, between, ⟨cells_eq, capacity_eq⟩, rest⟩
      split at rest
      next narrow =>
        simp only [bind_eq_ok, popWidth_eq_ok, last] at rest
        obtain ⟨second, _, ⟨between_eq, between_capacity, second_narrow⟩, rfl, rfl⟩ := rest
        refine ⟨by rw [cells_eq, between_eq]; rfl, between_capacity.trans capacity_eq, .inr ?_⟩
        exact ⟨second, first, second_narrow, Cell.isNarrow_iff.mp narrow, rfl⟩
      next wide =>
        obtain ⟨rfl, rfl⟩ := last.mp rest
        exact ⟨cells_eq, capacity_eq, .inl ⟨first, Cell.not_isNarrow_iff.mp wide, rfl⟩⟩
    · rintro ⟨cells_eq, capacity_eq, ⟨first, wide, rfl⟩ | ⟨second, first, narrow, top_narrow, rfl⟩⟩
      · refine ⟨first, after, ⟨cells_eq, capacity_eq⟩, ?_⟩
        rw [if_neg (Cell.not_isNarrow_iff.mpr wide)]
        exact last.mpr ⟨rfl, rfl⟩
      · refine ⟨first, ofCells stack.capacity (second :: after.cells), ⟨cells_eq, rfl⟩, ?_⟩
        rw [if_pos (Cell.isNarrow_iff.mpr top_narrow)]
        simp only [bind_eq_ok, popWidth_eq_ok, last]
        exact ⟨second, after, ⟨rfl, capacity_eq, narrow⟩, rfl, rfl⟩

/-- The rule that a stack instruction follows, on cells. -/
def moveBlock (kind : StackShuffle) : StackOperation Unit := do
  let block ← popBlock kind.block
  let under ← popBlock kind.beneath
  pushAll (kind.rearrange under block)

/-- All forms of an instruction are one rule. Only `dup` looks at the top and does not take it. -/
theorem shuffle_eq_moveBlock {kind : StackShuffle} (takes : kind ≠ .dup) :
    shuffle kind = moveBlock kind := by
  cases kind with
  | dup => exact absurd rfl takes
  | pop | pop2 | dupX1 | dupX2 | dup2 | swap =>
    simp only [shuffle, drop, moveBlock, StackShuffle.block, StackShuffle.beneath,
      StackShuffle.rearrange, popBlock_zero_bind, popBlock_one_bind, popBlock_two_bind]
    rfl
  | dup2X1 =>
    simp only [shuffle, moveBlock, StackShuffle.block, StackShuffle.beneath,
      StackShuffle.rearrange, popBlock_one_bind, popBlock_two_bind]
    refine bind_congr fun first => ?_
    -- The next cell must be narrow whatever the first one is, as the second half of the block or
    -- as what is beneath it.
    cases first.isNarrow <;> rfl
  | dup2X2 =>
    simp only [shuffle, moveBlock, StackShuffle.block, StackShuffle.beneath,
      StackShuffle.rearrange, popBlock_two_bind]
    refine bind_congr fun first => ?_
    cases first.isNarrow <;> rfl

theorem moveBlock_eq_ok {kind : StackShuffle} {stack after : OperandStack} :
    moveBlock kind stack = .ok () after ↔
      ∃ others under block, kind.Divides stack others under block ∧
        after.cells.reverse = others ++ kind.rearrange under block ∧
        after.capacity = stack.capacity ∧
        (kind.rearrange under block = [] ∨ after.depth ≤ after.capacity) := by
  simp only [moveBlock, bind_eq_ok, popBlock_eq_ok kind.block_le, popBlock_eq_ok kind.beneath_le,
    pushAll_eq_ok]
  constructor
  · rintro ⟨block, _, ⟨stack_eq, block_capacity, block_width⟩, under, between, below, pushed⟩
    obtain ⟨below_eq, under_capacity, under_width⟩ := below
    obtain ⟨after_eq, after_capacity, fits⟩ := pushed
    refine ⟨between.cells.reverse, under, block, ⟨?_, under_width, block_width⟩, ?_, ?_, fits⟩
    · rw [stack_eq, below_eq]
      simp
    · rw [after_eq]
      simp
    · rw [after_capacity, under_capacity, block_capacity]
  · rintro ⟨others, under, block, divides, after_eq, after_capacity, fits⟩
    have stack_eq : stack.cells = block.reverse ++ (under.reverse ++ others.reverse) := by
      rw [← List.reverse_reverse stack.cells, divides.cells_eq]
      simp
    have after_eq : after.cells = (kind.rearrange under block).reverse ++ others.reverse := by
      rw [← List.reverse_reverse after.cells, after_eq, List.reverse_append]
    exact ⟨block, ofCells stack.capacity (under.reverse ++ others.reverse),
      ⟨stack_eq, rfl, divides.block_width⟩, under, ofCells stack.capacity others.reverse,
      ⟨rfl, rfl, divides.under_width⟩, after_eq, after_capacity, fits⟩

/-- To look at the top and push it again has the same results as to take it and push it twice. -/
theorem shuffle_dup_eq_ok {stack after : OperandStack} :
    shuffle .dup stack = .ok () after ↔ moveBlock .dup stack = .ok () after := by
  have copied : moveBlock .dup stack = .ok () after ↔
      ∃ cell rest, stack.cells = cell :: rest ∧ width cell = 1 ∧ push cell stack = .ok () after := by
    simp only [moveBlock, StackShuffle.block, StackShuffle.beneath, StackShuffle.rearrange,
      popBlock_one_bind, popBlock_zero_bind, bind_eq_ok, popWidth_eq_ok, pushAll_eq_ok, push_eq_ok]
    constructor
    · rintro ⟨cell, between, ⟨cells_eq, capacity_eq, narrow⟩, after_eq, after_capacity, fits⟩
      refine ⟨cell, between.cells, cells_eq, narrow, ?_, after_capacity.trans capacity_eq, ?_⟩
      · rw [after_eq, cells_eq]
        rfl
      · exact fits.resolve_left (List.cons_ne_nil _ _)
    · rintro ⟨cell, rest, cells_eq, narrow, after_eq, after_capacity, fits⟩
      refine ⟨cell, ofCells stack.capacity rest, ⟨cells_eq, rfl, narrow⟩, ?_, after_capacity,
        .inr fits⟩
      rw [after_eq, cells_eq]
      rfl
  rw [copied]
  change ((ofExcept stack.top : StackOperation Cell) >>= fun first =>
    if first.isNarrow then push first else throw .mismatchedWidth) stack = .ok () after ↔ _
  unfold top
  cases cells_eq : stack.cells with
  | nil =>
    constructor
    · intro succeeded
      cases succeeded
    · rintro ⟨_, _, none_left, -⟩
      cases none_left
  | cons cell rest =>
    rw [ofExcept_ok, pure_bind]
    constructor
    · intro succeeded
      split at succeeded
      next narrow => exact ⟨cell, rest, rfl, Cell.isNarrow_iff.mp narrow, succeeded⟩
      next => cases succeeded
    · rintro ⟨_, _, split_eq, narrow, pushed⟩
      cases split_eq
      rwa [if_pos (Cell.isNarrow_iff.mpr narrow)]

theorem shuffle_eq_ok {kind : StackShuffle} {stack after : OperandStack} :
    shuffle kind stack = .ok () after ↔
      ∃ others under block, kind.Divides stack others under block ∧
        after.cells.reverse = others ++ kind.rearrange under block ∧
        after.capacity = stack.capacity ∧
        (kind.rearrange under block = [] ∨ after.depth ≤ after.capacity) := by
  rw [← moveBlock_eq_ok]
  by_cases looks : kind = .dup
  · rw [looks, shuffle_dup_eq_ok]
  · rw [shuffle_eq_moveBlock looks]

end Operation

namespace OperandStack

theorem length_slots (stack : OperandStack) : stack.slots.length = stack.depth := by
  rw [slots, Cell.length_flatMap_slots, totalWidth_reverse, stack.depth_eq]

/-- No cell has slots both among the topmost ones, which are this many, and below them. -/
def HasBoundary (stack : OperandStack) (slotCount : Nat) : Prop :=
  ∃ upper lower, stack.cells = upper ++ lower ∧ totalWidth upper = slotCount

end OperandStack

namespace StackShuffle

variable {kind : StackShuffle} {stack : OperandStack}

theorem exists_divides_iff :
    (∃ others under block, kind.Divides stack others under block) ↔
      stack.HasBoundary kind.block ∧ stack.HasBoundary (kind.block + kind.beneath) := by
  constructor
  · rintro ⟨others, under, block, divides⟩
    have cells_eq : stack.cells = block.reverse ++ (under.reverse ++ others.reverse) := by
      rw [← List.reverse_reverse stack.cells, divides.cells_eq]
      simp
    refine ⟨⟨block.reverse, _, cells_eq, ?_⟩, block.reverse ++ under.reverse, others.reverse, ?_, ?_⟩
    · rw [totalWidth_reverse, divides.block_width]
    · rw [cells_eq, List.append_assoc]
    · rw [totalWidth_append, totalWidth_reverse, totalWidth_reverse, divides.block_width,
        divides.under_width]
  · rintro ⟨⟨upper, lower, cells_eq, upper_width⟩, both, others, split_eq, both_width⟩
    -- The lower cut is not above the upper one, so the cells above it start with the block.
    have nested : ∃ under, both = upper ++ under := by
      rcases List.append_eq_append_iff.mp (cells_eq.symm.trans split_eq) with
        ⟨under, both_eq, -⟩ | ⟨extra, upper_eq, -⟩
      · exact ⟨under, both_eq⟩
      · have extra_width := congrArg totalWidth upper_eq
        rw [totalWidth_append, upper_width, both_width] at extra_width
        obtain rfl := totalWidth_eq_zero.mp (show totalWidth extra = 0 by omega)
        exact ⟨[], by rw [upper_eq, List.append_nil, List.append_nil]⟩
    obtain ⟨under, rfl⟩ := nested
    rw [totalWidth_append, upper_width] at both_width
    refine ⟨others.reverse, under.reverse, upper.reverse, ?_, ?_, ?_⟩
    · rw [split_eq]
      simp
    · rw [totalWidth_reverse]
      omega
    · rw [totalWidth_reverse, upper_width]

theorem Divides.onSlots {others under block : List Cell}
    (divides : kind.Divides stack others under block) {after : OperandStack}
    (after_eq : after.cells.reverse = others ++ kind.rearrange under block) :
    kind.onSlots stack.slots = some after.slots := by
  have under_length : (under.flatMap Cell.slots).length = kind.beneath := by
    rw [Cell.length_flatMap_slots, divides.under_width]
  have block_length : (block.flatMap Cell.slots).length = kind.block := by
    rw [Cell.length_flatMap_slots, divides.block_width]
  unfold OperandStack.slots
  rw [divides.cells_eq, after_eq, List.flatMap_append, List.flatMap_append, List.flatMap_append,
    onSlots_append under_length block_length, flatMap_rearrange]

end StackShuffle

namespace Frame

theorem execute_stack_eq_ok {pool : ConstantPool} {kind : StackShuffle} {next : Nat}
    {frame after : Frame} {control : Control} :
    execute pool (.stack kind) next frame = .ok control after ↔
      ∃ stack, Operation.shuffle kind frame.stack = .ok () stack ∧ control = .continue ∧
        after = { frame with stack, pc := next } := by
  have operated : operate pool frame.locals next (.stack kind) =
      Operation.shuffle kind >>= fun _ => pure .next :=
    rfl
  rw [execute_eq_ok, operated]
  simp only [bind_eq_ok]
  constructor
  · rintro ⟨_, stack, ⟨_, between, shuffled, rest⟩, committed⟩
    cases rest
    cases committed
    exact ⟨stack, shuffled, rfl, rfl⟩
  · rintro ⟨stack, shuffled, rfl, rfl⟩
    exact ⟨_, stack, ⟨(), stack, shuffled, rfl⟩, rfl⟩

theorem divides_of_execute_stack {pool : ConstantPool} {kind : StackShuffle} {next : Nat}
    {frame after : Frame} {control : Control} (within : frame.stack.depth ≤ frame.stack.capacity)
    (executed : execute pool (.stack kind) next frame = .ok control after) :
    (∃ others under block, kind.Divides frame.stack others under block ∧
      after.stack.cells.reverse = others ++ kind.rearrange under block) ∧
    after.stack.depth ≤ after.stack.capacity ∧ after.stack.capacity = frame.stack.capacity ∧
    control = .continue ∧ after = { frame with stack := after.stack, pc := next } := by
  obtain ⟨stack, shuffled, rfl, rfl⟩ := execute_stack_eq_ok.mp executed
  have kept : OperandStack.KeepsRoom frame.stack (state (Operation.shuffle kind frame.stack)) :=
    Respects.related frame.stack
  rw [shuffled] at kept
  obtain ⟨others, under, block, divides, after_eq, -⟩ := Operation.shuffle_eq_ok.mp shuffled
  exact ⟨⟨others, under, block, divides, after_eq⟩, kept.2 within, kept.1, rfl, rfl⟩

/-- On a stack within its capacity, a stack instruction succeeds exactly if the rule on slots has
enough of them, does not cut a cell in two and leaves no more slots than there is room for. Then it
does to the slots what the rule says and keeps all cells whole, and nothing else changes but the
program counter. Every stack is within its capacity as long as it is made by these operations. -/
theorem stack_instruction_moves_slots (pool : ConstantPool) (kind : StackShuffle) (next : Nat)
    (frame : Frame) (within : frame.stack.depth ≤ frame.stack.capacity) :
    ((∃ control after, execute pool (.stack kind) next frame = .ok control after) ↔
      frame.stack.HasBoundary kind.block ∧
      frame.stack.HasBoundary (kind.block + kind.beneath) ∧
      ∃ slots, kind.onSlots frame.stack.slots = some slots ∧
        slots.length ≤ frame.stack.capacity) ∧
    ∀ control after, execute pool (.stack kind) next frame = .ok control after →
      kind.onSlots frame.stack.slots = some after.stack.slots ∧
      (∃ others under block, kind.Divides frame.stack others under block ∧
        after.stack.cells.reverse = others ++ kind.rearrange under block) ∧
      after.stack.capacity = frame.stack.capacity ∧
      control = .continue ∧ after = { frame with stack := after.stack, pc := next } := by
  refine ⟨⟨?_, ?_⟩, ?_⟩
  · rintro ⟨control, after, executed⟩
    obtain ⟨⟨others, under, block, divides, after_eq⟩, fits, capacity_eq, -, -⟩ :=
      divides_of_execute_stack within executed
    obtain ⟨upper, lower⟩ := StackShuffle.exists_divides_iff.mp ⟨others, under, block, divides⟩
    refine ⟨upper, lower, after.stack.slots, divides.onSlots after_eq, ?_⟩
    rwa [OperandStack.length_slots, ← capacity_eq]
  · rintro ⟨upper, lower, slots, moved, fits⟩
    obtain ⟨others, under, block, divides⟩ :=
      StackShuffle.exists_divides_iff.mpr ⟨upper, lower⟩
    have after_eq : (OperandStack.ofCells frame.stack.capacity
        (others ++ kind.rearrange under block).reverse).cells.reverse =
        others ++ kind.rearrange under block :=
      List.reverse_reverse _
    obtain rfl := Option.some.inj (moved.symm.trans (divides.onSlots after_eq))
    rw [OperandStack.length_slots] at fits
    have shuffled := Operation.shuffle_eq_ok.mpr
      ⟨others, under, block, divides, after_eq, rfl, .inr fits⟩
    exact ⟨_, _, execute_stack_eq_ok.mpr ⟨_, shuffled, rfl, rfl⟩⟩
  · intro control after executed
    obtain ⟨⟨others, under, block, divides, after_eq⟩, -, unchanged⟩ :=
      divides_of_execute_stack within executed
    exact ⟨divides.onSlots after_eq, ⟨others, under, block, divides, after_eq⟩, unchanged⟩

/-- A frame with a wide cell above two narrow ones, and room for two more slots. -/
def wideOverNarrow : Frame :=
  { enter 0 ⟨6, 0, [0x5e], [], []⟩ with
    stack := .ofCells 6 [.wide 0x0000000100000002, .narrow 3, .narrow 4] }

/-- The wide cell is copied beneath the two narrow ones. -/
theorem stack_instruction_moves_slots_wide_over_narrow :
    ∃ control after, execute .empty (.stack .dup2X2) 1 wideOverNarrow = .ok control after ∧
      StackShuffle.dup2X2.onSlots [4, 3, 1, 2] = some after.stack.slots ∧
      after.stack.slots = [1, 2, 4, 3, 1, 2] ∧ after.pc = 1 := by
  obtain ⟨succeeds, result⟩ :=
    stack_instruction_moves_slots .empty .dup2X2 1 wideOverNarrow (by decide)
  have block_boundary : wideOverNarrow.stack.HasBoundary StackShuffle.dup2X2.block :=
    ⟨[.wide 0x0000000100000002], [.narrow 3, .narrow 4], rfl, rfl⟩
  have beneath_boundary : wideOverNarrow.stack.HasBoundary
      (StackShuffle.dup2X2.block + StackShuffle.dup2X2.beneath) :=
    ⟨[.wide 0x0000000100000002, .narrow 3, .narrow 4], [], rfl, rfl⟩
  obtain ⟨control, after, executed⟩ :=
    succeeds.mpr ⟨block_boundary, beneath_boundary, [1, 2, 4, 3, 1, 2], by decide, by decide⟩
  obtain ⟨moved, -, -, -, after_eq⟩ := result control after executed
  refine ⟨control, after, executed, moved, ?_, by rw [after_eq]⟩
  exact (Option.some.inj (moved.symm.trans (by decide)))

end Frame

end ClassMachine
