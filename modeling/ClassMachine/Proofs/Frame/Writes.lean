import ClassMachine.Proofs.Frame.Control

set_option autoImplicit false

/-!
# What instructions write

The local variables and the program counter are changed after everything else, and only if nothing
failed: a failing instruction leaves both alone and has at most taken cells off the stack or put
some on it. Of the local variables, an instruction that succeeds writes the slots that it names.
-/

namespace ClassMachine

open Outcome

/-- The slots of local variables that the instruction may write. -/
def Instruction.writes : Instruction → Finset Nat
  | .store type index => Finset.Ico index.toNat (index.toNat + type.slotCount)
  | .increment index _ => {index.toNat}
  | _ => ∅

/-- The slots of local variables that the effect writes if it can be carried out. -/
def Effect.writes (effect : Effect) : Finset Nat :=
  match effect.write with
  | none => ∅
  | some (index, cell) => Finset.Ico index.toNat (index.toNat + width cell)

theorem writes_of_operate {pool : ConstantPool} {locals : LocalVariables} {next : Nat}
    {instruction : Instruction} {before after : OperandStack} {effect : Effect}
    (operated : operate pool locals next instruction before = .ok effect after) :
    effect.writes = instruction.writes := by
  cases instruction with
  | store type index =>
    obtain ⟨cell, between, popped, rest⟩ := bind_eq_ok.mp operated
    obtain ⟨-, -, width_eq⟩ := OperandStack.popWidth_eq_ok.mp popped
    cases rest
    rw [Instruction.writes, ← width_eq]
    rfl
  | increment index amount =>
    obtain ⟨value, between, loaded, rest⟩ := bind_eq_ok.mp operated
    cases rest
    exact Nat.Ico_succ_singleton index.toNat
  | invoke kind index =>
    cases kind <;> cases operated <;> rfl
  | _ =>
    -- All others end with an effect that writes nothing, after up to two operations on the stack.
    suffices yields : Yields (fun effect : Effect => effect.writes = ∅) (operate pool locals next _)
      from yields.holds operated
    first
      | exact yields_pure rfl
      | exact yields_bind fun _ => yields_pure rfl
      | exact yields_bind fun _ => yields_bind fun _ => yields_pure rfl

namespace LocalVariables

theorem getElem?_storeCell {locals stored : LocalVariables} {index : UInt16} {cell : Cell}
    (succeeded : locals.storeCell index cell = .ok stored) {position : Nat}
    (outside : position ∉ Finset.Ico index.toNat (index.toNat + width cell)) :
    stored.slots[position]? = locals.slots[position]? := by
  rw [Finset.mem_Ico] at outside
  unfold storeCell at succeeded
  split at succeeded
  next room =>
    cases cell with
    | narrow bits =>
      cases succeeded
      rw [Cell.width_narrow] at outside
      exact Array.getElem?_setIfInBounds_ne (by omega)
    | wide bits =>
      cases succeeded
      rw [Cell.width_wide] at outside
      exact (Array.getElem?_setIfInBounds_ne (by omega)).trans
        (Array.getElem?_setIfInBounds_ne (by omega))
  next => cases succeeded

end LocalVariables

namespace Frame

theorem getElem?_storeWrite {frame : Frame} {effect : Effect} {locals : LocalVariables}
    (stored : frame.storeWrite effect.write = .ok locals) {position : Nat}
    (outside : position ∉ effect.writes) :
    locals.slots[position]? = frame.locals.slots[position]? := by
  obtain ⟨write, flow⟩ := effect
  cases write with
  | none =>
    cases stored
    rfl
  | some write => exact LocalVariables.getElem?_storeCell stored outside

theorem execute_eq_error {pool : ConstantPool} {instruction : Instruction} {next : Nat}
    {frame after : Frame} {fault : Fault}
    (failed : execute pool instruction next frame = .error fault after) :
    after = { frame with
      stack := state (operate pool frame.locals next instruction frame.stack) } := by
  unfold execute at failed
  split at failed
  next operated =>
    cases failed
    rw [operated]
    rfl
  next operated =>
    split at failed
    next =>
      cases failed
      rw [operated]
      rfl
    next => cases failed

/-- A failing instruction leaves everything alone but the operand stack, which stays within its
capacity. One that succeeds can change the local variables in the slots that it writes, and in no
others. -/
theorem execute_changes_only (pool : ConstantPool) (instruction : Instruction) (next : Nat)
    (frame : Frame) :
    (∀ fault after, execute pool instruction next frame = .error fault after →
      after = { frame with stack := after.stack } ∧
      after.stack.capacity = frame.stack.capacity ∧
      (frame.stack.depth ≤ frame.stack.capacity → after.stack.depth ≤ after.stack.capacity)) ∧
    ∀ control after, execute pool instruction next frame = .ok control after →
      after.locals.size = frame.locals.size ∧
      ∀ position, after.locals.slots[position]? ≠ frame.locals.slots[position]? →
        position ∈ instruction.writes := by
  constructor
  · intro fault after failed
    have kept : OperandStack.KeepsRoom frame.stack
        (state (operate pool frame.locals next instruction frame.stack)) :=
      Respects.related frame.stack
    obtain rfl := execute_eq_error failed
    exact ⟨rfl, kept⟩
  · intro control after executed
    obtain ⟨effect, stack, operated, committed⟩ := execute_eq_ok.mp executed
    obtain ⟨locals, pc, stored, -, rfl⟩ := commit_eq_ok.mp committed
    refine ⟨size_storeWrite stored, fun position changed => ?_⟩
    rw [← writes_of_operate operated]
    by_contra outside
    exact changed (getElem?_storeWrite stored outside)

def wideToStore : Frame :=
  { enter 0 ⟨2, 3, [0x37, 0x01], [], []⟩ with stack := .ofCells 2 [.wide 0x0000000100000002] }

/-- There is no slot for the low half after the last one, so nothing is stored there although the
cell has been popped. One slot earlier, both halves are stored and the first slot is left alone. -/
theorem execute_changes_only_wide_to_store :
    (∃ after, execute .empty (.store .long 2) 2 wideToStore =
        .error (.invalidLocalIndex 2) after ∧
      after = { wideToStore with stack := after.stack } ∧ after.stack.cells = []) ∧
    ∃ control after, execute .empty (.store .long 1) 2 wideToStore = .ok control after ∧
      after.locals.slots = #[0, 1, 2] ∧
      after.locals.slots[0]? = wideToStore.locals.slots[0]? := by
  obtain ⟨failed, failing, no_cells⟩ : ∃ after, execute .empty (.store .long 2) 2 wideToStore =
      .error (.invalidLocalIndex 2) after ∧ after.stack.cells = [] :=
    ⟨_, rfl, rfl⟩
  obtain ⟨stored, storing, slots_eq⟩ : ∃ after, execute .empty (.store .long 1) 2 wideToStore =
      .ok .continue after ∧ after.locals.slots = #[0, 1, 2] :=
    ⟨_, rfl, rfl⟩
  refine ⟨⟨failed, failing, ?_, no_cells⟩, .continue, stored, storing, slots_eq, ?_⟩
  · exact ((execute_changes_only .empty (.store .long 2) 2 wideToStore).1 _ _ failing).1
  · by_contra changed
    have within := ((execute_changes_only .empty (.store .long 1) 2 wideToStore).2 _ _ storing).2
      0 changed
    exact absurd within (by decide)

end Frame

end ClassMachine
