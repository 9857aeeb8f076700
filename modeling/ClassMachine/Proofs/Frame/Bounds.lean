import ClassMachine.Thread.Basic
import ClassMachine.Proofs.Frame.Composite
import ClassMachine.Proofs.Frame.LocalVariables
import ClassMachine.Proofs.Instruction.Operands

set_option autoImplicit false

/-!
# What no instruction breaks

Every operation on an operand stack keeps the stack within its capacity, also when it fails half
done. Executing an instruction therefore keeps a frame within what its code asks for: the stack has
room for `maxStack` slots and no more, the local variables stay `maxLocals` many, and the program
counter stays inside the code or at its end.
-/

namespace ClassMachine

namespace OperandStack

/-- The capacity is the same, and the second stack is within it if the first one is. -/
def KeepsRoom (before after : OperandStack) : Prop :=
  after.capacity = before.capacity ∧ (before.depth ≤ before.capacity → after.depth ≤ after.capacity)

instance : Outcome.Chain KeepsRoom where
  refl _ := ⟨rfl, id⟩
  trans first second := ⟨second.1.trans first.1, fun fits => second.2 (first.2 fits)⟩

open Outcome

section Primitive

instance respects_push (cell : Cell) : Respects KeepsRoom (push cell) where
  related stack := by
    unfold push
    split
    next room =>
      refine ⟨rfl, fun _ => ?_⟩
      change width cell + stack.depth ≤ stack.capacity
      omega
    next => exact ⟨rfl, id⟩

instance respects_pop : Respects KeepsRoom pop where
  related stack := by
    unfold pop
    split
    next => exact ⟨rfl, id⟩
    next cell cells _ => exact ⟨rfl, fun fits => Nat.le_trans (Nat.sub_le ..) fits⟩

instance respects_popCells (count : Nat) : Respects KeepsRoom (popCells count) where
  related stack := by
    unfold popCells
    split
    next => exact ⟨rfl, fun fits => Nat.le_trans (Nat.sub_le ..) fits⟩
    next => exact ⟨rfl, id⟩

end Primitive

instance respects_of_composite {α : Type} (operation : StackOperation α)
    [composite : Composite operation] : Respects KeepsRoom operation := by
  induction composite with
  | pure value => exact respects_pure value
  | throw fault => exact respects_throw fault
  | push cell => exact respects_push cell
  | pop => exact respects_pop
  | top => infer_instance
  | bind _ _ head tail => exact respects_bind _ _

end OperandStack

open OperandStack Outcome

namespace Frame

/-- A frame is within what its code asks for. -/
structure WithinCode (frame : Frame) : Prop where
  pc_le : frame.pc ≤ frame.code.instructions.length
  capacity_eq : frame.stack.capacity = frame.code.maxStack.toNat
  depth_le : frame.stack.depth ≤ frame.stack.capacity
  size_eq : frame.locals.size = frame.code.maxLocals.toNat

theorem withinCode_enter (methodIndex : Nat) (code : Code) :
    (enter methodIndex code).WithinCode where
  pc_le := Nat.zero_le _
  capacity_eq := rfl
  depth_le := Nat.zero_le _
  size_eq := by simp [enter, LocalVariables.zeros, LocalVariables.size]

theorem WithinCode.withStack {frame : Frame} (within : frame.WithinCode) {stack : OperandStack}
    (kept : KeepsRoom frame.stack stack) : { frame with stack }.WithinCode where
  pc_le := within.pc_le
  capacity_eq := kept.1.trans within.capacity_eq
  depth_le := kept.2 within.depth_le
  size_eq := within.size_eq

/-- The method and its code are the same, and the second frame is within the code if the first one
is. -/
def KeepsCode (before after : Frame) : Prop :=
  after.methodIndex = before.methodIndex ∧ after.code = before.code ∧
    (before.WithinCode → after.WithinCode)

instance : Chain KeepsCode where
  refl _ := ⟨rfl, rfl, id⟩
  trans first second := ⟨second.1.trans first.1, second.2.1.trans first.2.1,
    fun within => second.2.2 (first.2.2 within)⟩

theorem keepsCode_withStack (frame : Frame) {stack : OperandStack}
    (kept : KeepsRoom frame.stack stack) : KeepsCode frame { frame with stack } :=
  ⟨rfl, rfl, fun within => within.withStack kept⟩

theorem target_lt {frame : Frame} {address : Int} {pc : Nat}
    (inside : frame.target address = .ok pc) : pc < frame.code.instructions.length := by
  unfold target at inside
  split at inside
  next bounds =>
    cases inside
    omega
  next => cases inside

theorem follow_le {frame : Frame} {next pc : Nat} {flow : Flow} {control : Control}
    (followed : frame.follow next flow = .ok (pc, control))
    (next_le : next ≤ frame.code.instructions.length)
    (pc_le : frame.pc ≤ frame.code.instructions.length) : pc ≤ frame.code.instructions.length := by
  cases flow with
  | next | invokeStatic index =>
    cases followed
    exact next_le
  | leave value =>
    cases followed
    exact pc_le
  | unsupported => cases followed
  | jump offset | resume address =>
    obtain ⟨address, inside, moved⟩ := except_bind_eq_ok.mp followed
    cases moved
    exact Nat.le_of_lt (target_lt inside)

theorem commit_eq_ok {frame after : Frame} {next : Nat} {effect : Effect} {control : Control} :
    frame.commit next effect = .ok (after, control) ↔
      ∃ locals pc, frame.storeWrite effect.write = .ok locals ∧
        frame.follow next effect.flow = .ok (pc, control) ∧ after = { frame with locals, pc } := by
  unfold commit
  simp only [except_bind_eq_ok, Prod.exists, Except.ok.injEq, Prod.mk.injEq]
  constructor
  · intro committed
    rcases committed with ⟨locals, stored, pc, _, followed, rfl, rfl⟩
    exact ⟨locals, pc, stored, followed, rfl⟩
  · intro parts
    rcases parts with ⟨locals, pc, stored, followed, rfl⟩
    exact ⟨locals, stored, pc, control, followed, rfl, rfl⟩

theorem size_storeWrite {frame : Frame} {write : Option (UInt16 × Cell)} {locals : LocalVariables}
    (stored : frame.storeWrite write = .ok locals) : locals.size = frame.locals.size := by
  cases write with
  | none =>
    cases stored
    rfl
  | some write => exact LocalVariables.size_storeCell stored

theorem keepsCode_commit {frame after : Frame} {next : Nat} {effect : Effect} {control : Control}
    (committed : frame.commit next effect = .ok (after, control))
    (next_le : next ≤ frame.code.instructions.length) : KeepsCode frame after := by
  obtain ⟨locals, pc, stored, followed, rfl⟩ := commit_eq_ok.mp committed
  refine ⟨rfl, rfl, fun within => ?_⟩
  have pc_le : pc ≤ frame.code.instructions.length := follow_le followed next_le within.pc_le
  exact
    { pc_le
      capacity_eq := within.capacity_eq
      depth_le := within.depth_le
      size_eq := (size_storeWrite stored).trans within.size_eq }

theorem keepsCode_execute (pool : ConstantPool) (instruction : Instruction) {next : Nat}
    {frame : Frame} (next_le : next ≤ frame.code.instructions.length) :
    KeepsCode frame (state (execute pool instruction next frame)) := by
  have kept : KeepsRoom frame.stack
      (state (operate pool frame.locals next instruction frame.stack)) :=
    Respects.related frame.stack
  unfold execute
  split
  next fault stack operated =>
    rw [operated] at kept
    exact keepsCode_withStack frame kept
  next effect stack operated =>
    rw [operated] at kept
    have head := keepsCode_withStack frame kept
    split
    next fault _ => exact head
    next after control committed => exact Chain.trans head (keepsCode_commit committed next_le)

instance respects_step (pool : ConstantPool) : Respects KeepsCode (step pool) where
  related frame := by
    unfold step
    split
    next fault _ => exact Chain.refl frame
    next instruction next fetched =>
      exact keepsCode_execute pool instruction (Instruction.next_le_length_of_decode fetched).2

instance respects_onStack {α : Type} (operation : StackOperation α)
    [Respects KeepsRoom operation] : Respects KeepsCode (Thread.onStack operation) where
  related frame := by
    have kept : KeepsRoom frame.stack (state (operation frame.stack)) :=
      Respects.related frame.stack
    unfold Thread.onStack
    split
    next outcome =>
      rw [outcome] at kept
      exact keepsCode_withStack frame kept
    next outcome =>
      rw [outcome] at kept
      exact keepsCode_withStack frame kept

end Frame

end ClassMachine
