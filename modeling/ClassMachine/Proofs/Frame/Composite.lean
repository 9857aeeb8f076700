import ClassMachine.Frame.Operation
import ClassMachine.Proofs.Outcome

set_option autoImplicit false

/-!
# Instructions work on the top of the stack

On the operand stack, an instruction does nothing but push, pop, look at the top and give up, one
after the other, where what comes next can depend on the cells that were found. A law of these few
operations that carries over to doing one after the other is therefore a law of every instruction.
-/

namespace ClassMachine

namespace OperandStack

/-- Made of operations on the top of the stack. -/
class inductive Composite : {α : Type} → StackOperation α → Prop where
  | pure {α : Type} (value : α) : Composite (pure value)
  | throw {α : Type} (fault : Fault) : Composite (throw fault : StackOperation α)
  | push (cell : Cell) : Composite (push cell)
  | pop : Composite pop
  | top : Composite (get >>= fun stack => ofExcept stack.top)
  | bind {α β : Type} {first : StackOperation α} {next : α → StackOperation β}
      (head : Composite first) (tail : ∀ value, Composite (next value)) :
    Composite (first >>= next)

attribute [instance] Composite.pure Composite.throw Composite.push Composite.pop

instance composite_bind {α β : Type} (first : StackOperation α) (next : α → StackOperation β)
    [head : Composite first] [tail : ∀ value, Composite (next value)] :
    Composite (first >>= next) :=
  .bind head tail

instance composite_ofExcept {α : Type} (result : Except Fault α) :
    Composite (ofExcept result : StackOperation α) := by
  cases result <;> unfold ofExcept <;> infer_instance

instance composite_ite {α : Type} (condition : Prop) [Decidable condition]
    (first second : StackOperation α) [Composite first] [Composite second] :
    Composite (if condition then first else second) := by
  split <;> infer_instance

instance composite_pushAll (cells : List Cell) : Composite (pushAll cells) := by
  induction cells with
  | nil => exact Composite.pure ()
  | cons cell cells inductionHypothesis =>
    exact Composite.bind (.push cell) fun _ => inductionHypothesis

instance composite_popWidth (expected : Nat) : Composite (popWidth expected) := by
  unfold popWidth
  infer_instance

section Values

variable {α : Type} [Value α]

instance composite_pushValue (value : α) : Composite (pushValue value) :=
  Composite.push (Value.toCell value)

instance composite_popValue : Composite (popValue α) := by
  unfold popValue
  infer_instance

end Values

end OperandStack

namespace Operation

open OperandStack

section Generic

variable {α β : Type} [Value α] [Value β]

instance composite_unary (operation : α → β) : Composite (unary operation) := by
  unfold unary
  infer_instance

instance composite_binary (operation : α → α → Except Fault β) :
    Composite (binary operation) := by
  unfold binary
  infer_instance

instance composite_total (operation : α → α → β) : Composite (total operation) :=
  composite_binary _

end Generic

instance composite_drop (expected : Nat) : Composite (drop expected) := by
  unfold drop
  infer_instance

instance composite_shuffle (kind : StackShuffle) : Composite (shuffle kind) := by
  cases kind with
  | dup =>
    change Composite ((get >>= fun stack => ofExcept stack.top) >>= fun first =>
      if first.isNarrow then push first else throw .mismatchedWidth)
    exact .bind .top fun first => inferInstance
  | _ =>
    unfold shuffle
    infer_instance

instance composite_arithmetic (operation : ArithmeticOperation) (type : NumericType) :
    Composite (arithmetic operation type) := by
  cases type <;> unfold arithmetic <;> infer_instance

instance composite_negate (type : NumericType) : Composite (negate type) := by
  cases type <;> unfold negate <;> infer_instance

instance composite_shift (direction : ShiftDirection) (type : IntegerType) :
    Composite (shift direction type) := by
  cases type <;> unfold shift <;> infer_instance

instance composite_bitwise (operation : BitwiseOperation) (type : IntegerType) :
    Composite (bitwise operation type) := by
  cases type <;> unfold bitwise <;> infer_instance

instance composite_convert (conversion : Conversion) : Composite (convert conversion) := by
  cases conversion <;> unfold convert <;> infer_instance

instance composite_loadConstant (pool : ConstantPool) (index : ConstantIndex) :
    Composite (loadConstant pool index) := by
  unfold loadConstant
  split <;> infer_instance

instance composite_loadWideConstant (pool : ConstantPool) (index : ConstantIndex) :
    Composite (loadWideConstant pool index) := by
  unfold loadWideConstant
  split <;> infer_instance

end Operation

instance composite_operate (pool : ConstantPool) (locals : LocalVariables) (next : Nat)
    (instruction : Instruction) :
    OperandStack.Composite (operate pool locals next instruction) := by
  cases instruction
  case invoke kind index => cases kind <;> unfold operate <;> infer_instance
  all_goals
    unfold operate
    infer_instance

end ClassMachine
