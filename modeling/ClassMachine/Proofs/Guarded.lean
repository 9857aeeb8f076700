import ClassMachine.Proofs.Outcome

set_option autoImplicit false

/-!
# Programs that stop out of range

A slice of a row must begin and end inside of it, a difference must not be less than zero, and a sum
or a shorter word must have room for all bits. For other numbers these operations have no result, and
a guarded program that comes to one has no outcome. So a guarded program that does have the outcome
of an unguarded one has come to operations with results only.
-/

namespace ClassMachine

/-- A program on a state, which may have no outcome. -/
def Guarded (ε σ α : Type) : Type := σ → Option (EStateM.Result ε σ α)

namespace Guarded

section Operations

variable {α : Type} {items : List α} {bound minuend subtrahend number : Nat}
  {first second : UInt16}

def sliceFrom (items : List α) (start : Nat) : Option (List α) :=
  if start ≤ items.length then some (items.drop start) else none

theorem sliceFrom_of_le (inside : bound ≤ items.length) :
    sliceFrom items bound = some (items.drop bound) :=
  if_pos inside

def sliceTo (items : List α) (stop : Nat) : Option (List α) :=
  if stop ≤ items.length then some (items.take stop) else none

theorem sliceTo_of_le (inside : bound ≤ items.length) :
    sliceTo items bound = some (items.take bound) :=
  if_pos inside

def subtract (minuend subtrahend : Nat) : Option Nat :=
  if subtrahend ≤ minuend then some (minuend - subtrahend) else none

theorem subtract_of_le (enough : subtrahend ≤ minuend) :
    subtract minuend subtrahend = some (minuend - subtrahend) :=
  if_pos enough

def add (first second : UInt16) : Option UInt16 :=
  if first.toNat + second.toNat < UInt16.size then some (first + second) else none

theorem add_of_lt (room : first.toNat + second.toNat < UInt16.size) :
    add first second = some (first + second) :=
  if_pos room

def toWord (number : Nat) : Option UInt32 :=
  if number < UInt32.size then some (UInt32.ofNat number) else none

theorem toWord_of_lt (room : number < UInt32.size) : toWord number = some (UInt32.ofNat number) :=
  if_pos room

end Operations

variable {ε σ α β : Type}

def bind (program : Guarded ε σ α) (next : α → Guarded ε σ β) : Guarded ε σ β := fun before =>
  match program before with
  | none => none
  | some (.ok value after) => next value after
  | some (.error error after) => some (.error error after)

instance : Monad (Guarded ε σ) where
  pure value := fun state => some (.ok value state)
  bind := bind

def lift (program : EStateM ε σ α) : Guarded ε σ α := fun state => some (program state)

/-- The result of an operation. -/
def demand (result : Option α) : Guarded ε σ α := fun state =>
  result.map fun value => .ok value state

def fail (error : ε) : Guarded ε σ α := lift (throw error)

/-- From this state on, the guarded program has the outcome of the other one. -/
def Agrees (guarded : Guarded ε σ α) (program : EStateM ε σ α) (state : σ) : Prop :=
  guarded state = some (program state)

theorem agrees_lift (program : EStateM ε σ α) (state : σ) : (lift program).Agrees program state :=
  rfl

theorem demand_bind {result : Option α} {value : α} (found : result = some value)
    (next : α → Guarded ε σ β) : demand result >>= next = next value := by
  rw [found]
  rfl

theorem Agrees.bind {guarded : Guarded ε σ α} {program : EStateM ε σ α}
    {guardedNext : α → Guarded ε σ β} {next : α → EStateM ε σ β} {before : σ}
    (head : guarded.Agrees program before)
    (tail : ∀ value after, program before = .ok value after →
      (guardedNext value).Agrees (next value) after) :
    (guarded >>= guardedNext).Agrees (program >>= next) before := by
  change Guarded.bind guarded guardedNext before = _
  have head_eq : guarded before = some (program before) := head
  rw [Guarded.bind, head_eq]
  cases outcome : program before with
  | ok value after =>
    rw [Outcome.bind_of_ok outcome]
    exact tail value after outcome
  | error error after => rw [Outcome.bind_of_error outcome]

section Steps

variable {guarded : Guarded ε σ α} {state : σ}

theorem Agrees.get_bind {guardedNext : σ → Guarded ε σ β} {next : σ → EStateM ε σ β}
    (tail : (guardedNext state).Agrees (next state) state) :
    (lift get >>= guardedNext).Agrees (get >>= next) state :=
  tail

theorem Agrees.ofExcept_bind {result : Except ε α} {guardedNext : α → Guarded ε σ β}
    {next : α → EStateM ε σ β} (head : guarded.Agrees (ofExcept result) state)
    (tail : ∀ value, result = .ok value → (guardedNext value).Agrees (next value) state) :
    (guarded >>= guardedNext).Agrees (ofExcept result >>= next) state := by
  refine head.bind fun value after succeeded => ?_
  obtain ⟨found, rfl⟩ := Outcome.ofExcept_eq_ok.mp succeeded
  exact tail value found

end Steps

end Guarded

end ClassMachine
