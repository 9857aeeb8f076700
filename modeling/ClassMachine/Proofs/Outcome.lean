import Mathlib

set_option autoImplicit false

/-!
# Outcomes of operations that change a state and can fail

How the outcome of two operations in a row comes from the outcomes of each, and how to show that an
operation takes every state only to states that stand in some relation to it, whether it succeeds or
fails half done: the relation has to be reflexive and transitive, and each part has to respect it.
-/

namespace ClassMachine.Outcome

variable {ε σ α β : Type}

/-- The state that is left behind, by a failure too. -/
def state : EStateM.Result ε σ α → σ
  | .ok _ after => after
  | .error _ after => after

@[simp]
theorem state_ok (value : α) (after : σ) : state (.ok value after : EStateM.Result ε σ α) = after :=
  rfl

@[simp]
theorem state_error (error : ε) (after : σ) :
    state (.error error after : EStateM.Result ε σ α) = after :=
  rfl

/-- What is returned or thrown, without the state. -/
def result : EStateM.Result ε σ α → Except ε α
  | .ok value _ => .ok value
  | .error error _ => .error error

@[simp]
theorem result_ok (value : α) (after : σ) :
    result (.ok value after : EStateM.Result ε σ α) = .ok value :=
  rfl

@[simp]
theorem result_error (error : ε) (after : σ) :
    result (.error error after : EStateM.Result ε σ α) = .error error :=
  rfl

section Bind

variable {first : EStateM ε σ α} {next : α → EStateM ε σ β} {before after : σ}

theorem bind_of_ok {value : α} (succeeded : first before = .ok value after) :
    (first >>= next) before = next value after := by
  change EStateM.bind first next before = _
  rw [EStateM.bind, succeeded]

theorem bind_of_error {error : ε} (failed : first before = .error error after) :
    (first >>= next) before = .error error after := by
  change EStateM.bind first next before = _
  rw [EStateM.bind, failed]

theorem bind_eq_ok {result : β} :
    (first >>= next) before = .ok result after ↔
      ∃ value between, first before = .ok value between ∧ next value between = .ok result after := by
  constructor
  · intro succeeded
    cases head : first before with
    | ok value between => exact ⟨value, between, rfl, by rwa [bind_of_ok head] at succeeded⟩
    | error error between => simp [bind_of_error head] at succeeded
  · rintro ⟨value, between, head, tail⟩
    rw [bind_of_ok head, tail]

theorem bind_eq_error {error : ε} :
    (first >>= next) before = .error error after ↔
      first before = .error error after ∨
        ∃ value between, first before = .ok value between ∧
          next value between = .error error after := by
  cases head : first before with
  | ok value between => simp [bind_of_ok head]
  | error cause between => simp [bind_of_error head]

end Bind

section Map

variable {build : α → β} {operation : EStateM ε σ α} {before after : σ}

theorem map_eq_ok {result : β} :
    (build <$> operation) before = .ok result after ↔
      ∃ value, operation before = .ok value after ∧ build value = result := by
  change (operation >>= fun value => pure (build value)) before = _ ↔ _
  rw [bind_eq_ok]
  constructor
  · rintro ⟨value, between, succeeded, ⟨⟩⟩
    exact ⟨value, succeeded, rfl⟩
  · rintro ⟨value, succeeded, rfl⟩
    exact ⟨value, after, succeeded, rfl⟩

theorem map_eq_error {error : ε} :
    (build <$> operation) before = .error error after ↔ operation before = .error error after := by
  change (operation >>= fun value => pure (build value)) before = _ ↔ _
  rw [bind_eq_error]
  exact or_iff_left fun ⟨_, _, _, failed⟩ => nomatch failed

end Map

section Evaluate

variable (next : α → EStateM ε σ β) (before : σ)

theorem pure_apply (value : α) : (pure value : EStateM ε σ α) before = .ok value before := rfl

theorem get_bind_apply (next : σ → EStateM ε σ β) : (get >>= next) before = next before before :=
  rfl

theorem ofExcept_ok (value : α) : (ofExcept (.ok value) : EStateM ε σ α) = pure value := rfl

theorem ofExcept_eq_ok {result : Except ε α} {value : α} {before after : σ} :
    (ofExcept result : EStateM ε σ α) before = .ok value after ↔
      result = .ok value ∧ before = after := by
  cases result with
  | ok found => simp [ofExcept_ok, pure_apply]
  | error error => exact ⟨nofun, nofun⟩

theorem ofExcept_eq_error {result : Except ε α} {error : ε} {before after : σ} :
    (ofExcept result : EStateM ε σ α) before = .error error after ↔
      result = .error error ∧ before = after := by
  cases result with
  | ok found => exact ⟨nofun, nofun⟩
  | error cause =>
    change EStateM.Result.error cause before = _ ↔ _
    simp

theorem ofExcept_bind (first : Except ε α) (next : α → Except ε β) :
    (ofExcept (first >>= next) : EStateM ε σ β) =
      ofExcept first >>= fun value => ofExcept (next value) := by
  cases first <;> rfl

end Evaluate

theorem except_bind_eq_ok {first : Except ε α} {next : α → Except ε β} {result : β} :
    (first >>= next) = .ok result ↔ ∃ value, first = .ok value ∧ next value = .ok result := by
  cases first with
  | error error => simp [bind, Except.bind]
  | ok value => simp [bind, Except.bind]

theorem except_bind_eq_error {first : Except ε α} {next : α → Except ε β} {error : ε} :
    (first >>= next) = .error error ↔
      first = .error error ∨ ∃ value, first = .ok value ∧ next value = .error error := by
  cases first with
  | error cause => simp [bind, Except.bind]
  | ok value => simp [bind, Except.bind]

theorem except_map_eq_ok {build : α → β} {first : Except ε α} {result : β} :
    first.map build = .ok result ↔ ∃ value, first = .ok value ∧ build value = result := by
  cases first <;> simp [Except.map]

theorem mapError_eq_ok {δ : Type} {cause : ε → δ} {first : Except ε α} {value : α} :
    first.mapError cause = .ok value ↔ first = .ok value := by
  cases first <;> simp [Except.mapError]

/-- A relation along which operations can be done one after the other. -/
class Chain (relation : σ → σ → Prop) : Prop where
  refl : ∀ state, relation state state
  trans : ∀ {first second third}, relation first second → relation second third →
    relation first third

/-- The operation leaves every state in this relation to what it was, also when it fails. -/
class Respects (relation : σ → σ → Prop) (operation : EStateM ε σ α) : Prop where
  related : ∀ before, relation before (state (operation before))

section Respects

variable {relation : σ → σ → Prop} [Chain relation]

instance respects_bind (first : EStateM ε σ α) (next : α → EStateM ε σ β)
    [Respects relation first] [∀ value, Respects relation (next value)] :
    Respects relation (first >>= next) where
  related before := by
    have head : relation before (state (first before)) := Respects.related before
    cases outcome : first before with
    | ok value between =>
      rw [outcome] at head
      rw [bind_of_ok outcome]
      exact Chain.trans head (Respects.related between)
    | error error between =>
      rw [outcome] at head
      rwa [bind_of_error outcome]

instance respects_pure (value : α) : Respects relation (pure value : EStateM ε σ α) where
  related := Chain.refl

instance respects_throw (error : ε) : Respects relation (throw error : EStateM ε σ α) where
  related := Chain.refl

instance respects_get : Respects relation (get : EStateM ε σ σ) where
  related := Chain.refl

instance respects_ofExcept (result : Except ε α) :
    Respects relation (ofExcept result : EStateM ε σ α) := by
  cases result <;> unfold ofExcept <;> infer_instance

end Respects

/-- The property is not lost. -/
def Keeps (property : σ → Prop) (before after : σ) : Prop :=
  property before → property after

instance (property : σ → Prop) : Chain (Keeps property) where
  refl _ := id
  trans first second := second ∘ first

theorem Respects.keeps {property : σ → Prop} {operation : EStateM ε σ α} {before : σ}
    (respects : Respects (Keeps property) operation) (holds : property before) :
    property (state (operation before)) :=
  respects.related before holds

/-- The first operation may establish the property, as long as what follows keeps it. -/
theorem state_bind {property : σ → Prop} {first : EStateM ε σ α} {next : α → EStateM ε σ β}
    {before : σ} (head : property (state (first before)))
    (tail : ∀ value, Respects (Keeps property) (next value)) :
    property (state ((first >>= next) before)) := by
  cases outcome : first before with
  | ok value between =>
    rw [outcome] at head
    rw [bind_of_ok outcome]
    exact (tail value).keeps head
  | error error between =>
    rw [outcome] at head
    rwa [bind_of_error outcome]

/-- Every value that the operation results in has the property. -/
class Yields (property : α → Prop) (operation : EStateM ε σ α) : Prop where
  holds : ∀ {before after : σ} {value : α}, operation before = .ok value after → property value

theorem yields_bind {property : β → Prop} {first : EStateM ε σ α} {next : α → EStateM ε σ β}
    (tail : ∀ value, Yields property (next value)) : Yields property (first >>= next) where
  holds succeeded := by
    obtain ⟨value, between, -, rest⟩ := bind_eq_ok.mp succeeded
    exact (tail value).holds rest

theorem yields_pure {property : α → Prop} {value : α} (holds : property value) :
    Yields property (pure value : EStateM ε σ α) where
  holds succeeded := by
    cases succeeded
    exact holds

/-- Every error that the operation fails with has the property. -/
class Raises (property : ε → Prop) (operation : EStateM ε σ α) : Prop where
  holds : ∀ {before after : σ} {error : ε}, operation before = .error error after → property error

section Raises

variable {property : ε → Prop}

instance raises_bind (first : EStateM ε σ α) (next : α → EStateM ε σ β) [Raises property first]
    [∀ value, Raises property (next value)] : Raises property (first >>= next) where
  holds failed := by
    rcases bind_eq_error.mp failed with head | ⟨value, between, -, tail⟩
    · exact Raises.holds head
    · exact Raises.holds tail

instance raises_pure (value : α) : Raises property (pure value : EStateM ε σ α) where
  holds failed := nomatch failed

instance raises_map (build : α → β) (operation : EStateM ε σ α) [Raises property operation] :
    Raises property (build <$> operation) :=
  inferInstanceAs (Raises property (operation >>= fun value => Pure.pure (build value)))

theorem raises_throw {error : ε} (holds : property error) :
    Raises property (throw error : EStateM ε σ α) where
  holds failed := by
    cases failed
    exact holds

end Raises

end ClassMachine.Outcome
