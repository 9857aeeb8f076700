import ClassMachine.Proofs.Binary.BigEndian
import ClassMachine.Binary.Reader
import ClassMachine.Proofs.Outcome

set_option autoImplicit false

/-!
# What readers read

`Reads reader bytes value` says that the reader takes exactly these bytes, whatever follows them,
and makes this value of them. A reader is local if everything that it ever takes it takes in this
way. Local readers compose, so a format is described by rewriting `Reads` of a reader into its
written form, one part at a time.
-/

namespace ClassMachine

variable {ε α β : Type}

/-- In front of any other bytes and at any position, exactly these bytes are taken and read as this
value. -/
def Reads (reader : EStateM ε Cursor α) (bytes : List UInt8) (value : α) : Prop :=
  ∀ rest position,
    reader ⟨bytes ++ rest, position⟩ = .ok value ⟨rest, position + bytes.length⟩

/-- A reader that depends on no byte but those that it takes. -/
class Local (reader : EStateM ε Cursor α) : Prop where
  reads_of_ok : ∀ {input rest : List UInt8} {position after : Nat} {value : α},
    reader ⟨input, position⟩ = .ok value ⟨rest, after⟩ →
      ∃ bytes, input = bytes ++ rest ∧ after = position + bytes.length ∧ Reads reader bytes value

theorem Local.reads_of_isEmpty {reader : EStateM ε Cursor α} [Local reader] {bytes : List UInt8}
    {position : Nat} {value : α} {cursor : Cursor}
    (read : reader ⟨bytes, position⟩ = .ok value cursor) (nothing_left : cursor.isEmpty) :
    Reads reader bytes value := by
  obtain ⟨rest, after⟩ := cursor
  obtain rfl : rest = [] := List.isEmpty_iff.mp nothing_left
  obtain ⟨taken, split, -, reads⟩ := Local.reads_of_ok read
  rw [List.append_nil] at split
  exact split ▸ reads

theorem Reads.at_end {reader : EStateM ε Cursor α} {bytes : List UInt8} {value : α}
    (reads : Reads reader bytes value) (position : Nat) :
    reader ⟨bytes, position⟩ = .ok value ⟨[], position + bytes.length⟩ := by
  simpa using reads [] position

theorem Reads.bind {first : EStateM ε Cursor α} {next : α → EStateM ε Cursor β}
    {front back : List UInt8} {value : α} {result : β} (head : Reads first front value)
    (tail : Reads (next value) back result) : Reads (first >>= next) (front ++ back) result := by
  intro rest position
  rw [Outcome.bind_eq_ok]
  refine ⟨value, ⟨back ++ rest, position + front.length⟩, ?_, ?_⟩
  · rw [List.append_assoc]
    exact head (back ++ rest) position
  · rw [List.length_append, ← Nat.add_assoc]
    exact tail rest (position + front.length)

theorem Local.split_bind {first : EStateM ε Cursor α} {next : α → EStateM ε Cursor β}
    [Local first] [∀ value, Local (next value)] {input rest : List UInt8} {position after : Nat}
    {result : β} (read : (first >>= next) ⟨input, position⟩ = .ok result ⟨rest, after⟩) :
    ∃ value front back, input = front ++ (back ++ rest) ∧
      after = position + (front ++ back).length ∧ Reads first front value ∧
        Reads (next value) back result := by
  obtain ⟨value, ⟨middle, between⟩, head, tail⟩ := Outcome.bind_eq_ok.mp read
  obtain ⟨front, rfl, rfl, readsFront⟩ := Local.reads_of_ok head
  obtain ⟨back, rfl, rfl, readsBack⟩ := Local.reads_of_ok tail
  refine ⟨value, front, back, rfl, ?_, readsFront, readsBack⟩
  rw [List.length_append, Nat.add_assoc]

instance local_bind (first : EStateM ε Cursor α) (next : α → EStateM ε Cursor β) [Local first]
    [∀ value, Local (next value)] : Local (first >>= next) where
  reads_of_ok read := by
    obtain ⟨value, front, back, rfl, rfl, head, tail⟩ := Local.split_bind read
    exact ⟨front ++ back, (List.append_assoc ..).symm, rfl, head.bind tail⟩

theorem reads_bind {first : EStateM ε Cursor α} {next : α → EStateM ε Cursor β} [Local first]
    [∀ value, Local (next value)] {bytes : List UInt8} {result : β} :
    Reads (first >>= next) bytes result ↔
      ∃ value front back, bytes = front ++ back ∧ Reads first front value ∧
        Reads (next value) back result := by
  constructor
  · intro reads
    obtain ⟨value, front, back, split, -, head, tail⟩ := Local.split_bind (reads.at_end 0)
    exact ⟨value, front, back, by rw [split, List.append_nil], head, tail⟩
  · intro parts
    rcases parts with ⟨value, front, back, rfl, head, tail⟩
    exact head.bind tail

/-- The reader takes exactly the written forms of the values that fit their fields. -/
class Inverts (reader : EStateM ε Cursor α) (Fits : outParam (α → Prop))
    (encode : outParam (α → List UInt8)) : Prop where
  reads_iff : ∀ taken value, Reads reader taken value ↔ Fits value ∧ taken = encode value

theorem Inverts.eq_ok {reader : EStateM ε Cursor α} {Fits : α → Prop} {encode : α → List UInt8}
    [Local reader] [Inverts reader Fits encode] {input rest : List UInt8} {position after : Nat}
    {value : α} :
    reader ⟨input, position⟩ = .ok value ⟨rest, after⟩ ↔
      Fits value ∧ input = encode value ++ rest ∧ after = position + (encode value).length := by
  constructor
  · intro read
    obtain ⟨bytes, rfl, rfl, reads⟩ := Local.reads_of_ok read
    obtain ⟨fits, rfl⟩ := (Inverts.reads_iff _ _).mp reads
    exact ⟨fits, rfl, rfl⟩
  · rintro ⟨fits, rfl, rfl⟩
    have reads : Reads reader (encode value) value := (Inverts.reads_iff _ _).mpr ⟨fits, rfl⟩
    exact reads rest position

theorem reads_bind_written {first : EStateM ε Cursor α} {next : α → EStateM ε Cursor β}
    {Fits : α → Prop} {encode : α → List UInt8} [Local first] [∀ value, Local (next value)]
    [Inverts first Fits encode] {bytes : List UInt8} {result : β} :
    Reads (first >>= next) bytes result ↔
      ∃ value back, Fits value ∧ bytes = encode value ++ back ∧ Reads (next value) back result := by
  simp only [reads_bind, Inverts.reads_iff]
  constructor
  · intro whole
    rcases whole with ⟨value, _, back, rfl, ⟨fits, rfl⟩, reads⟩
    exact ⟨value, back, fits, rfl, reads⟩
  · intro parts
    rcases parts with ⟨value, back, fits, rfl, reads⟩
    exact ⟨value, encode value, back, rfl, ⟨fits, rfl⟩, reads⟩

instance local_pure (value : α) : Local (pure value : EStateM ε Cursor α) where
  reads_of_ok read := by
    cases read
    exact ⟨[], rfl, rfl, fun _ _ => rfl⟩

@[simp]
theorem reads_pure {bytes : List UInt8} {value result : α} :
    Reads (pure value : EStateM ε Cursor α) bytes result ↔ bytes = [] ∧ value = result := by
  constructor
  · intro reads
    have read := reads.at_end 0
    cases read
    exact ⟨rfl, rfl⟩
  · rintro ⟨rfl, rfl⟩
    exact fun _ _ => rfl

instance local_throw (error : ε) : Local (throw error : EStateM ε Cursor α) where
  reads_of_ok read := nomatch read

@[simp]
theorem not_reads_throw (error : ε) {bytes : List UInt8} {result : α} :
    ¬Reads (throw error : EStateM ε Cursor α) bytes result := by
  intro reads
  have read := reads.at_end 0
  cases read

instance local_ite (condition : Prop) [Decidable condition] (first second : EStateM ε Cursor α)
    [Local first] [Local second] : Local (if condition then first else second) := by
  split <;> infer_instance

theorem reads_ite {condition : Prop} [Decidable condition] {first second : EStateM ε Cursor α}
    {bytes : List UInt8} {value : α} :
    Reads (if condition then first else second) bytes value ↔
      (condition ∧ Reads first bytes value) ∨ (¬condition ∧ Reads second bytes value) := by
  split <;> simp [*]

section Guard

variable {condition : Prop} [Decidable condition] {error : ε}
  {next : Unit → EStateM ε Cursor α}

instance local_guard [Local (next ())] :
    Local (if condition then throw error >>= next else next ()) := by
  split
  · exact local_throw error
  · infer_instance

theorem reads_guard {taken : List UInt8} {value : α} :
    Reads (if condition then throw error >>= next else next ()) taken value ↔
      ¬condition ∧ Reads (next ()) taken value := by
  split
  · have refused : ¬Reads (throw error >>= next) taken value := not_reads_throw error
    simp [*]
  · simp [*]

end Guard

instance local_map (build : α → β) (reader : EStateM ε Cursor α) [Local reader] :
    Local (build <$> reader) :=
  inferInstanceAs (Local (reader >>= fun value => Pure.pure (build value)))

@[simp]
theorem reads_map {build : α → β} {reader : EStateM ε Cursor α} [Local reader]
    {bytes : List UInt8} {result : β} :
    Reads (build <$> reader) bytes result ↔
      ∃ value, Reads reader bytes value ∧ build value = result := by
  change Reads (reader >>= fun value => pure (build value)) bytes result ↔ _
  rw [reads_bind]
  constructor
  · intro whole
    rcases whole with ⟨value, front, back, rfl, reads, tail⟩
    obtain ⟨rfl, rfl⟩ := reads_pure.mp tail
    exact ⟨value, by rwa [List.append_nil], rfl⟩
  · rintro ⟨value, reads, rfl⟩
    exact ⟨value, bytes, [], (List.append_nil bytes).symm, reads, reads_pure.mpr ⟨rfl, rfl⟩⟩

end ClassMachine
