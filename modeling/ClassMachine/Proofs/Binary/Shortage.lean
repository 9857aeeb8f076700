import ClassMachine.Proofs.Binary.Primitive

set_option autoImplicit false

/-!
# How readers fail

A reader fails fast if it looks at its input from front to back and decides as soon as it can. On a
part of what it would read it runs out of bytes, and says so. If it finds anything else wrong, it
finds the same whatever comes after the bytes that it was given. Reads in a row fail fast if each
part does, so this holds of a whole format once it holds of the primitives.
-/

namespace ClassMachine

open Outcome

namespace DecodeError

/-- A read wanted more bytes than were left. -/
def IsShortage (error : DecodeError) : Prop :=
  ∃ needed remaining, error = .unexpectedEndOfInput needed remaining ∧ remaining < needed

/-- Something is wrong with bytes that were read, and not with how many there are. -/
class IsFlaw (error : DecodeError) : Prop where
  ne_trailingBytes : ∀ count, error ≠ .trailingBytes count

instance : IsFlaw .notRecognizedFormat := ⟨nofun⟩

instance (tag : UInt8) : IsFlaw (.undefinedConstantTag tag) := ⟨nofun⟩

instance (count : UInt16) : IsFlaw (.invalidConstantPoolCount count) := ⟨nofun⟩

instance (code : UInt8) : IsFlaw (.invalidHandleKind code) := ⟨nofun⟩

theorem IsShortage.ne_trailingBytes {error : DecodeError} (shortage : error.IsShortage)
    (count : Nat) : error ≠ .trailingBytes count := by
  obtain ⟨needed, remaining, rfl, -⟩ := shortage
  exact nofun

end DecodeError

variable {ε α β : Type}

/-- On a part of what it would read, the reader fails with an error of this kind. -/
class RunsShort (IsShort : ε → Prop) (reader : EStateM ε Cursor α) : Prop where
  error_of_cut : ∀ {taken missing : List UInt8} {value : α},
    Reads reader (taken ++ missing) value → missing ≠ [] → ∀ position,
      ∃ error cursor, reader ⟨taken, position⟩ = .error error cursor ∧ IsShort error

section RunsShort

variable {IsShort : ε → Prop}

instance runsShort_bind (first : EStateM ε Cursor α) (next : α → EStateM ε Cursor β) [Local first]
    [RunsShort IsShort first] [∀ value, Local (next value)] [∀ value, RunsShort IsShort (next value)] :
    RunsShort IsShort (first >>= next) where
  error_of_cut {taken missing result} reads nonempty position := by
    obtain ⟨value, front, back, split, head, tail⟩ := reads_bind.mp reads
    have second_cut_off {rest : List UInt8} (taken_eq : taken = front ++ rest)
        (back_eq : back = rest ++ missing) : ∃ error cursor,
        (first >>= next) ⟨taken, position⟩ = .error error cursor ∧ IsShort error := by
      obtain ⟨error, cursor, failed, short⟩ : ∃ error cursor,
          next value ⟨rest, position + front.length⟩ = .error error cursor ∧ IsShort error :=
        RunsShort.error_of_cut (back_eq ▸ tail) nonempty _
      refine ⟨error, cursor, ?_, short⟩
      rw [taken_eq, bind_of_ok (head rest position), failed]
    rcases List.append_eq_append_iff.mp split with
      ⟨cut, front_eq, missing_eq⟩ | ⟨rest, taken_eq, back_eq⟩
    · by_cases whole : cut = []
      · subst whole
        have back_eq : back = [] ++ missing := missing_eq.symm
        exact second_cut_off (by rw [front_eq, List.append_nil, List.append_nil]) back_eq
      · obtain ⟨error, cursor, failed, short⟩ : ∃ error cursor,
            first ⟨taken, position⟩ = .error error cursor ∧ IsShort error :=
          RunsShort.error_of_cut (front_eq ▸ head) whole position
        exact ⟨error, cursor, bind_of_error failed, short⟩
    · exact second_cut_off taken_eq back_eq

instance runsShort_pure (value : α) : RunsShort IsShort (pure value : EStateM ε Cursor α) where
  error_of_cut reads nonempty := by
    obtain ⟨nothing, -⟩ := reads_pure.mp reads
    exact absurd (List.append_eq_nil_iff.mp nothing).2 nonempty

instance runsShort_throw (error : ε) : RunsShort IsShort (throw error : EStateM ε Cursor α) where
  error_of_cut reads := absurd reads (not_reads_throw error)

instance runsShort_guard (condition : Prop) [Decidable condition] (error : ε)
    (next : Unit → EStateM ε Cursor α) [RunsShort IsShort (next ())] :
    RunsShort IsShort (if condition then throw error >>= next else next ()) := by
  have refused : (throw error >>= next : EStateM ε Cursor α) = throw error := rfl
  rw [refused]
  split <;> infer_instance

end RunsShort

class FailsFast (reader : Reader α) : Prop where
  /-- On a part of what would be read, the bytes run out. -/
  short_of_reads : ∀ {taken missing : List UInt8} {value : α},
    Reads reader (taken ++ missing) value → missing ≠ [] → ∀ position,
      ∃ error cursor, reader ⟨taken, position⟩ = .error error cursor ∧ error.IsShortage
  /-- Unless the bytes run out, no further bytes keep the reader from failing in the same way. -/
  short_or_settled : ∀ {input : List UInt8} {position : Nat} {error : DecodeError}
    {cursor : Cursor}, reader ⟨input, position⟩ = .error error cursor →
      error.IsShortage ∨ error.IsFlaw ∧ ∀ more, ∃ cursor,
        reader ⟨input ++ more, position⟩ = .error error cursor

instance runsShort_of_failsFast (reader : Reader α) [FailsFast reader] :
    RunsShort DecodeError.IsShortage reader where
  error_of_cut := FailsFast.short_of_reads

theorem FailsFast.ne_trailingBytes {reader : Reader α} [FailsFast reader] {before after : Cursor}
    {error : DecodeError} (failed : reader before = .error error after) (count : Nat) :
    error ≠ .trailingBytes count := by
  rcases FailsFast.short_or_settled failed with shortage | ⟨flaw, -⟩
  · exact shortage.ne_trailingBytes count
  · exact flaw.ne_trailingBytes count

instance failsFast_bind (first : Reader α) (next : α → Reader β) [Local first] [FailsFast first]
    [∀ value, Local (next value)] [∀ value, FailsFast (next value)] : FailsFast (first >>= next) where
  short_of_reads := RunsShort.error_of_cut
  short_or_settled {input position error cursor} failed := by
    cases outcome : first ⟨input, position⟩ with
    | error cause after =>
      rw [bind_of_error outcome] at failed
      cases failed
      refine (FailsFast.short_or_settled outcome).imp_right fun settled => ⟨settled.1, ?_⟩
      intro more
      obtain ⟨after, failed⟩ := settled.2 more
      exact ⟨after, bind_of_error failed⟩
    | ok value between =>
      obtain ⟨rest, after⟩ := between
      rw [bind_of_ok outcome] at failed
      obtain ⟨bytes, rfl, rfl, reads⟩ := Local.reads_of_ok outcome
      refine (FailsFast.short_or_settled failed).imp_right fun settled => ⟨settled.1, ?_⟩
      intro more
      obtain ⟨after, failed⟩ := settled.2 more
      refine ⟨after, ?_⟩
      rw [List.append_assoc, bind_of_ok (reads (rest ++ more) position)]
      exact failed

instance failsFast_pure (value : α) : FailsFast (pure value : Reader α) where
  short_of_reads := RunsShort.error_of_cut
  short_or_settled failed := nomatch failed

instance failsFast_throw (error : DecodeError) [error.IsFlaw] :
    FailsFast (throw error : Reader α) where
  short_of_reads := RunsShort.error_of_cut
  short_or_settled {input position cause cursor} failed := by
    cases failed
    exact .inr ⟨inferInstance, fun more => ⟨⟨input ++ more, position⟩, rfl⟩⟩

instance failsFast_map (build : α → β) (reader : Reader α) [Local reader] [FailsFast reader] :
    FailsFast (build <$> reader) :=
  inferInstanceAs (FailsFast (reader >>= fun value => Pure.pure (build value)))

instance failsFast_ite (condition : Prop) [Decidable condition] (first second : Reader α)
    [FailsFast first] [FailsFast second] : FailsFast (if condition then first else second) := by
  split <;> infer_instance

instance failsFast_guard (condition : Prop) [Decidable condition] (error : DecodeError)
    [error.IsFlaw] (next : Unit → Reader α) [FailsFast (next ())] :
    FailsFast (if condition then throw error >>= next else next ()) := by
  have refused : (throw error >>= next : Reader α) = throw error := rfl
  rw [refused]
  infer_instance

namespace Reader

instance failsFast_bytes (count : Nat) : FailsFast (bytes count) where
  short_of_reads {taken missing value} reads nonempty position := by
    have length_eq := (reads_bytes.mp reads).1
    have missing_pos := List.length_pos_iff.mpr nonempty
    rw [List.length_append] at length_eq
    have short : (Cursor.mk taken position).remaining < count := by
      change taken.length < count
      omega
    exact ⟨_, _, bytes_of_lt short, _, _, rfl, short⟩
  short_or_settled {input position error cursor} failed := by
    by_cases enough : count ≤ (Cursor.mk input position).remaining
    · rw [bytes_of_le enough] at failed
      cases failed
    · have short := Nat.lt_of_not_le enough
      rw [bytes_of_lt short] at failed
      cases failed
      exact .inl ⟨_, _, rfl, short⟩

instance failsFast_skip (count : Nat) : FailsFast (skip count) :=
  inferInstanceAs (FailsFast (bytes count >>= fun _ => pure ()))

instance failsFast_number (width : Nat) : FailsFast (number width) :=
  inferInstanceAs (FailsFast (BigEndian.value <$> bytes width))

instance failsFast_uint8 : FailsFast uint8 :=
  inferInstanceAs (FailsFast (UInt8.ofNat <$> number 1))

instance failsFast_uint16 : FailsFast uint16 :=
  inferInstanceAs (FailsFast (UInt16.ofNat <$> number 2))

instance failsFast_uint32 : FailsFast uint32 :=
  inferInstanceAs (FailsFast (UInt32.ofNat <$> number 4))

instance failsFast_int8 : FailsFast int8 :=
  inferInstanceAs (FailsFast (UInt8.toInt8 <$> uint8))

instance failsFast_int16 : FailsFast int16 :=
  inferInstanceAs (FailsFast (UInt16.toInt16 <$> uint16))

instance failsFast_int32 : FailsFast int32 :=
  inferInstanceAs (FailsFast (UInt32.toInt32 <$> uint32))

instance failsFast_times (item : Reader α) [Local item] [FailsFast item] (count : Nat) :
    FailsFast (times count item) := by
  induction count with
  | zero => exact inferInstanceAs (FailsFast (pure []))
  | succ count inductionHypothesis =>
    exact inferInstanceAs (FailsFast (item >>= fun first => times count item >>= fun others =>
      pure (first :: others)))

instance failsFast_counted (item : Reader α) [Local item] [FailsFast item] :
    FailsFast (counted item) :=
  inferInstanceAs (FailsFast (uint16 >>= fun count => times count.toNat item))

end Reader

end ClassMachine
