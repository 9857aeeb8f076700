import ClassMachine.Proofs.Binary.Primitive

set_option autoImplicit false

/-!
# Bytes of which some bits are lost

A field of flags keeps only the bits that have a name, so what is written need not be what was read.
A mask says which bits are kept. It has one byte for each byte that is read, and goes along with the
written form part by part.
-/

namespace ClassMachine

/-- What is written is what was read, without the bits that the mask lacks. -/
def Masked (mask bytes written : List UInt8) : Prop :=
  bytes.length = mask.length ∧ written = List.zipWith (· &&& ·) mask bytes

def keepAll (bytes : List UInt8) : List UInt8 := bytes.map fun _ => 0xFF

@[simp]
theorem length_keepAll (bytes : List UInt8) : (keepAll bytes).length = bytes.length :=
  List.length_map ..

theorem zipWith_keepAll {mask bytes : List UInt8} (length_eq : bytes.length = mask.length) :
    List.zipWith (· &&& ·) (keepAll mask) bytes = bytes := by
  induction mask generalizing bytes with
  | nil => exact (List.eq_nil_of_length_eq_zero length_eq).symm
  | cons first mask inductionHypothesis =>
    cases bytes with
    | nil => rfl
    | cons byte bytes =>
      have kept : 0xFF &&& byte = byte := UInt8.neg_one_and
      have rest := inductionHypothesis (Nat.succ.inj length_eq)
      simp only [keepAll, List.map_cons, List.zipWith_cons_cons, kept]
      exact congrArg (byte :: ·) rest

@[simp]
theorem masked_keepAll {bytes written : List UInt8} :
    Masked (keepAll written) bytes written ↔ bytes = written := by
  unfold Masked
  rw [length_keepAll]
  constructor
  · rintro ⟨length_eq, written_eq⟩
    rw [zipWith_keepAll length_eq] at written_eq
    exact written_eq.symm
  · rintro rfl
    exact ⟨rfl, (zipWith_keepAll rfl).symm⟩

theorem masked_append {frontMask backMask bytes front back : List UInt8}
    (length_eq : front.length = frontMask.length) :
    Masked (frontMask ++ backMask) bytes (front ++ back) ↔
      ∃ head tail, bytes = head ++ tail ∧ Masked frontMask head front ∧
        Masked backMask tail back := by
  constructor
  · rintro ⟨bytes_length, written_eq⟩
    rw [List.length_append] at bytes_length
    have head_length : (bytes.take frontMask.length).length = frontMask.length := by
      rw [List.length_take]
      omega
    have tail_length : (bytes.drop frontMask.length).length = backMask.length := by
      rw [List.length_drop]
      omega
    rw [← List.take_append_drop frontMask.length bytes,
      List.zipWith_append head_length.symm] at written_eq
    obtain ⟨front_eq, back_eq⟩ := List.append_inj written_eq (by
      rw [List.length_zipWith, head_length, Nat.min_self, length_eq])
    exact ⟨_, _, (List.take_append_drop ..).symm, ⟨head_length, front_eq⟩, ⟨tail_length, back_eq⟩⟩
  · intro parts
    rcases parts with ⟨head, tail, rfl, ⟨head_length, rfl⟩, ⟨tail_length, rfl⟩⟩
    refine ⟨by simp [head_length, tail_length], ?_⟩
    rw [List.zipWith_append head_length.symm]

theorem word_and (first second : UInt16) :
    List.zipWith (· &&& ·) (word first) (word second) = word (first &&& second) := by
  simp only [word, BigEndian.encode, List.zipWith_cons_cons, List.zipWith_nil_left,
    UInt16.toNat_and, ← UInt8.ofNat_and, Nat.shiftRight_and_distrib]

theorem word_inj {first second : UInt16} (word_eq : word first = word second) :
    first = second := by
  rw [← UInt16.toNat_inj, ← value_word, word_eq, value_word]

theorem exists_eq_word {bytes : List UInt8} (length_eq : bytes.length = 2) :
    ∃ raw, bytes = word raw := by
  refine ⟨UInt16.ofNat (BigEndian.value bytes), ?_⟩
  have bound : BigEndian.value bytes < 2 ^ 16 := by
    have bound := BigEndian.value_lt bytes
    rwa [length_eq] at bound
  rw [word, UInt16.toNat_ofNat_of_lt' bound, ← length_eq, BigEndian.encode_value]

theorem masked_nil {bytes : List UInt8} : Masked [] bytes [] ↔ bytes = [] :=
  show Masked (keepAll []) bytes [] ↔ bytes = [] from masked_keepAll

theorem masked_word {mask bits : UInt16} {bytes : List UInt8} :
    Masked (word mask) bytes (word bits) ↔ ∃ raw, bytes = word raw ∧ bits = raw &&& mask := by
  constructor
  · rintro ⟨length_eq, written_eq⟩
    rw [length_word] at length_eq
    obtain ⟨raw, rfl⟩ := exists_eq_word length_eq
    rw [word_and] at written_eq
    exact ⟨raw, rfl, (word_inj written_eq).trans (UInt16.and_comm ..)⟩
  · rintro ⟨raw, rfl, rfl⟩
    refine ⟨by rw [length_word, length_word], ?_⟩
    rw [word_and, UInt16.and_comm]

theorem masked_word_self {mask bits : UInt16} (named : bits &&& mask = bits) :
    Masked (word mask) (word bits) (word bits) :=
  masked_word.mpr ⟨bits, rfl, named.symm⟩

theorem masked_flatMap_self {α : Type} {mask encode : α → List UInt8} {values : List α}
    (masked : ∀ value ∈ values, Masked (mask value) (encode value) (encode value)) :
    Masked (values.flatMap mask) (values.flatMap encode) (values.flatMap encode) := by
  induction values with
  | nil => exact masked_nil.mpr rfl
  | cons value values inductionHypothesis =>
    obtain ⟨head, tail⟩ := List.forall_mem_cons.mp masked
    exact (masked_append head.1).mpr ⟨_, _, rfl, head, inductionHypothesis tail⟩

section Readers

variable {ε α β : Type}

/-- The reader takes the written forms of the values that fit their fields, with any bits where the
masks have none. -/
class InvertsMasked (reader : EStateM ε Cursor α) (Fits : outParam (α → Prop))
    (mask encode : outParam (α → List UInt8)) : Prop where
  reads_iff : ∀ taken value,
    Reads reader taken value ↔ Fits value ∧ Masked (mask value) taken (encode value)
  length_eq : ∀ value, (encode value).length = (mask value).length

theorem reads_bind_masked {first : EStateM ε Cursor α} {next : α → EStateM ε Cursor β}
    {Fits : α → Prop} {mask encode : α → List UInt8} [Local first] [∀ value, Local (next value)]
    [InvertsMasked first Fits mask encode] {bytes : List UInt8} {result : β} :
    Reads (first >>= next) bytes result ↔
      ∃ value front back, Fits value ∧ Masked (mask value) front (encode value) ∧
        bytes = front ++ back ∧ Reads (next value) back result := by
  simp only [reads_bind, InvertsMasked.reads_iff]
  constructor
  · intro whole
    rcases whole with ⟨value, front, back, rfl, ⟨fits, masked⟩, reads⟩
    exact ⟨value, front, back, fits, masked, rfl, reads⟩
  · intro parts
    rcases parts with ⟨value, front, back, fits, masked, rfl, reads⟩
    exact ⟨value, front, back, rfl, ⟨fits, masked⟩, reads⟩

theorem readsEach_iff_masked {item : Reader α} {Fits : α → Prop} {mask encode : α → List UInt8}
    [InvertsMasked item Fits mask encode] {taken : List UInt8} {values : List α} :
    Reader.ReadsEach item taken values ↔
      (∀ value ∈ values, Fits value) ∧
        Masked (values.flatMap mask) taken (values.flatMap encode) := by
  have length_eq (value : α) : (encode value).length = (mask value).length :=
    InvertsMasked.length_eq item value
  constructor
  · intro each
    induction each with
    | nil => exact ⟨by simp, masked_nil.mpr rfl⟩
    | cons head tail inductionHypothesis =>
      obtain ⟨fits, masked⟩ := (InvertsMasked.reads_iff _ _).mp head
      obtain ⟨others_fit, others_masked⟩ := inductionHypothesis
      refine ⟨List.forall_mem_cons.mpr ⟨fits, others_fit⟩, ?_⟩
      exact (masked_append (length_eq _)).mpr ⟨_, _, rfl, masked, others_masked⟩
  · rintro ⟨fit, masked⟩
    induction values generalizing taken with
    | nil =>
      obtain rfl := masked_nil.mp masked
      exact .nil
    | cons value values inductionHypothesis =>
      obtain ⟨fits, others_fit⟩ := List.forall_mem_cons.mp fit
      obtain ⟨front, back, rfl, masked, others_masked⟩ := (masked_append (length_eq value)).mp masked
      have head : Reads item front value := (InvertsMasked.reads_iff _ _).mpr ⟨fits, masked⟩
      exact .cons head (inductionHypothesis others_fit others_masked)

end Readers

end ClassMachine
