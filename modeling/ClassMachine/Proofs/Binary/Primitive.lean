import ClassMachine.Proofs.Binary.Reading

set_option autoImplicit false

/-!
# What primitive readers read

Bytes are read as they are and numbers as big-endian numerals of their width. A counted list is its
two-byte length followed by what its items are read from, one after the other.
-/

namespace ClassMachine

def word (number : UInt16) : List UInt8 := BigEndian.encode 2 number.toNat

def doubleWord (number : UInt32) : List UInt8 := BigEndian.encode 4 number.toNat

@[simp]
theorem length_word (number : UInt16) : (word number).length = 2 := BigEndian.length_encode ..

@[simp]
theorem length_doubleWord (number : UInt32) : (doubleWord number).length = 4 :=
  BigEndian.length_encode ..

@[simp]
theorem value_word (number : UInt16) : BigEndian.value (word number) = number.toNat := by
  rw [word, BigEndian.value_encode]
  exact Nat.mod_eq_of_lt number.toNat_lt

@[simp]
theorem value_doubleWord (number : UInt32) :
    BigEndian.value (doubleWord number) = number.toNat := by
  rw [doubleWord, BigEndian.value_encode]
  exact Nat.mod_eq_of_lt number.toNat_lt

namespace Reader

variable {α : Type}

instance local_bytes (count : Nat) : Local (bytes count) where
  reads_of_ok {input rest position after value} read := by
    by_cases enough : count ≤ (Cursor.mk input position).remaining
    · rw [bytes_of_le enough] at read
      cases read
      have exactly : (input.take count).length = count := by
        rw [List.length_take]
        exact Nat.min_eq_left enough
      refine ⟨input.take count, (List.take_append_drop ..).symm, by rw [exactly], ?_⟩
      intro rest position
      have fits : count ≤ (Cursor.mk (input.take count ++ rest) position).remaining := by
        simp only [Cursor.remaining, List.length_append, exactly]
        exact Nat.le_add_right ..
      rw [bytes_of_le fits, Cursor.advance, List.take_left' exactly, List.drop_left' exactly,
        exactly]
    · rw [bytes_of_lt (Nat.lt_of_not_le enough)] at read
      cases read

theorem reads_bytes {count : Nat} {taken value : List UInt8} :
    Reads (bytes count) taken value ↔ taken.length = count ∧ taken = value := by
  constructor
  · intro reads
    have read := reads.at_end 0
    by_cases enough : count ≤ (Cursor.mk taken 0).remaining
    · rw [bytes_of_le enough] at read
      injection read with value_eq cursor_eq
      have nothing : taken.drop count = [] := congrArg Cursor.rest cursor_eq
      have whole : taken.take count = taken := by
        simpa [nothing] using List.take_append_drop count taken
      have long : taken.length ≤ count := List.drop_eq_nil_iff.mp nothing
      exact ⟨Nat.le_antisymm long enough, whole.symm.trans value_eq⟩
    · rw [bytes_of_lt (Nat.lt_of_not_le enough)] at read
      cases read
  · rintro ⟨rfl, rfl⟩ rest position
    have enough : taken.length ≤ (Cursor.mk (taken ++ rest) position).remaining := by
      simp [Cursor.remaining]
    rw [bytes_of_le enough, Cursor.advance, List.take_left, List.drop_left]

instance local_skip (count : Nat) : Local (skip count) :=
  inferInstanceAs (Local (bytes count >>= fun _ => pure ()))

theorem reads_skip {count : Nat} {taken : List UInt8} {value : Unit} :
    Reads (skip count) taken value ↔ taken.length = count := by
  change Reads (bytes count >>= fun _ => pure ()) taken value ↔ _
  simp [reads_bytes]

instance local_number (width : Nat) : Local (number width) :=
  inferInstanceAs (Local (BigEndian.value <$> bytes width))

theorem reads_number {width : Nat} {taken : List UInt8} {value : Nat} :
    Reads (number width) taken value ↔
      value < 256 ^ width ∧ taken = BigEndian.encode width value := by
  rw [number, reads_map]
  constructor
  · rintro ⟨digits, reads, rfl⟩
    obtain ⟨rfl, rfl⟩ := reads_bytes.mp reads
    exact ⟨BigEndian.value_lt taken, (BigEndian.encode_value taken).symm⟩
  · rintro ⟨bound, rfl⟩
    refine ⟨_, reads_bytes.mpr ⟨BigEndian.length_encode .., rfl⟩, ?_⟩
    rw [BigEndian.value_encode, Nat.mod_eq_of_lt bound]

theorem reads_machineWord {width : Nat} {build : Nat → α} {toNat : α → Nat}
    (build_toNat : ∀ value, build (toNat value) = value)
    (toNat_build : ∀ number, number < 256 ^ width → toNat (build number) = number)
    (toNat_lt : ∀ value, toNat value < 256 ^ width) {taken : List UInt8} {value : α} :
    Reads (build <$> number width) taken value ↔ taken = BigEndian.encode width (toNat value) := by
  rw [reads_map]
  constructor
  · rintro ⟨digits, reads, rfl⟩
    obtain ⟨bound, rfl⟩ := reads_number.mp reads
    rw [toNat_build digits bound]
  · rintro rfl
    exact ⟨toNat value, reads_number.mpr ⟨toNat_lt value, rfl⟩, build_toNat value⟩

instance local_uint8 : Local uint8 := inferInstanceAs (Local (UInt8.ofNat <$> number 1))

instance local_uint16 : Local uint16 := inferInstanceAs (Local (UInt16.ofNat <$> number 2))

instance local_uint32 : Local uint32 := inferInstanceAs (Local (UInt32.ofNat <$> number 4))

instance local_int8 : Local int8 := inferInstanceAs (Local (UInt8.toInt8 <$> uint8))

instance local_int16 : Local int16 := inferInstanceAs (Local (UInt16.toInt16 <$> uint16))

instance local_int32 : Local int32 := inferInstanceAs (Local (UInt32.toInt32 <$> uint32))

theorem reads_uint8 {taken : List UInt8} {value : UInt8} :
    Reads uint8 taken value ↔ taken = [value] := by
  have single : BigEndian.encode 1 value.toNat = [value] := by simp [BigEndian.encode]
  rw [← single]
  exact reads_machineWord (fun _ => UInt8.ofNat_toNat) (fun _ => UInt8.toNat_ofNat_of_lt')
    fun value => value.toNat_lt

theorem reads_uint16 {taken : List UInt8} {value : UInt16} :
    Reads uint16 taken value ↔ taken = word value :=
  reads_machineWord (fun _ => UInt16.ofNat_toNat) (fun _ => UInt16.toNat_ofNat_of_lt')
    fun value => value.toNat_lt

theorem reads_uint32 {taken : List UInt8} {value : UInt32} :
    Reads uint32 taken value ↔ taken = doubleWord value :=
  reads_machineWord (fun _ => UInt32.ofNat_toNat) (fun _ => UInt32.toNat_ofNat_of_lt')
    fun value => value.toNat_lt

theorem reads_sameBits {β : Type} {reader : Reader α} [Local reader] {encode : α → List UInt8}
    {build : α → β} {bits : β → α}
    (reads_reader : ∀ taken value, Reads reader taken value ↔ taken = encode value)
    (build_bits : ∀ value, build (bits value) = value)
    (bits_build : ∀ value, bits (build value) = value) {taken : List UInt8} {value : β} :
    Reads (build <$> reader) taken value ↔ taken = encode (bits value) := by
  rw [reads_map]
  simp only [reads_reader]
  constructor
  · rintro ⟨unsigned, rfl, rfl⟩
    rw [bits_build]
  · rintro rfl
    exact ⟨bits value, rfl, build_bits value⟩

theorem reads_int8 {taken : List UInt8} {value : Int8} :
    Reads int8 taken value ↔ taken = [value.toUInt8] :=
  reads_sameBits (fun _ _ => reads_uint8) Int8.toInt8_toUInt8 fun _ => UInt8.toUInt8_toInt8 _

theorem reads_int16 {taken : List UInt8} {value : Int16} :
    Reads int16 taken value ↔ taken = word value.toUInt16 :=
  reads_sameBits (fun _ _ => reads_uint16) Int16.toInt16_toUInt16 fun _ => UInt16.toUInt16_toInt16 _

theorem reads_int32 {taken : List UInt8} {value : Int32} :
    Reads int32 taken value ↔ taken = doubleWord value.toUInt32 :=
  reads_sameBits (fun _ _ => reads_uint32) Int32.toInt32_toUInt32 fun _ => UInt32.toUInt32_toInt32 _

section Written

instance inverts_bytes (count : Nat) :
    Inverts (bytes count) (fun value => value.length = count) fun value => value where
  reads_iff taken value := by
    rw [reads_bytes]
    constructor
    · rintro ⟨length_eq, rfl⟩
      exact ⟨length_eq, rfl⟩
    · rintro ⟨length_eq, rfl⟩
      exact ⟨length_eq, rfl⟩

instance inverts_uint8 : Inverts uint8 (fun _ => True) fun value => [value] where
  reads_iff _ _ := by rw [reads_uint8, true_and]

instance inverts_uint16 : Inverts uint16 (fun _ => True) word where
  reads_iff _ _ := by rw [reads_uint16, true_and]

instance inverts_uint32 : Inverts uint32 (fun _ => True) doubleWord where
  reads_iff _ _ := by rw [reads_uint32, true_and]

instance inverts_int8 : Inverts int8 (fun _ => True) fun value => [value.toUInt8] where
  reads_iff _ _ := by rw [reads_int8, true_and]

instance inverts_int16 : Inverts int16 (fun _ => True) fun value => word value.toUInt16 where
  reads_iff _ _ := by rw [reads_int16, true_and]

instance inverts_int32 : Inverts int32 (fun _ => True) fun value => doubleWord value.toUInt32 where
  reads_iff _ _ := by rw [reads_int32, true_and]

end Written

/-- The bytes are those of the items, one after the other. -/
inductive ReadsEach (item : Reader α) : List UInt8 → List α → Prop where
  | nil : ReadsEach item [] []
  | cons {front back : List UInt8} {value : α} {values : List α} (head : Reads item front value)
      (tail : ReadsEach item back values) : ReadsEach item (front ++ back) (value :: values)

theorem readsEach_iff {item : Reader α} {Fits : α → Prop} {encode : α → List UInt8}
    [Inverts item Fits encode] {taken : List UInt8} {values : List α} :
    ReadsEach item taken values ↔
      (∀ value ∈ values, Fits value) ∧ taken = values.flatMap encode := by
  constructor
  · intro each
    induction each with
    | nil => simp
    | cons head tail inductionHypothesis =>
      obtain ⟨fits, rfl⟩ := (Inverts.reads_iff _ _).mp head
      obtain ⟨others_fit, rfl⟩ := inductionHypothesis
      exact ⟨List.forall_mem_cons.mpr ⟨fits, others_fit⟩, rfl⟩
  · rintro ⟨fit, rfl⟩
    induction values with
    | nil => exact .nil
    | cons value values inductionHypothesis =>
      obtain ⟨fits, others_fit⟩ := List.forall_mem_cons.mp fit
      have head : Reads item (encode value) value := (Inverts.reads_iff _ _).mpr ⟨fits, rfl⟩
      exact .cons head (inductionHypothesis others_fit)

instance local_times (item : Reader α) [Local item] (count : Nat) : Local (times count item) := by
  induction count with
  | zero => exact inferInstanceAs (Local (pure []))
  | succ count inductionHypothesis =>
    exact inferInstanceAs (Local (item >>= fun first => times count item >>= fun others =>
      pure (first :: others)))

theorem reads_times {item : Reader α} [Local item] {count : Nat} {taken : List UInt8}
    {values : List α} :
    Reads (times count item) taken values ↔
      values.length = count ∧ ReadsEach item taken values := by
  induction count generalizing taken values with
  | zero =>
    rw [times, reads_pure]
    constructor
    · rintro ⟨rfl, rfl⟩
      exact ⟨rfl, .nil⟩
    · rintro ⟨empty, each⟩
      cases each with
      | nil => exact ⟨rfl, rfl⟩
      | cons => cases empty
  | succ count inductionHypothesis =>
    rw [times, reads_bind]
    simp only [reads_bind, reads_pure, inductionHypothesis]
    constructor
    · intro reads
      obtain ⟨first, front, _, rfl, head, others, back, _, rfl, each, rfl, rfl⟩ := reads
      obtain ⟨rfl, tail⟩ := each
      exact ⟨rfl, .cons head (by rwa [List.append_nil])⟩
    · rintro ⟨length, each⟩
      cases each with
      | nil => cases length
      | @cons front back value values head tail =>
        exact ⟨value, front, back, rfl, head, values, back, [], (List.append_nil back).symm,
          ⟨Nat.succ.inj length, tail⟩, rfl, rfl⟩

instance inverts_times {item : Reader α} {Fits : α → Prop} {encode : α → List UInt8}
    [Local item] [Inverts item Fits encode] (count : Nat) :
    Inverts (times count item)
      (fun values => values.length = count ∧ ∀ value ∈ values, Fits value)
      (fun values => values.flatMap encode) where
  reads_iff taken values := by rw [reads_times, readsEach_iff, and_assoc]

instance local_counted (item : Reader α) [Local item] : Local (counted item) :=
  inferInstanceAs (Local (uint16 >>= fun count => times count.toNat item))

theorem reads_counted {item : Reader α} [Local item] {taken : List UInt8} {values : List α} :
    Reads (counted item) taken values ↔
      values.length < 2 ^ 16 ∧
        ∃ items, taken = BigEndian.encode 2 values.length ++ items ∧
          ReadsEach item items values := by
  rw [counted, reads_bind_written]
  simp only [reads_times, true_and]
  constructor
  · intro reads
    rcases reads with ⟨count, items, rfl, length, each⟩
    exact ⟨length ▸ count.toNat_lt, items, by rw [length, word], each⟩
  · rintro ⟨bound, items, rfl, each⟩
    have count : (UInt16.ofNat values.length).toNat = values.length :=
      UInt16.toNat_ofNat_of_lt' bound
    exact ⟨UInt16.ofNat values.length, items, by rw [word, count], count.symm, each⟩

end Reader

end ClassMachine
