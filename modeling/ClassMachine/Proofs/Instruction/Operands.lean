import ClassMachine.Instruction.Decode
import ClassMachine.Proofs.Binary.Primitive

set_option autoImplicit false

/-!
# Operands

What the operand readers take, in terms of bytes. Decoding at an offset then takes an opcode of the
table and operands of its form, and the offset that it returns is the end of what it took.
-/

namespace ClassMachine

/-- The number of bytes that operands of a form take, unless it depends on them or on where they
are. -/
def OperandForm.size? : OperandForm → Option Nat
  | .plain _ => some 0
  | .int8 _ | .uint8 _ => some 1
  | .int16 _ | .uint16 _ | .increment => some 2
  | .multiArray => some 3
  | .int32 _ | .interfaceCall | .dynamicCall => some 4
  | .tableSwitch | .lookupSwitch | .wide => none

namespace OpcodeInfo

theorem getElem?_entries_of_ofOpcode? {opcode : UInt8} {info : OpcodeInfo}
    (found : ofOpcode? opcode = some info) :
    (info.operandBytes = some 0 ∧ info.form = .plain (.reserved opcode) ∧
        (opcode = 0xfe ∨ opcode = 0xff)) ∨
      entries[opcode.toNat]? = some info := by
  unfold ofOpcode? at found
  split at found
  next last =>
    cases found
    exact .inl ⟨rfl, by rw [last], .inl last⟩
  split at found
  next last =>
    cases found
    exact .inl ⟨rfl, by rw [last], .inr last⟩
  right
  rwa [table, List.getElem?_toArray] at found

set_option maxRecDepth 4000 in
theorem operandBytes_eq_of_mem : ∀ info ∈ entries, info.operandBytes = info.form.size? := by
  decide

theorem operandBytes_eq {opcode : UInt8} {info : OpcodeInfo}
    (found : ofOpcode? opcode = some info) : info.operandBytes = info.form.size? := by
  rcases getElem?_entries_of_ofOpcode? found with ⟨no_bytes, form_eq, -⟩ | in_table
  · rw [no_bytes, form_eq]
    rfl
  · exact operandBytes_eq_of_mem info (List.mem_of_getElem? in_table)

end OpcodeInfo

namespace OperandReader

variable {α : Type}

theorem ofReader_eq_ok {reader : Reader α} {before after : Cursor} {value : α} :
    ofReader reader before = .ok value after ↔ reader before = .ok value after := by
  unfold ofReader
  cases reader before <;> simp

@[simp]
theorem reads_ofReader {reader : Reader α} {taken : List UInt8} {value : α} :
    Reads (ofReader reader) taken value ↔ Reads reader taken value := by
  simp only [Reads, ofReader_eq_ok]

instance local_ofReader (reader : Reader α) [Local reader] : Local (ofReader reader) where
  reads_of_ok read := by
    obtain ⟨taken, split, moved, reads⟩ := Local.reads_of_ok (ofReader_eq_ok.mp read)
    exact ⟨taken, split, moved, reads_ofReader.mpr reads⟩

instance inverts_ofReader (reader : Reader α) {Fits : α → Prop} {encode : α → List UInt8}
    [Inverts reader Fits encode] : Inverts (ofReader reader) Fits encode where
  reads_iff taken value := by rw [reads_ofReader, Inverts.reads_iff]

theorem reads_bind_skip {count : Nat} {next : Unit → OperandReader α} [Local (next ())]
    {taken : List UInt8} {result : α} :
    Reads (ofReader (Reader.skip count) >>= next) taken result ↔
      ∃ ignored back, ignored.length = count ∧ taken = ignored ++ back ∧
        Reads (next ()) back result := by
  have local_next : ∀ value, Local (next value) := fun _ => inferInstance
  simp only [reads_bind, reads_ofReader, Reader.reads_skip]
  constructor
  · intro whole
    rcases whole with ⟨_, ignored, back, rfl, length_eq, reads⟩
    exact ⟨ignored, back, length_eq, rfl, reads⟩
  · intro parts
    rcases parts with ⟨ignored, back, length_eq, rfl, reads⟩
    exact ⟨(), ignored, back, rfl, length_eq, reads⟩

theorem reads_build {reader : Reader α} [Local reader] {build : α → Instruction}
    {taken : List UInt8} {value : α} (reads : Reads reader taken value) :
    Reads (ofReader (build <$> reader)) taken (build value) :=
  reads_ofReader.mpr (reads_map.mpr ⟨value, reads, rfl⟩)

end OperandReader

namespace Instruction

open OperandReader Reader

variable {pc : Nat} {taken : List UInt8} {instruction : Instruction}

instance local_readIncrement : Local readIncrement := by
  unfold readIncrement
  infer_instance

theorem reads_readIncrement :
    Reads readIncrement taken instruction ↔
      ∃ (index : UInt8) (amount : Int8), taken = [index, amount.toUInt8] ∧
        instruction = .increment index.toUInt16 amount.toInt16 := by
  unfold readIncrement
  simp only [reads_bind_written, reads_pure, true_and]
  constructor
  · intro reads
    rcases reads with ⟨index, _, rfl, amount, _, rfl, rfl, rfl⟩
    exact ⟨index, amount, rfl, rfl⟩
  · rintro ⟨index, amount, rfl, rfl⟩
    exact ⟨index, _, rfl, amount, [], rfl, rfl, rfl⟩

instance local_readInterfaceCall : Local readInterfaceCall := by
  unfold readInterfaceCall
  infer_instance

theorem reads_readInterfaceCall :
    Reads readInterfaceCall taken instruction ↔
      ∃ (index : UInt16) (argumentSlots ignored : UInt8),
        taken = word index ++ [argumentSlots, ignored] ∧
          instruction = .invoke (.interface argumentSlots) index := by
  unfold readInterfaceCall
  simp only [reads_bind_written, reads_bind_skip, reads_pure, true_and]
  constructor
  · intro reads
    obtain ⟨index, _, rfl, slots, _, rfl, ignored, _, single, rfl, rfl, rfl⟩ := reads
    obtain ⟨last, rfl⟩ := List.length_eq_one_iff.mp single
    exact ⟨index, slots, last, rfl, rfl⟩
  · intro written
    rcases written with ⟨index, slots, ignored, rfl, rfl⟩
    exact ⟨index, _, rfl, slots, _, rfl, [ignored], [], rfl, rfl, rfl, rfl⟩

instance local_readDynamicCall : Local readDynamicCall := by
  unfold readDynamicCall
  infer_instance

theorem reads_readDynamicCall :
    Reads readDynamicCall taken instruction ↔
      ∃ (index : UInt16) (first second : UInt8), taken = word index ++ [first, second] ∧
        instruction = .invokeDynamic index := by
  unfold readDynamicCall
  simp only [reads_bind_written, reads_bind_skip, reads_pure, true_and]
  constructor
  · intro reads
    obtain ⟨index, _, rfl, ignored, _, two, rfl, rfl, rfl⟩ := reads
    obtain ⟨first, others, rfl⟩ := List.exists_cons_of_length_eq_add_one two
    obtain ⟨second, rfl⟩ := List.length_eq_one_iff.mp (Nat.succ.inj two)
    exact ⟨index, first, second, rfl, rfl⟩
  · intro written
    rcases written with ⟨index, first, second, rfl, rfl⟩
    exact ⟨index, _, rfl, [first, second], [], rfl, rfl, rfl, rfl⟩

instance local_readMultiArray : Local readMultiArray := by
  unfold readMultiArray
  infer_instance

theorem reads_readMultiArray :
    Reads readMultiArray taken instruction ↔
      ∃ (classIndex : UInt16) (dimensions : UInt8), taken = word classIndex ++ [dimensions] ∧
        instruction = .newMultiArray classIndex dimensions := by
  unfold readMultiArray
  simp only [reads_bind_written, reads_pure, true_and]
  constructor
  · intro reads
    rcases reads with ⟨index, _, rfl, dimensions, _, rfl, rfl, rfl⟩
    exact ⟨index, dimensions, rfl, rfl⟩
  · rintro ⟨index, dimensions, rfl, rfl⟩
    exact ⟨index, _, rfl, dimensions, [], rfl, rfl, rfl⟩

instance local_readCase : Local readCase := by
  unfold readCase
  infer_instance

theorem reads_readCase {target : Int32 × Int32} :
    Reads readCase taken target ↔
      taken = doubleWord target.1.toUInt32 ++ doubleWord target.2.toUInt32 := by
  unfold readCase
  simp only [reads_bind_written, reads_pure, true_and]
  constructor
  · intro reads
    rcases reads with ⟨key, _, rfl, offset, _, rfl, rfl, rfl⟩
    rw [List.append_nil]
  · rintro rfl
    exact ⟨target.1, _, rfl, target.2, [], (List.append_nil _).symm, rfl, rfl⟩

instance inverts_readCase : Inverts readCase (fun _ => True) fun target =>
    doubleWord target.1.toUInt32 ++ doubleWord target.2.toUInt32 where
  reads_iff _ _ := by rw [reads_readCase, true_and]

instance local_readTableSwitch : Local (readTableSwitch pc) := by
  unfold readTableSwitch
  infer_instance

theorem reads_readTableSwitch :
    Reads (readTableSwitch pc) taken instruction ↔
      ∃ (padding : List UInt8) (fallback low high : Int32) (targets : List Int32),
        padding.length = switchPadding pc ∧
          high.toInt = low.toInt + targets.length - 1 ∧
          taken = padding ++ doubleWord fallback.toUInt32 ++ doubleWord low.toUInt32 ++
            doubleWord high.toUInt32 ++ targets.flatMap (fun target => doubleWord target.toUInt32) ∧
          instruction = .tableSwitch fallback low targets := by
  unfold readTableSwitch
  simp only [reads_bind_skip, reads_bind_written, reads_guard, reads_pure, true_and]
  constructor
  · intro reads
    obtain ⟨padding, _, padded, rfl, fallback, _, rfl, low, _, rfl, high, _, rfl, counted, items⟩ :=
      reads
    obtain ⟨targets, _, ⟨length, -⟩, rfl, rfl, rfl⟩ := items
    refine ⟨padding, fallback, low, high, targets, padded, ?_, ?_, rfl⟩
    · omega
    · simp only [List.append_assoc, List.append_nil]
  · intro written
    rcases written with ⟨padding, fallback, low, high, targets, padded, counted, rfl, rfl⟩
    refine ⟨padding, _, padded, ?_, fallback, _, rfl, low, _, rfl, high, _, rfl, ?_, targets, [],
      ⟨?_, fun _ _ => trivial⟩, rfl, rfl, rfl⟩
    · simp only [List.append_assoc, List.append_nil]
    · omega
    · omega

instance local_readLookupSwitch : Local (readLookupSwitch pc) := by
  unfold readLookupSwitch
  infer_instance

theorem reads_readLookupSwitch :
    Reads (readLookupSwitch pc) taken instruction ↔
      ∃ (padding : List UInt8) (fallback count : Int32) (targets : List (Int32 × Int32)),
        padding.length = switchPadding pc ∧ count.toInt = targets.length ∧
          taken = padding ++ doubleWord fallback.toUInt32 ++ doubleWord count.toUInt32 ++
            targets.flatMap (fun target =>
              doubleWord target.1.toUInt32 ++ doubleWord target.2.toUInt32) ∧
          instruction = .lookupSwitch fallback targets := by
  unfold readLookupSwitch
  simp only [reads_bind_skip, reads_bind_written, reads_guard, reads_pure, true_and]
  constructor
  · intro reads
    obtain ⟨padding, _, padded, rfl, fallback, _, rfl, count, _, rfl, counted, items⟩ := reads
    obtain ⟨targets, _, ⟨length, -⟩, rfl, rfl, rfl⟩ := items
    refine ⟨padding, fallback, count, targets, padded, ?_, ?_, rfl⟩
    · omega
    · simp only [List.append_assoc, List.append_nil]
  · intro written
    rcases written with ⟨padding, fallback, count, targets, padded, counted, rfl, rfl⟩
    refine ⟨padding, _, padded, ?_, fallback, _, rfl, count, _, rfl, ?_, targets, [],
      ⟨?_, fun _ _ => trivial⟩, rfl, rfl, rfl⟩
    · simp only [List.append_assoc, List.append_nil]
    · omega
    · omega

instance local_readWideOperands (opcode : UInt8) : Local (readWideOperands opcode) := by
  unfold readWideOperands
  split <;> infer_instance

theorem reads_readWideOperands {opcode : UInt8} :
    Reads (readWideOperands opcode) taken instruction ↔
      (∃ (build : UInt16 → Instruction) (index : UInt16), ofWideOpcode? opcode = some build ∧
        taken = word index ∧ instruction = build index) ∨
      opcode = 0x84 ∧ ∃ (index : UInt16) (amount : Int16),
        taken = word index ++ word amount.toUInt16 ∧ instruction = .increment index amount := by
  unfold readWideOperands
  split
  next build known =>
    have unlike : opcode ≠ 0x84 := by
      rintro rfl
      cases known
    simp only [reads_ofReader, reads_map, reads_uint16, known, unlike, Option.some.injEq, false_and,
      or_false]
    constructor
    · rintro ⟨index, rfl, rfl⟩
      exact ⟨build, index, rfl, rfl, rfl⟩
    · intro written
      rcases written with ⟨_, index, rfl, rfl, rfl⟩
      exact ⟨index, rfl, rfl⟩
  next unknown =>
    simp only [reads_guard, reads_bind_written, reads_pure, true_and, unknown, reduceCtorEq,
      false_and, exists_false, false_or, Decidable.not_not]
    constructor
    · intro reads
      rcases reads with ⟨rfl, index, _, rfl, amount, _, rfl, rfl, rfl⟩
      exact ⟨rfl, index, amount, by rw [List.append_nil], rfl⟩
    · intro written
      rcases written with ⟨rfl, index, amount, rfl, rfl⟩
      exact ⟨rfl, index, _, rfl, amount, [], (List.append_nil _).symm, rfl, rfl⟩

instance local_readWide : Local readWide := by
  unfold readWide
  infer_instance

theorem reads_readWide :
    Reads readWide taken instruction ↔
      ∃ opcode operands, taken = opcode :: operands ∧
        Reads (readWideOperands opcode) operands instruction := by
  unfold readWide
  simp only [reads_bind_written, true_and]
  exact Iff.rfl

instance local_readOperands (form : OperandForm) : Local (readOperands pc form) := by
  cases form <;> unfold readOperands <;> infer_instance

theorem length_of_reads_readOperands {form : OperandForm} {size : Nat}
    (reads : Reads (readOperands pc form) taken instruction) (fixed : form.size? = some size) :
    taken.length = size := by
  cases form <;> cases fixed <;>
    simp only [readOperands, reads_ofReader, reads_map, reads_pure, reads_int8, reads_uint8,
      reads_int16, reads_uint16, reads_int32, reads_readIncrement, reads_readInterfaceCall,
      reads_readDynamicCall, reads_readMultiArray] at reads
  case plain => exact congrArg List.length reads.1
  case increment =>
    obtain ⟨_, _, rfl, -⟩ := reads
    rfl
  case interfaceCall =>
    obtain ⟨_, _, _, rfl, -⟩ := reads
    simp
  case dynamicCall =>
    obtain ⟨_, _, _, rfl, -⟩ := reads
    simp
  case multiArray =>
    obtain ⟨_, _, rfl, -⟩ := reads
    simp
  all_goals
    obtain ⟨_, rfl, -⟩ := reads
    simp

theorem operandBytes_getD_of_reads {opcode : UInt8} {info : OpcodeInfo}
    (found : OpcodeInfo.ofOpcode? opcode = some info)
    (reads : Reads (readOperands pc info.form) taken instruction) :
    info.operandBytes.getD taken.length = taken.length := by
  rw [OpcodeInfo.operandBytes_eq found]
  cases fixed : info.form.size? with
  | none => rfl
  | some size => exact (length_of_reads_readOperands reads fixed).symm

theorem decode_eq_ok {code : List UInt8} {next : Nat} :
    decode code pc = .ok (instruction, next) ↔
      ∃ opcode operands rest info, code.drop pc = opcode :: operands ++ rest ∧
        OpcodeInfo.ofOpcode? opcode = some info ∧
          Reads (readOperands pc info.form) operands instruction ∧
            next = pc + (opcode :: operands).length := by
  constructor
  · intro decoded
    unfold decode at decoded
    split at decoded
    · cases decoded
    next opcode input remaining =>
      split at decoded
      · cases decoded
      next info known =>
        split at decoded
        · cases decoded
        next result after read =>
          cases decoded
          obtain ⟨operands, rfl, moved, reads⟩ := Local.reads_of_ok read
          refine ⟨opcode, operands, after.rest, info, remaining, known, reads, ?_⟩
          rw [moved, Nat.zero_add, operandBytes_getD_of_reads known reads, List.length_cons, Nat.add_assoc,
            Nat.add_comm 1]
  · intro parts
    rcases parts with ⟨opcode, operands, rest, info, remaining, known, reads, rfl⟩
    have read : readOperands pc info.form (Cursor.ofBytes (operands ++ rest)) =
        .ok instruction ⟨rest, operands.length⟩ := by
      have read := reads rest 0
      rwa [Nat.zero_add] at read
    simp only [decode, remaining, List.cons_append, known, read, operandBytes_getD_of_reads known reads,
      List.length_cons, Except.ok.injEq, Prod.mk.injEq, true_and]
    omega

theorem next_le_length_of_decode {code : List UInt8} {next : Nat}
    (decoded : decode code pc = .ok (instruction, next)) : pc < next ∧ next ≤ code.length := by
  obtain ⟨opcode, operands, rest, info, remaining, -, -, rfl⟩ := decode_eq_ok.mp decoded
  have total := congrArg List.length remaining
  simp only [List.length_drop, List.length_append, List.length_cons] at total ⊢
  omega

end Instruction

end ClassMachine
