import ClassMachine.Proofs.Instruction.Operands
import ClassMachine.Proofs.Instruction.Table

set_option autoImplicit false

/-!
# Decoding inverts the assembler

At every offset the decoder takes exactly the written forms of instructions. Both directions go
through the form of the opcode's table entry: the operand reader of that form takes what the
assembler writes after the opcode.
-/

namespace ClassMachine

namespace Instruction

open OperandReader Reader

variable {pc : Nat} {instruction : Instruction} {opcode : UInt8}

theorem isPadding_iff {padding : List UInt8} :
    IsPadding pc padding ↔ padding.length = switchPadding pc := by
  unfold IsPadding switchPadding
  omega

theorem localOperand?_of_ofWideOpcode? {build : UInt16 → Instruction}
    (known : ofWideOpcode? opcode = some build) (index : UInt16) :
    (build index).localOperand? = some (opcode, index) := by
  unfold ofWideOpcode? at known
  split at known <;> cases known <;> rfl

theorem ofWideOpcode?_of_localOperand? {index : UInt16}
    (known : instruction.localOperand? = some (opcode, index)) :
    ∃ build, ofWideOpcode? opcode = some build ∧ build index = instruction := by
  cases instruction <;> simp only [localOperand?, Option.some.injEq, Prod.mk.injEq, reduceCtorEq]
    at known
  case load type _ | store type _ =>
    obtain ⟨rfl, rfl⟩ := known
    cases type <;> exact ⟨_, rfl, rfl⟩
  case returnFromSubroutine =>
    obtain ⟨rfl, rfl⟩ := known
    exact ⟨_, rfl, rfl⟩

theorem encodes_of_reads_readWide {operands : List UInt8}
    (reads : Reads readWide operands instruction) : Encodes pc instruction (0xc4 :: operands) := by
  obtain ⟨opcode, operands, rfl, readsOperands⟩ := reads_readWide.mp reads
  rcases reads_readWideOperands.mp readsOperands with
    ⟨build, index, known, rfl, rfl⟩ | ⟨rfl, index, amount, rfl, rfl⟩
  · exact .wideLocal (localOperand?_of_ofWideOpcode? known index)
  · exact .wideIncrement index amount

theorem encodes_of_reads {form : OperandForm} {operands : List UInt8}
    (assembles : Assembles opcode form)
    (reads : Reads (readOperands pc form) operands instruction) :
    Encodes pc instruction (opcode :: operands) := by
  cases assembles <;> simp only [readOperands, reads_ofReader, reads_map, reads_pure,
    reads_int8, reads_uint8, reads_int16, reads_uint16,
    reads_int32] at reads
  case plain known =>
    obtain ⟨rfl, rfl⟩ := reads
    exact .single known
  case uint16 known =>
    obtain ⟨operand, rfl, rfl⟩ := reads
    exact .twoByteOperand (known operand)
  case int16 known =>
    obtain ⟨operand, rfl, rfl⟩ := reads
    exact .twoByteOperand (known operand)
  case byteLocal known =>
    obtain ⟨index, rfl, rfl⟩ := reads
    exact .byteLocal (known index)
  case pushByte =>
    obtain ⟨value, rfl, rfl⟩ := reads
    exact .pushByte value
  case loadConstant =>
    obtain ⟨index, rfl, rfl⟩ := reads
    exact .loadConstant index
  case increment =>
    obtain ⟨index, amount, rfl, rfl⟩ := reads_readIncrement.mp reads
    exact .increment index amount
  case goto =>
    obtain ⟨offset, rfl, rfl⟩ := reads
    exact .goto offset
  case jumpSubroutine =>
    obtain ⟨offset, rfl, rfl⟩ := reads
    exact .jumpSubroutine offset
  case tableSwitch =>
    obtain ⟨padding, fallback, low, high, targets, padded, counted, rfl, rfl⟩ :=
      reads_readTableSwitch.mp reads
    exact .tableSwitch (isPadding_iff.mpr padded) counted
  case lookupSwitch =>
    obtain ⟨padding, fallback, count, targets, padded, counted, rfl, rfl⟩ :=
      reads_readLookupSwitch.mp reads
    exact .lookupSwitch (isPadding_iff.mpr padded) counted
  case interfaceCall =>
    obtain ⟨index, slots, ignored, rfl, rfl⟩ := reads_readInterfaceCall.mp reads
    exact .invokeInterface index slots ignored
  case dynamicCall =>
    obtain ⟨index, first, second, rfl, rfl⟩ := reads_readDynamicCall.mp reads
    exact .invokeDynamic index first second
  case newArray =>
    obtain ⟨code, rfl, rfl⟩ := reads
    exact .newArray code
  case wide => exact encodes_of_reads_readWide reads
  case multiArray =>
    obtain ⟨index, dimensions, rfl, rfl⟩ := reads_readMultiArray.mp reads
    exact .newMultiArray index dimensions
  case wideGoto =>
    obtain ⟨offset, rfl, rfl⟩ := reads
    exact .wideGoto offset
  case wideJumpSubroutine =>
    obtain ⟨offset, rfl, rfl⟩ := reads
    exact .wideJumpSubroutine offset

-- The entries are looked up in the table.
set_option maxRecDepth 4000 in
theorem Encodes.reads {written : List UInt8} (encodes : Encodes pc instruction written) :
    ∃ opcode operands info, written = opcode :: operands ∧
      OpcodeInfo.ofOpcode? opcode = some info ∧
        Reads (readOperands pc info.form) operands instruction := by
  cases encodes with
  | single known =>
    obtain ⟨info, found, form⟩ := OpcodeInfo.ofOpcode?_of_singleByte? known
    refine ⟨_, _, info, rfl, found, ?_⟩
    rw [form]
    exact reads_pure.mpr ⟨rfl, rfl⟩
  | twoByteOperand known =>
    obtain ⟨info, found, form⟩ := OpcodeInfo.ofOpcode?_of_twoByteOperand? known
    refine ⟨_, _, info, rfl, found, ?_⟩
    rcases form with ⟨build, form, rfl⟩ | ⟨build, form, rfl⟩
    · rw [form]
      exact reads_build (reads_uint16.mpr rfl)
    · rw [form]
      exact reads_build (reads_int16.mpr (by rw [UInt16.toUInt16_toInt16]))
  | byteLocal known =>
    obtain ⟨info, build, found, form, rfl⟩ := OpcodeInfo.ofOpcode?_of_localOperand? known
    refine ⟨_, _, info, rfl, found, ?_⟩
    rw [form]
    exact reads_build (reads_uint8.mpr rfl)
  | wideLocal known =>
    obtain ⟨build, wide, rfl⟩ := ofWideOpcode?_of_localOperand? known
    refine ⟨_, _, _, rfl, rfl, reads_readWide.mpr ⟨_, _, rfl, ?_⟩⟩
    exact reads_readWideOperands.mpr (.inl ⟨build, _, wide, rfl, rfl⟩)
  | pushByte value =>
    exact ⟨_, _, _, rfl, rfl, reads_build (reads_int8.mpr rfl)⟩
  | loadConstant index =>
    exact ⟨_, _, _, rfl, rfl, reads_build (reads_uint8.mpr rfl)⟩
  | increment index amount =>
    exact ⟨_, _, _, rfl, rfl, reads_readIncrement.mpr ⟨index, amount, rfl, rfl⟩⟩
  | wideIncrement index amount =>
    refine ⟨_, _, _, rfl, rfl, reads_readWide.mpr ⟨_, _, rfl, ?_⟩⟩
    exact reads_readWideOperands.mpr (.inr ⟨rfl, index, amount, rfl, rfl⟩)
  | goto offset | jumpSubroutine offset =>
    exact ⟨_, _, _, rfl, rfl, reads_build (reads_int16.mpr rfl)⟩
  | wideGoto offset | wideJumpSubroutine offset =>
    exact ⟨_, _, _, rfl, rfl, reads_build (reads_int32.mpr rfl)⟩
  | tableSwitch padded counted =>
    exact ⟨_, _, _, rfl, rfl, reads_readTableSwitch.mpr
      ⟨_, _, _, _, _, isPadding_iff.mp padded, counted, rfl, rfl⟩⟩
  | lookupSwitch padded counted =>
    exact ⟨_, _, _, rfl, rfl, reads_readLookupSwitch.mpr
      ⟨_, _, _, _, isPadding_iff.mp padded, counted, rfl, rfl⟩⟩
  | invokeInterface index slots ignored =>
    exact ⟨_, _, _, rfl, rfl, reads_readInterfaceCall.mpr ⟨index, slots, ignored, rfl, rfl⟩⟩
  | invokeDynamic index first second =>
    exact ⟨_, _, _, rfl, rfl, reads_readDynamicCall.mpr ⟨index, first, second, rfl, rfl⟩⟩
  | newArray code =>
    exact ⟨_, _, _, rfl, rfl, reads_build (reads_uint8.mpr rfl)⟩
  | newMultiArray index dimensions =>
    exact ⟨_, _, _, rfl, rfl, reads_readMultiArray.mpr ⟨index, dimensions, rfl, rfl⟩⟩

theorem decode_eq_ok_iff_encodes {code : List UInt8} {next : Nat} :
    decode code pc = .ok (instruction, next) ↔
      ∃ written rest, code.drop pc = written ++ rest ∧ next = pc + written.length ∧
        Encodes pc instruction written := by
  rw [decode_eq_ok]
  constructor
  · intro decoded
    rcases decoded with ⟨opcode, operands, rest, info, remaining, found, reads, rfl⟩
    exact ⟨opcode :: operands, rest, remaining, rfl,
      encodes_of_reads (OpcodeInfo.assembles_of_ofOpcode? found) reads⟩
  · intro assembled
    rcases assembled with ⟨written, rest, remaining, rfl, encodes⟩
    obtain ⟨opcode, operands, info, rfl, found, reads⟩ := encodes.reads
    exact ⟨opcode, operands, rest, info, remaining, found, reads, rfl⟩

/-- The decoder inverts the assembler: a written form at an offset decodes to its instruction and
the offset after it, whatever stands before and after, and whatever decodes is a written form. -/
theorem decode_inverts_encodes :
    (∀ (before written after : List UInt8) (instruction : Instruction),
      Encodes before.length instruction written →
        decode (before ++ written ++ after) before.length =
          .ok (instruction, before.length + written.length)) ∧
    ∀ (code : List UInt8) (pc next : Nat) (instruction : Instruction),
      decode code pc = .ok (instruction, next) →
        next ≤ code.length ∧ Encodes pc instruction ((code.take next).drop pc) := by
  constructor
  · intro before written after instruction encodes
    refine decode_eq_ok_iff_encodes.mpr ⟨written, after, ?_, rfl, encodes⟩
    rw [List.append_assoc, List.drop_left]
  · intro code pc next instruction decoded
    refine ⟨(next_le_length_of_decode decoded).2, ?_⟩
    obtain ⟨written, rest, remaining, rfl, encodes⟩ := decode_eq_ok_iff_encodes.mp decoded
    rwa [List.drop_take, Nat.add_sub_cancel_left, remaining, List.take_left]

/-- A switch at an odd offset with padding that is not zero, and a branch back from the end. -/
theorem decode_inverts_encodes_switch_and_branch :
    (Encodes 1 (.tableSwitch 20 1 [30, -1])
        [0xaa, 7, 9, 0, 0, 0, 20, 0, 0, 0, 1, 0, 0, 0, 2, 0, 0, 0, 30, 0xff, 0xff, 0xff, 0xff] ∧
      decode
        ([0x00] ++ [0xaa, 7, 9, 0, 0, 0, 20, 0, 0, 0, 1, 0, 0, 0, 2, 0, 0, 0, 30, 0xff, 0xff, 0xff,
          0xff] ++ [0xb1]) 1 = .ok (.tableSwitch 20 1 [30, -1], 24)) ∧
    decode [0x00, 0x9b, 0xff, 0xfe] 1 = .ok (.branchInt .lt (-2), 4) ∧
      4 ≤ 4 ∧ Encodes 1 (.branchInt .lt (-2)) [0x9b, 0xff, 0xfe] := by
  have encodes : Encodes 1 (.tableSwitch 20 1 [30, -1]) [0xaa, 7, 9, 0, 0, 0, 20, 0, 0, 0, 1, 0, 0,
      0, 2, 0, 0, 0, 30, 0xff, 0xff, 0xff, 0xff] :=
    @Encodes.tableSwitch 1 [7, 9] 20 1 2 [30, -1] ⟨by decide, by decide⟩ (by decide)
  have decoded : decode [0x00, 0x9b, 0xff, 0xfe] 1 = .ok (.branchInt .lt (-2), 4) := by
    cbv
  exact ⟨⟨encodes, decode_inverts_encodes.1 [0x00] _ [0xb1] _ encodes⟩, decoded,
    decode_inverts_encodes.2 _ _ _ _ decoded⟩

end Instruction

end ClassMachine
