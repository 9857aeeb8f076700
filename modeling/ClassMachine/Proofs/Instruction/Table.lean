import ClassMachine.Proofs.Instruction.Encoding
import ClassMachine.Proofs.Instruction.Operands

set_option autoImplicit false

/-!
# The opcode table and the assembler

Every entry of the opcode table belongs to the written forms that begin with its opcode, and every
written form begins with an opcode whose entry is the right one. Both are statements about single
entries, so they are checked entry by entry; nothing here depends on the operands' bytes.
-/

namespace ClassMachine

open Instruction

/-- What the assembler makes of operands of this form begins with this opcode. -/
inductive Assembles : UInt8 → OperandForm → Prop where
  | plain {opcode : UInt8} {instruction : Instruction}
      (known : instruction.singleByte? = some opcode) : Assembles opcode (.plain instruction)
  | uint16 {opcode : UInt8} {build : UInt16 → Instruction}
      (known : ∀ operand, (build operand).twoByteOperand? = some (opcode, operand)) :
      Assembles opcode (.uint16 build)
  | int16 {opcode : UInt8} {build : Int16 → Instruction}
      (known : ∀ operand, (build operand).twoByteOperand? = some (opcode, operand.toUInt16)) :
      Assembles opcode (.int16 build)
  | byteLocal {opcode : UInt8} {build : UInt8 → Instruction}
      (known : ∀ index, (build index).localOperand? = some (opcode, index.toUInt16)) :
      Assembles opcode (.uint8 build)
  | pushByte : Assembles 0x10 (.int8 .pushByte)
  | loadConstant : Assembles 0x12 (.uint8 fun index => .loadConstant index.toUInt16)
  | increment : Assembles 0x84 .increment
  | goto : Assembles 0xa7 (.int16 fun offset => .goto offset.toInt32)
  | jumpSubroutine : Assembles 0xa8 (.int16 fun offset => .jumpSubroutine offset.toInt32)
  | tableSwitch : Assembles 0xaa .tableSwitch
  | lookupSwitch : Assembles 0xab .lookupSwitch
  | interfaceCall : Assembles 0xb9 .interfaceCall
  | dynamicCall : Assembles 0xba .dynamicCall
  | newArray : Assembles 0xbc (.uint8 .newArray)
  | wide : Assembles 0xc4 .wide
  | multiArray : Assembles 0xc5 .multiArray
  | wideGoto : Assembles 0xc8 (.int32 .goto)
  | wideJumpSubroutine : Assembles 0xc9 (.int32 .jumpSubroutine)

/-- Entries of the table from this opcode on have the forms that the assembler begins with it. -/
def AssembledFrom : Nat → List OpcodeInfo → Prop
  | _, [] => True
  | opcode, info :: others => Assembles (UInt8.ofNat opcode) info.form ∧
      AssembledFrom (opcode + 1) others

theorem AssembledFrom.append {opcode : Nat} {first second : List OpcodeInfo}
    (front : AssembledFrom opcode first) (back : AssembledFrom (opcode + first.length) second) :
    AssembledFrom opcode (first ++ second) := by
  induction first generalizing opcode with
  | nil => exact back
  | cons info others inductionHypothesis =>
    refine ⟨front.1, inductionHypothesis front.2 ?_⟩
    rwa [List.length_cons, Nat.add_comm others.length, ← Nat.add_assoc] at back

theorem AssembledFrom.get {opcode position : Nat} {entries : List OpcodeInfo} {info : OpcodeInfo}
    (assembled : AssembledFrom opcode entries) (found : entries[position]? = some info) :
    Assembles (UInt8.ofNat (opcode + position)) info.form := by
  induction entries generalizing opcode position with
  | nil => cases found
  | cons first others inductionHypothesis =>
    cases position with
    | zero =>
      cases found
      exact assembled.1
    | succ position =>
      rw [← Nat.add_assoc, Nat.add_right_comm]
      exact inductionHypothesis assembled.2 found

namespace OpcodeInfo

set_option maxRecDepth 2000 in
theorem assembledFrom_entries : AssembledFrom 0x00 entries := by
  have groups : AssembledFrom 0x00 constants ∧ AssembledFrom 0x15 loads ∧
      AssembledFrom 0x36 stores ∧ AssembledFrom 0x57 stackOperations ∧
      AssembledFrom 0x60 mathematics ∧ AssembledFrom 0x85 conversions ∧
      AssembledFrom 0x94 comparisons ∧ AssembledFrom 0xa7 control ∧
      AssembledFrom 0xb2 references ∧ AssembledFrom 0xc4 extended := by
    simp only [constants, loads, stores, stackOperations, mathematics, conversions, comparisons,
      control, references, extended, AssembledFrom]
    and_intros <;> first
      | exact .plain rfl
      | exact .byteLocal fun _ => rfl
      | exact .int16 fun _ => rfl
      | exact .uint16 fun _ => rfl
      | exact .loadConstant
      | exact .goto
      | exact .jumpSubroutine
      | exact .newArray
      | constructor
  obtain ⟨group0, group1, group2, group3, group4, group5, group6, group7, group8, group9⟩ := groups
  exact ((((((((group0.append group1).append group2).append group3).append group4).append
    group5).append group6).append group7).append group8).append group9

theorem assembles_of_ofOpcode? {opcode : UInt8} {info : OpcodeInfo}
    (found : ofOpcode? opcode = some info) : Assembles opcode info.form := by
  rcases getElem?_entries_of_ofOpcode? found with ⟨-, form_eq, rfl | rfl⟩ | inTable
  · exact form_eq ▸ .plain rfl
  · exact form_eq ▸ .plain rfl
  have assembles := assembledFrom_entries.get inTable
  rwa [Nat.zero_add, UInt8.ofNat_toNat] at assembles

section Lookup

-- Looking an opcode up walks through the table.
set_option maxRecDepth 4000

variable {instruction : Instruction} {opcode : UInt8}

theorem lt_four_cases {index : UInt16} (small : index < 4) :
    index = 0 ∨ index = 1 ∨ index = 2 ∨ index = 3 := by
  have bound : index.toNat < 4 := small
  simp only [← UInt16.toNat_inj]
  change index.toNat = 0 ∨ index.toNat = 1 ∨ index.toNat = 2 ∨ index.toNat = 3
  omega

theorem ofOpcode?_shortLoad (type : StorageType) {index : UInt16} (small : index < 4) :
    ∃ info, ofOpcode? (type.shortLoadOpcode index) = some info ∧
      info.form = .plain (.load type index) := by
  rcases lt_four_cases small with rfl | rfl | rfl | rfl <;> cases type <;> exact ⟨_, rfl, rfl⟩

theorem ofOpcode?_shortStore (type : StorageType) {index : UInt16} (small : index < 4) :
    ∃ info, ofOpcode? (type.shortStoreOpcode index) = some info ∧
      info.form = .plain (.store type index) := by
  rcases lt_four_cases small with rfl | rfl | rfl | rfl <;> cases type <;> exact ⟨_, rfl, rfl⟩

theorem ofOpcode?_of_singleByte? (known : instruction.singleByte? = some opcode) :
    ∃ info, ofOpcode? opcode = some info ∧ info.form = .plain instruction := by
  cases instruction <;> simp only [singleByte?, Option.ite_none_right_eq_some, Option.some.injEq,
    reduceCtorEq] at known
  case nop | compareLongs | returnVoid | arrayLength | throwReference | monitorEnter |
      monitorExit =>
    subst known
    exact ⟨_, rfl, rfl⟩
  case load type index =>
    obtain ⟨small, rfl⟩ := known
    exact ofOpcode?_shortLoad type small
  case store type index =>
    obtain ⟨small, rfl⟩ := known
    exact ofOpcode?_shortStore type small
  case arithmetic operation type =>
    subst known
    cases operation <;> cases type <;> exact ⟨_, rfl, rfl⟩
  case shift direction type =>
    subst known
    cases direction <;> cases type <;> exact ⟨_, rfl, rfl⟩
  case bitwise operation type =>
    subst known
    cases operation <;> cases type <;> exact ⟨_, rfl, rfl⟩
  case reserved kept =>
    obtain ⟨member, rfl⟩ := known
    simp only [List.mem_cons, List.not_mem_nil, or_false] at member
    rcases member with rfl | rfl | rfl <;> exact ⟨_, rfl, rfl⟩
  case literal kind | arrayLoad kind | arrayStore kind | stack kind | negate kind | convert kind |
      compareFloats kind | compareDoubles kind | returnValue kind =>
    subst known
    cases kind <;> exact ⟨_, rfl, rfl⟩

theorem ofOpcode?_of_twoByteOperand? {operand : UInt16}
    (known : instruction.twoByteOperand? = some (opcode, operand)) :
    ∃ info, ofOpcode? opcode = some info ∧
      ((∃ build, info.form = .uint16 build ∧ build operand = instruction) ∨
        ∃ build, info.form = .int16 build ∧ build operand.toInt16 = instruction) := by
  cases instruction <;> simp only [twoByteOperand?, Option.some.injEq, Prod.mk.injEq, reduceCtorEq,
    Option.map_eq_some_iff] at known
  case invoke kind index =>
    obtain ⟨_, found, rfl, rfl⟩ := known
    cases kind <;> cases found <;> exact ⟨_, rfl, .inl ⟨_, rfl, rfl⟩⟩
  case field access index =>
    obtain ⟨rfl, rfl⟩ := known
    cases access <;> exact ⟨_, rfl, .inl ⟨_, rfl, rfl⟩⟩
  case branchInt kind offset | branchInts kind offset | branchReferences kind offset |
      branchNull kind offset =>
    obtain ⟨rfl, rfl⟩ := known
    cases kind <;> exact ⟨_, rfl, .inr ⟨_, rfl, by rw [Int16.toInt16_toUInt16]⟩⟩
  case pushShort value =>
    obtain ⟨rfl, rfl⟩ := known
    exact ⟨_, rfl, .inr ⟨_, rfl, by rw [Int16.toInt16_toUInt16]⟩⟩
  all_goals
    obtain ⟨rfl, rfl⟩ := known
    exact ⟨_, rfl, .inl ⟨_, rfl, rfl⟩⟩

theorem ofOpcode?_of_localOperand? {index : UInt8}
    (known : instruction.localOperand? = some (opcode, index.toUInt16)) :
    ∃ info build, ofOpcode? opcode = some info ∧ info.form = .uint8 build ∧
      build index = instruction := by
  cases instruction <;> simp only [localOperand?, Option.some.injEq, Prod.mk.injEq, reduceCtorEq]
    at known
  case load type _ | store type _ =>
    obtain ⟨rfl, rfl⟩ := known
    cases type <;> exact ⟨_, _, rfl, rfl, rfl⟩
  case returnFromSubroutine =>
    obtain ⟨rfl, rfl⟩ := known
    exact ⟨_, _, rfl, rfl, rfl⟩

end Lookup

end OpcodeInfo
end ClassMachine
