import ClassMachine.Proofs.Binary.Shortage
import ClassMachine.Proofs.Instruction.Operands

set_option autoImplicit false

/-!
# Instructions stand on their own

What is decoded at an offset depends on the bytes up to the next offset and, for the padding of a
switch, on the offset modulo four. A part of these bytes is no instruction. Every instruction takes
at least its opcode, so decoding one after the other gets to the end of the code or to an error, and
what was decoded until then lies side by side.
-/

namespace ClassMachine

open OperandReader

namespace Fault

/-- The code ended inside an instruction. -/
def IsTruncation (fault : Fault) : Prop := fault = .truncatedInstruction

end Fault

instance runsShort_ofReader {α : Type} (reader : Reader α)
    [RunsShort DecodeError.IsShortage reader] :
    RunsShort Fault.IsTruncation (ofReader reader) where
  error_of_cut reads nonempty position := by
    obtain ⟨error, cursor, failed, shortage⟩ : ∃ error cursor,
        reader ⟨_, position⟩ = .error error cursor ∧ error.IsShortage :=
      RunsShort.error_of_cut (reads_ofReader.mp reads) nonempty position
    obtain ⟨needed, remaining, error_eq, -⟩ := shortage
    subst error_eq
    refine ⟨.truncatedInstruction, cursor, ?_, rfl⟩
    simp only [ofReader, failed, faultOf]

namespace Instruction

variable {pc : Nat} {instruction : Instruction} {code : List UInt8} {next : Nat}

instance failsFast_readCase : FailsFast readCase := by
  unfold readCase
  infer_instance

instance runsShort_readWideOperands (opcode : UInt8) :
    RunsShort Fault.IsTruncation (readWideOperands opcode) := by
  unfold readWideOperands
  split <;> infer_instance

section Switches

-- The readers of switches are the longest chains of reads.
set_option synthInstance.maxSize 256

instance runsShort_readTableSwitch : RunsShort Fault.IsTruncation (readTableSwitch pc) := by
  unfold readTableSwitch
  infer_instance

instance runsShort_readLookupSwitch : RunsShort Fault.IsTruncation (readLookupSwitch pc) := by
  unfold readLookupSwitch
  infer_instance

end Switches

instance runsShort_readOperands (form : OperandForm) :
    RunsShort Fault.IsTruncation (readOperands pc form) := by
  cases form <;> unfold readOperands
  case increment =>
    unfold readIncrement
    infer_instance
  case interfaceCall =>
    unfold readInterfaceCall
    infer_instance
  case dynamicCall =>
    unfold readDynamicCall
    infer_instance
  case multiArray =>
    unfold readMultiArray
    infer_instance
  case wide =>
    unfold readWide
    infer_instance
  all_goals infer_instance

/-- The position of an instruction matters for the padding of switches only, and for that up to
multiples of four. -/
theorem readOperands_congr {other : Nat} (same : other % 4 = pc % 4) (form : OperandForm) :
    readOperands other form = readOperands pc form := by
  have padding_eq : switchPadding other = switchPadding pc := by
    unfold switchPadding
    omega
  cases form <;> simp only [readOperands, readTableSwitch, readLookupSwitch, padding_eq]

theorem take_drop_of_decode {opcode : UInt8} {operands rest : List UInt8}
    (remaining : code.drop pc = opcode :: operands ++ rest)
    (next_eq : next = pc + (opcode :: operands).length) :
    (code.drop pc).take (next - pc) = opcode :: operands := by
  rw [next_eq, Nat.add_sub_cancel_left, remaining, List.take_left]

theorem decode_elsewhere (decoded : decode code pc = .ok (instruction, next))
    {other : List UInt8} {start : Nat} (same : start % 4 = pc % 4)
    (bytes_eq : (other.drop start).take (next - pc) = (code.drop pc).take (next - pc)) :
    decode other start = .ok (instruction, start + (next - pc)) := by
  obtain ⟨opcode, operands, rest, info, remaining, found, reads, next_eq⟩ :=
    decode_eq_ok.mp decoded
  rw [take_drop_of_decode remaining next_eq] at bytes_eq
  apply decode_eq_ok.mpr
  refine ⟨opcode, operands, (other.drop start).drop (next - pc), info, ?_, found, ?_, ?_⟩
  · rw [← bytes_eq, List.take_append_drop]
  · rwa [readOperands_congr same]
  · rw [next_eq, Nat.add_sub_cancel_left]

theorem decode_cut_off (decoded : decode code pc = .ok (instruction, next)) {cut : Nat}
    (after_start : pc < cut) (before_end : cut < next) :
    decode (code.take cut) pc = .error .truncatedInstruction := by
  obtain ⟨opcode, operands, rest, info, remaining, found, reads, next_eq⟩ :=
    decode_eq_ok.mp decoded
  obtain ⟨size, rfl⟩ : ∃ size, cut = pc + size + 1 := ⟨cut - pc - 1, by omega⟩
  have short : size < operands.length := by
    rw [next_eq, List.length_cons] at before_end
    omega
  have left : (code.take (pc + size + 1)).drop pc = opcode :: operands.take size := by
    have kept : pc + size + 1 - pc = size + 1 := by omega
    rw [List.drop_take, kept, remaining, List.cons_append, List.take_succ_cons,
      List.take_append_of_le_length (Nat.le_of_lt short)]
  have missing_ne_nil : operands.drop size ≠ [] := by
    simpa using short
  obtain ⟨fault, cursor, failed, truncated⟩ : ∃ fault cursor,
      readOperands pc info.form ⟨operands.take size, 0⟩ = .error fault cursor ∧
        fault.IsTruncation := by
    rw [← List.take_append_drop size operands] at reads
    exact RunsShort.error_of_cut reads missing_ne_nil 0
  simp only [decode, left, found, Cursor.ofBytes, failed]
  rw [truncated]

/-- An instruction that was decoded depends on its own bytes, and on all of them. -/
structure StandsAlone (code : List UInt8) (pc : Nat) (instruction : Instruction) (next : Nat) :
    Prop where
  progress : pc < next
  inside : next ≤ code.length
  /-- The operands were read up to the next offset, also where the opcode table tells it. -/
  consumed : ∃ opcode operands info cursor, code.drop pc = opcode :: operands ∧
    OpcodeInfo.ofOpcode? opcode = some info ∧
    readOperands pc info.form (.ofBytes operands) = .ok instruction cursor ∧
    next = pc + 1 + cursor.position
  elsewhere : ∀ (other : List UInt8) (start : Nat), start % 4 = pc % 4 →
    (other.drop start).take (next - pc) = (code.drop pc).take (next - pc) →
      decode other start = .ok (instruction, start + (next - pc))
  cut_off : ∀ cut, pc < cut → cut < next →
    decode (code.take cut) pc = .error .truncatedInstruction

theorem standsAlone_of_decode (decoded : decode code pc = .ok (instruction, next)) :
    StandsAlone code pc instruction next where
  progress := (next_le_length_of_decode decoded).1
  inside := (next_le_length_of_decode decoded).2
  consumed := by
    obtain ⟨opcode, operands, rest, info, remaining, found, reads, next_eq⟩ :=
      decode_eq_ok.mp decoded
    refine ⟨opcode, operands ++ rest, info, _, remaining, found, reads rest 0, ?_⟩
    rw [next_eq, List.length_cons]
    dsimp only
    omega
  elsewhere _ _ := decode_elsewhere decoded
  cut_off _ := decode_cut_off decoded

/-- An instruction with the offset at which it begins and the one after it. -/
structure Placed where
  start : Nat
  instruction : Instruction
  next : Nat

namespace Placed

def bytes (code : List UInt8) (placed : Placed) : List UInt8 :=
  (code.take placed.next).drop placed.start

def outcome (placed : Placed) : Nat × Except Fault (Instruction × Nat) :=
  (placed.start, .ok (placed.instruction, placed.next))

end Placed

/-- These instructions are decoded from an offset on, each where the one before it ended, and the
last one ends at the other offset. -/
inductive Tiles (code : List UInt8) : Nat → List Placed → Nat → Prop where
  | nil (pc : Nat) : Tiles code pc [] pc
  | cons {pc next stop : Nat} {instruction : Instruction} {others : List Placed}
      (decoded : decode code pc = .ok (instruction, next)) (rest : Tiles code next others stop) :
      Tiles code pc (⟨pc, instruction, next⟩ :: others) stop

/-- How a sweep ends that got to this offset. -/
inductive SweepEnds (code : List UInt8) (stop : Nat) :
    List (Nat × Except Fault (Instruction × Nat)) → Prop where
  | finished (at_end : stop = code.length) : SweepEnds code stop []
  | failed {fault : Fault} (failed : decode code stop = .error fault) :
      SweepEnds code stop [(stop, .error fault)]

section Tiles

variable {placed : List Placed} {stop : Nat}

theorem Tiles.length_le (tiles : Tiles code pc placed stop) : pc + placed.length ≤ stop := by
  induction tiles with
  | nil pc => simp
  | cons decoded rest inductionHypothesis =>
    have progress := (next_le_length_of_decode decoded).1
    rw [List.length_cons]
    omega

theorem Tiles.stop_le (tiles : Tiles code pc placed stop) (inside : pc ≤ code.length) :
    stop ≤ code.length := by
  induction tiles with
  | nil pc => exact inside
  | cons decoded rest inductionHypothesis =>
    exact inductionHypothesis (next_le_length_of_decode decoded).2

theorem Tiles.flatMap_bytes (tiles : Tiles code pc placed stop) :
    placed.flatMap (Placed.bytes code) = (code.take stop).drop pc := by
  induction tiles with
  | nil pc => simp
  | @cons pc next stop instruction others decoded rest inductionHypothesis =>
    have progress := (next_le_length_of_decode decoded).1
    have before_stop := rest.length_le
    have front : (code.take next).drop pc = ((code.take stop).drop pc).take (next - pc) := by
      rw [List.take_drop, Nat.add_sub_cancel' (Nat.le_of_lt progress), List.take_take,
        Nat.min_eq_left (by omega)]
    have back : (code.take stop).drop next = ((code.take stop).drop pc).drop (next - pc) := by
      rw [List.drop_drop, Nat.add_sub_cancel' (Nat.le_of_lt progress)]
    rw [List.flatMap_cons, inductionHypothesis, Placed.bytes, front, back, List.take_append_drop]

/-- A sweep makes progress with every instruction, so a limit of as many instructions as there are
bytes left is never what ends it. -/
theorem exists_sweep_eq (limit : Nat) (inside : pc ≤ code.length)
    (enough : code.length ≤ pc + limit) :
    ∃ placed stop ending, Tiles code pc placed stop ∧ SweepEnds code stop ending ∧
      sweep code limit pc = placed.map Placed.outcome ++ ending := by
  induction limit generalizing pc with
  | zero =>
    have at_end : pc = code.length := by omega
    exact ⟨[], pc, [], .nil pc, .finished at_end, by simp [sweep]⟩
  | succ limit inductionHypothesis =>
    unfold sweep
    cases decoded : decode code pc with
    | error fault => exact ⟨[], pc, _, .nil pc, .failed decoded, by simp⟩
    | ok result =>
      obtain ⟨instruction, next⟩ := result
      have progress := next_le_length_of_decode decoded
      by_cases at_end : next = code.length
      · refine ⟨[⟨pc, instruction, next⟩], next, [], .cons decoded (.nil next),
          .finished at_end, ?_⟩
        simp [at_end, Placed.outcome]
      · obtain ⟨others, stop, ending, tiles, ends, sweep_eq⟩ :=
          inductionHypothesis progress.2 (by omega)
        refine ⟨⟨pc, instruction, next⟩ :: others, stop, ending, .cons decoded tiles, ends, ?_⟩
        simp [at_end, sweep_eq, Placed.outcome]

end Tiles

/-- An instruction that is decoded ends inside the code where its operands end. It is decoded from
the same bytes in any other code at an offset that is the same modulo four, and from no part of
them. Decoding one instruction after the other from the start of any code therefore comes to the end
of the code or to an error, after at most as many instructions as the code has bytes, and the
instructions until then lie side by side. -/
theorem decode_local_and_sweep_tiles :
    (∀ code pc instruction next, decode code pc = .ok (instruction, next) →
      StandsAlone code pc instruction next) ∧
    ∀ (code : List UInt8) (limit : Nat), code.length ≤ limit → ∃ placed stop ending,
      Tiles code 0 placed stop ∧ stop ≤ code.length ∧ placed.length ≤ code.length ∧
        placed.flatMap (Placed.bytes code) = code.take stop ∧ SweepEnds code stop ending ∧
          sweep code limit 0 = placed.map Placed.outcome ++ ending := by
  refine ⟨fun _ _ _ _ => standsAlone_of_decode, fun code limit enough => ?_⟩
  obtain ⟨placed, stop, ending, tiles, ends, sweep_eq⟩ :=
    exists_sweep_eq limit (Nat.zero_le code.length) (by omega)
  have stop_le := tiles.stop_le (Nat.zero_le code.length)
  have count_le := tiles.length_le
  refine ⟨placed, stop, ending, tiles, stop_le, by omega, ?_, ends, sweep_eq⟩
  rw [tiles.flatMap_bytes, List.drop_zero]

/-- A table at an odd offset, after an instruction of one byte. -/
def tableAtOne : List UInt8 :=
  [0x00, 0xaa, 7, 9, 0, 0, 0, 20, 0, 0, 0, 1, 0, 0, 0, 2, 0, 0, 0, 30, 0xff, 0xff, 0xff, 0xff]

/-- The table is decoded four bytes further on too, and not without the last byte of its padding. -/
theorem decode_local_and_sweep_tiles_table :
    decode tableAtOne 1 = .ok (.tableSwitch 20 1 [30, -1], 24) ∧
      decode ([1, 2, 3, 4] ++ tableAtOne) 5 = .ok (.tableSwitch 20 1 [30, -1], 28) ∧
      decode (tableAtOne.take 3) 1 = .error .truncatedInstruction ∧
      ∃ placed stop ending, Tiles tableAtOne 0 placed stop ∧ SweepEnds tableAtOne stop ending ∧
        sweep tableAtOne 24 0 = placed.map Placed.outcome ++ ending := by
  have decoded : decode tableAtOne 1 = .ok (.tableSwitch 20 1 [30, -1], 24) := by
    cbv
  have alone := decode_local_and_sweep_tiles.1 tableAtOne 1 _ 24 decoded
  obtain ⟨placed, stop, ending, tiles, -, -, -, ends, sweep_eq⟩ :=
    decode_local_and_sweep_tiles.2 tableAtOne 24 (by decide)
  exact ⟨decoded, alone.elsewhere _ 5 (by decide) (by decide),
    alone.cut_off 3 (by decide) (by decide), placed, stop, ending, tiles, ends, sweep_eq⟩

end Instruction
end ClassMachine
