import ClassMachine.Proofs.Constant.Reading

set_option autoImplicit false

/-!
# How constants fill a pool

Constants are read for as long as there are indices left, so what is read is known from the bytes
alone: the constants that they spell one after the other, up to the one that takes the last index.
Reading fails at the first constant that cannot be read, and at an eight-byte constant for which
only one index is left.
-/

namespace ClassMachine

open Reader Outcome

namespace Constant

/-- What can be wrong with the bytes of a constant, whatever pool it is in. -/
inductive IsDefect : DecodeError → Prop where
  | shortage (needed remaining : Nat) : IsDefect (.unexpectedEndOfInput needed remaining)
  | undefinedTag (tag : UInt8) : IsDefect (.undefinedConstantTag tag)
  | handleKind (code : UInt8) : IsDefect (.invalidHandleKind code)

instance raises_bytes (count : Nat) : Raises IsDefect (bytes count) where
  holds {before after error} failed := by
    by_cases enough : count ≤ before.remaining
    · rw [bytes_of_le enough] at failed
      cases failed
    · rw [bytes_of_lt (Nat.lt_of_not_le enough)] at failed
      cases failed
      exact .shortage count before.remaining

instance raises_number (width : Nat) : Raises IsDefect (number width) :=
  inferInstanceAs (Raises IsDefect (BigEndian.value <$> bytes width))

instance raises_uint8 : Raises IsDefect uint8 :=
  inferInstanceAs (Raises IsDefect (UInt8.ofNat <$> number 1))

instance raises_uint16 : Raises IsDefect uint16 :=
  inferInstanceAs (Raises IsDefect (UInt16.ofNat <$> number 2))

instance raises_uint32 : Raises IsDefect uint32 :=
  inferInstanceAs (Raises IsDefect (UInt32.ofNat <$> number 4))

instance raises_int32 : Raises IsDefect int32 :=
  inferInstanceAs (Raises IsDefect (UInt32.toInt32 <$> uint32))

instance raises_ofCode (code : UInt8) : Raises IsDefect (HandleKind.ofCode code) := by
  unfold HandleKind.ofCode
  split
  · infer_instance
  · exact raises_throw (.handleKind code)

instance raises_readMethodHandle : Raises IsDefect readMethodHandle :=
  inferInstanceAs (Raises IsDefect ((uint8 >>= HandleKind.ofCode) >>= fun kind =>
    uint16 >>= fun member => pure (Constant.methodHandle kind member)))

instance raises_readUtf8 : Raises IsDefect readUtf8 := by
  unfold readUtf8
  infer_instance

instance raises_readHalves : Raises IsDefect readHalves := by
  unfold readHalves
  infer_instance

instance raises_readPair (build : UInt16 → UInt16 → Constant) :
    Raises IsDefect (readPair build) := by
  unfold readPair
  infer_instance

instance raises_readTagged (tag : UInt8) : Raises IsDefect (readTagged tag) := by
  unfold readTagged
  split
  case h_18 => exact raises_throw (.undefinedTag tag)
  all_goals infer_instance

instance raises_read : Raises IsDefect read :=
  inferInstanceAs (Raises IsDefect (uint8 >>= readTagged))

end Constant

namespace ConstantPool

/-- The bytes are those of the constants, one after the other. -/
structure Spells (bytes : List UInt8) (constants : List Constant) : Prop where
  fit : ∀ constant ∈ constants, constant.Fits
  bytes_eq : bytes = constants.flatMap Constant.encode

theorem spells_nil : Spells [] [] := ⟨by simp, rfl⟩

theorem Spells.cons {bytes : List UInt8} {constant : Constant} {constants : List Constant}
    (fits : constant.Fits) (others : Spells bytes constants) :
    Spells (constant.encode ++ bytes) (constant :: constants) where
  fit := List.forall_mem_cons.mpr ⟨fits, others.fit⟩
  bytes_eq := by rw [others.bytes_eq, List.flatMap_cons]

theorem spells_cons_iff {bytes : List UInt8} {constant : Constant} {constants : List Constant} :
    Spells bytes (constant :: constants) ↔
      ∃ others, constant.Fits ∧ bytes = constant.encode ++ others ∧ Spells others constants := by
  constructor
  · rintro ⟨fit, rfl⟩
    obtain ⟨fits, others_fit⟩ := List.forall_mem_cons.mp fit
    exact ⟨_, fits, List.flatMap_cons, others_fit, rfl⟩
  · rintro ⟨others, fits, rfl, spells⟩
    exact spells.cons fits

theorem readConstants_succ (count : UInt16) (indices : Nat) :
    readConstants count (indices + 1) = Constant.read >>= fun constant =>
      if width constant ≤ indices + 1 then
        (constant :: ·) <$> readConstants count (indices + 1 - width constant)
      else throw (.invalidConstantPoolCount count) := by
  cases indices with
  | zero =>
    rw [readConstants]
    congr 1
    funext constant
    by_cases eightByte : constant.isEightByte
    · rw [if_pos eightByte, width_eq_two eightByte]
      rfl
    · rw [if_neg eightByte, width_eq_one eightByte]
      rfl
  | succ indices =>
    rw [readConstants]
    congr 1
    funext constant
    by_cases eightByte : constant.isEightByte
    · rw [if_pos eightByte, width_eq_two eightByte, if_pos (Nat.le_add_left ..)]
      rfl
    · rw [if_neg eightByte, width_eq_one eightByte, if_pos (Nat.le_add_left ..)]
      rfl

/-- How reading fails on what is left of the input when this many indices are left. -/
inductive FailsAt (count : UInt16) (indices : Nat) (input : List UInt8) (position : Nat) :
    DecodeError → Cursor → Prop where
  | unreadable {error : DecodeError} {cursor : Cursor} (wanted : 0 < indices)
      (failed : Constant.read ⟨input, position⟩ = .error error cursor) :
    FailsAt count indices input position error cursor
  /-- Only one index is left for an eight-byte constant. -/
  | overrun {constant : Constant} {rest : List UInt8} (last : indices = 1)
      (eightByte : constant.isEightByte) (input_eq : input = constant.encode ++ rest) :
    FailsAt count indices input position (.invalidConstantPoolCount count)
      ⟨rest, position + constant.encode.length⟩

section Failure

variable {count : UInt16} {indices position : Nat} {input : List UInt8} {error : DecodeError}
  {cursor : Cursor}

theorem fits_of_isEightByte {constant : Constant} (eightByte : constant.isEightByte) :
    constant.Fits := by
  cases constant <;> trivial

theorem readConstants_eq_error_step :
    readConstants count indices ⟨input, position⟩ = .error error cursor ↔
      FailsAt count indices input position error cursor ∨
        ∃ (constant : Constant) (rest : List UInt8) (left : Nat), constant.Fits ∧
          input = constant.encode ++ rest ∧ indices = width constant + left ∧
          readConstants count left ⟨rest, position + constant.encode.length⟩ =
            .error error cursor := by
  cases indices with
  | zero =>
    constructor
    · exact nofun
    · rintro (failed | ⟨constant, rest, left, -, -, none_left, -⟩)
      · cases failed with
        | unreadable wanted => cases wanted
        | overrun last => cases last
      · have taken := constant.width_pos
        omega
  | succ indices =>
    rw [readConstants_succ, bind_eq_error]
    constructor
    · rintro (failed | ⟨constant, ⟨rest, after⟩, read, failed⟩)
      · exact .inl (.unreadable (Nat.succ_pos indices) failed)
      · obtain ⟨fits, rfl, rfl⟩ := Inverts.eq_ok.mp read
        split at failed
        next enough =>
          exact .inr ⟨constant, rest, indices + 1 - width constant, fits, rfl, by omega,
            map_eq_error.mp failed⟩
        next wide =>
          have eightByte : constant.isEightByte := by
            by_contra single
            rw [width_eq_one single] at wide
            omega
          rw [width_eq_two eightByte] at wide
          cases failed
          exact .inl (.overrun (by omega) eightByte rfl)
    · rintro (failed | ⟨constant, rest, left, fits, rfl, indices_eq, failed⟩)
      · cases failed with
        | unreadable wanted failed => exact .inl failed
        | @overrun constant rest last eightByte input_eq =>
          refine .inr ⟨constant, ⟨rest, position + constant.encode.length⟩, ?_, ?_⟩
          · exact Inverts.eq_ok.mpr ⟨fits_of_isEightByte eightByte, input_eq, rfl⟩
          · rw [width_eq_two eightByte, if_neg (by omega)]
            rfl
      · refine .inr ⟨constant, ⟨rest, position + constant.encode.length⟩, ?_, ?_⟩
        · exact Inverts.eq_ok.mpr ⟨fits, rfl, rfl⟩
        · rw [indices_eq, if_pos (Nat.le_add_right ..), Nat.add_sub_cancel_left]
          exact map_eq_error.mpr failed

theorem readConstants_eq_error :
    readConstants count indices ⟨input, position⟩ = .error error cursor ↔
      ∃ bytes constants remaining left, Spells bytes constants ∧ input = bytes ++ remaining ∧
        indices = totalWidth constants + left ∧
        FailsAt count left remaining (position + bytes.length) error cursor := by
  -- Every constant takes an index, so fewer are left for the constants after it.
  induction indices using Nat.strong_induction_on generalizing input position with
  | _ indices inductionHypothesis =>
    constructor
    · intro failed
      rcases readConstants_eq_error_step.mp failed with here |
        ⟨constant, rest, left, fits, rfl, rfl, later⟩
      · exact ⟨[], [], input, indices, spells_nil, rfl, (Nat.zero_add _).symm, here⟩
      · have fewer : left < width constant + left := Nat.lt_add_of_pos_left constant.width_pos
        obtain ⟨bytes, constants, remaining, left, spells, rfl, rfl, stops⟩ :=
          (inductionHypothesis left fewer).mp later
        refine ⟨constant.encode ++ bytes, constant :: constants, remaining, left,
          spells.cons fits, (List.append_assoc ..).symm, (Nat.add_assoc ..).symm, ?_⟩
        rwa [List.length_append, ← Nat.add_assoc]
    · rintro ⟨bytes, constants, remaining, left, spells, rfl, rfl, stops⟩
      rw [readConstants_eq_error_step]
      cases constants with
      | nil =>
        obtain rfl := spells.bytes_eq
        rw [totalWidth_nil, Nat.zero_add]
        exact .inl stops
      | cons constant constants =>
        obtain ⟨others, fits, rfl, others_spell⟩ := spells_cons_iff.mp spells
        have fewer : totalWidth constants + left < totalWidth (constant :: constants) + left := by
          have taken := constant.width_pos
          rw [totalWidth_cons]
          omega
        refine .inr ⟨constant, others ++ remaining, totalWidth constants + left, fits,
          List.append_assoc .., Nat.add_assoc .., ?_⟩
        refine (inductionHypothesis _ fewer).mpr
          ⟨others, constants, remaining, left, others_spell, rfl, rfl, ?_⟩
        rwa [Nat.add_assoc, ← List.length_append]

end Failure

theorem count_ofList (constants : List Constant) :
    (ofList constants).count = UInt16.ofNat (1 + totalWidth constants) := by
  rw [count, ofList, SlotVector.next_ofList]

section Read

variable {count : UInt16} {position after : Nat} {input rest : List UInt8} {pool : ConstantPool}
  {error : DecodeError} {cursor : Cursor}

theorem read_of_zero (zero : count = 0) :
    read ⟨word count ++ input, position⟩ =
      .error (.invalidConstantPoolCount count) ⟨input, position + 2⟩ := by
  rw [read, bind_of_ok (reads_uint16.mpr rfl input position), if_pos zero]
  rfl

theorem read_of_ne_zero (nonzero : count ≠ 0) :
    read ⟨word count ++ input, position⟩ =
      (ofList <$> readConstants count (count.toNat - 1)) ⟨input, position + 2⟩ := by
  rw [read, bind_of_ok (reads_uint16.mpr rfl input position), if_neg nonzero]
  rfl

theorem read_eq_ok :
    read ⟨word count ++ input, position⟩ = .ok pool ⟨rest, after⟩ ↔
      count ≠ 0 ∧ ∃ bytes, input = bytes ++ rest ∧ after = position + (2 + bytes.length) ∧
        Spells bytes pool.toList ∧ totalWidth pool.toList = count.toNat - 1 := by
  by_cases zero : count = 0
  · rw [read_of_zero zero]
    exact ⟨nofun, fun ⟨nonzero, _⟩ => absurd zero nonzero⟩
  · rw [read_of_ne_zero zero, map_eq_ok]
    constructor
    · rintro ⟨constants, filled, rfl⟩
      obtain ⟨⟨all_taken, fit⟩, rfl, rfl⟩ := Inverts.eq_ok.mp filled
      rw [toList_ofList]
      exact ⟨zero, _, rfl, Nat.add_assoc .., ⟨fit, rfl⟩, all_taken⟩
    · rintro ⟨-, _, rfl, rfl, ⟨fit, rfl⟩, all_taken⟩
      refine ⟨pool.toList, Inverts.eq_ok.mpr ⟨⟨all_taken, fit⟩, rfl, ?_⟩, ofList_toList pool⟩
      exact (Nat.add_assoc ..).symm

theorem read_eq_error :
    read ⟨word count ++ input, position⟩ = .error error cursor ↔
      (count = 0 ∧ error = .invalidConstantPoolCount count ∧ cursor = ⟨input, position + 2⟩) ∨
        ∃ bytes constants remaining left, input = bytes ++ remaining ∧ Spells bytes constants ∧
          count.toNat = 1 + (totalWidth constants + left) ∧
            FailsAt count left remaining (position + (2 + bytes.length)) error cursor := by
  by_cases zero : count = 0
  · rw [read_of_zero zero]
    constructor
    · rintro ⟨⟩
      exact .inl ⟨zero, rfl, rfl⟩
    · rintro (⟨-, rfl, rfl⟩ | ⟨_, _, _, _, -, -, count_eq, -⟩)
      · rfl
      · rw [zero, UInt16.toNat_zero] at count_eq
        omega
  · have positive : count.toNat ≠ 0 := fun none => zero (UInt16.toNat_inj.mp none)
    rw [read_of_ne_zero zero, map_eq_error, readConstants_eq_error]
    constructor
    · rintro ⟨bytes, constants, remaining, left, spells, rfl, count_eq, stops⟩
      rw [Nat.add_assoc] at stops
      exact .inr ⟨bytes, constants, remaining, left, rfl, spells, by omega, stops⟩
    · rintro (⟨zero', -⟩ | ⟨bytes, constants, remaining, left, rfl, spells, count_eq, stops⟩)
      · exact absurd zero' zero
      · rw [← Nat.add_assoc] at stops
        exact ⟨bytes, constants, remaining, left, spells, rfl, by omega, stops⟩

theorem count_of_read (read_pool : read ⟨word count ++ input, position⟩ = .ok pool cursor) :
    pool.count = count := by
  obtain ⟨nonzero, _, -, -, -, all_taken⟩ := read_eq_ok.mp read_pool
  have positive : count.toNat ≠ 0 := fun none => nonzero (UInt16.toNat_inj.mp none)
  have count_eq : 1 + totalWidth pool.toList = count.toNat := by omega
  rw [← ofList_toList pool, count_ofList, count_eq, UInt16.ofNat_toNat]

theorem read_eq_invalidCount :
    (∃ cursor, read ⟨word count ++ input, position⟩ =
        .error (.invalidConstantPoolCount count) cursor) ↔
      count = 0 ∨ ∃ bytes constants remaining eightByte cursor, input = bytes ++ remaining ∧
        Spells bytes constants ∧ totalWidth constants + 2 = count.toNat ∧ eightByte.isEightByte ∧
          Constant.read ⟨remaining, position + (2 + bytes.length)⟩ = .ok eightByte cursor := by
  constructor
  · rintro ⟨cursor, refused⟩
    rcases read_eq_error.mp refused with
      ⟨zero, -, -⟩ | ⟨bytes, constants, remaining, left, rfl, spells, count_eq, stops⟩
    · exact .inl zero
    · cases stops with
      | unreadable wanted failed => exact nomatch (Raises.holds failed : Constant.IsDefect _)
      | @overrun eightByte rest last wide input_eq =>
        have read : Constant.read ⟨remaining, position + (2 + bytes.length)⟩ =
            .ok eightByte ⟨rest, position + (2 + bytes.length) + eightByte.encode.length⟩ :=
          Inverts.eq_ok.mpr ⟨fits_of_isEightByte wide, input_eq, rfl⟩
        exact .inr ⟨bytes, constants, remaining, eightByte, _, rfl, spells, by omega, wide, read⟩
  · rintro (zero | ⟨bytes, constants, remaining, eightByte, ⟨rest, after⟩, rfl, spells, count_eq,
      wide, read⟩)
    · exact ⟨_, read_of_zero zero⟩
    · obtain ⟨-, rfl, rfl⟩ := Inverts.eq_ok.mp read
      have stops : FailsAt count 1 (eightByte.encode ++ rest) (position + (2 + bytes.length))
          (.invalidConstantPoolCount count)
            ⟨rest, position + (2 + bytes.length) + eightByte.encode.length⟩ :=
        .overrun rfl wide rfl
      exact ⟨_, read_eq_error.mpr (.inr ⟨bytes, constants, _, 1, rfl, spells, by omega, stops⟩)⟩

/-- One index is all there is, and the constant takes two. -/
example : read ⟨word 2 ++ (Constant.long 42).encode, 0⟩ =
    .error (.invalidConstantPoolCount 2) ⟨[], 11⟩ := rfl

theorem read_eq_unreadable (other : error ≠ .invalidConstantPoolCount count) :
    read ⟨word count ++ input, position⟩ = .error error cursor ↔
      ∃ bytes constants remaining, input = bytes ++ remaining ∧ Spells bytes constants ∧
        totalWidth constants + 1 < count.toNat ∧
          Constant.read ⟨remaining, position + (2 + bytes.length)⟩ = .error error cursor := by
  constructor
  · intro failed
    rcases read_eq_error.mp failed with
      ⟨-, refused, -⟩ | ⟨bytes, constants, remaining, left, rfl, spells, count_eq, stops⟩
    · exact absurd refused other
    · cases stops with
      | unreadable wanted failed =>
        exact ⟨bytes, constants, remaining, rfl, spells, by omega, failed⟩
      | overrun => exact absurd rfl other
  · rintro ⟨bytes, constants, remaining, rfl, spells, unfilled, failed⟩
    refine read_eq_error.mpr (.inr ⟨bytes, constants, remaining,
      count.toNat - 1 - totalWidth constants, rfl, spells, by omega, ?_⟩)
    exact .unreadable (by omega) failed

end Read

/-- What is read after a count is a pool whose constants are spelled there one after the other and
take exactly the indices below the count. The count is refused if it is zero, or if an eight-byte
constant comes when only its last index is left. In all other cases reading fails in the way in
which reading the first unreadable constant does. -/
theorem read_exact (count : UInt16) (input : List UInt8) (position : Nat) :
    (∀ pool rest after, read ⟨word count ++ input, position⟩ = .ok pool ⟨rest, after⟩ ↔
      count ≠ 0 ∧ ∃ bytes, input = bytes ++ rest ∧ after = position + (2 + bytes.length) ∧
        Spells bytes pool.toList ∧ totalWidth pool.toList = count.toNat - 1) ∧
    (∀ pool cursor, read ⟨word count ++ input, position⟩ = .ok pool cursor → pool.count = count) ∧
    ((∃ cursor, read ⟨word count ++ input, position⟩ =
        .error (.invalidConstantPoolCount count) cursor) ↔
      count = 0 ∨ ∃ bytes constants remaining eightByte cursor, input = bytes ++ remaining ∧
        Spells bytes constants ∧ totalWidth constants + 2 = count.toNat ∧ eightByte.isEightByte ∧
          Constant.read ⟨remaining, position + (2 + bytes.length)⟩ = .ok eightByte cursor) ∧
    ∀ error cursor, error ≠ .invalidConstantPoolCount count →
      (read ⟨word count ++ input, position⟩ = .error error cursor ↔
        ∃ bytes constants remaining, input = bytes ++ remaining ∧ Spells bytes constants ∧
          totalWidth constants + 1 < count.toNat ∧
            Constant.read ⟨remaining, position + (2 + bytes.length)⟩ = .error error cursor) :=
  ⟨fun _ _ _ => read_eq_ok, fun _ _ => count_of_read, read_eq_invalidCount,
    fun _ _ => read_eq_unreadable⟩

end ConstantPool

end ClassMachine
