import ClassMachine.Proofs.Binary.Shortage
import ClassMachine.Proofs.ClassFile.Reading

set_option autoImplicit false

/-!
# Parts of class files and class files with more behind them

A class file is no part of another one: what is left of it when bytes are cut off at its end cannot
be parsed, because bytes are missing, and neither can it be parsed when bytes are added, because they
are left over. Any other flaw is found from the bytes up to it, so it is found whatever comes after.
-/

namespace ClassMachine

open Reader

namespace HandleKind

instance failsFast_ofCode (code : UInt8) : FailsFast (ofCode code) := by
  unfold ofCode
  split <;> infer_instance

instance failsFast_read : FailsFast read := inferInstanceAs (FailsFast (uint8 >>= ofCode))

end HandleKind

namespace Constant

instance failsFast_readUtf8 : FailsFast readUtf8 := by
  unfold readUtf8
  infer_instance

instance failsFast_readHalves : FailsFast readHalves := by
  unfold readHalves
  infer_instance

instance failsFast_readPair (build : UInt16 → UInt16 → Constant) : FailsFast (readPair build) := by
  unfold readPair
  infer_instance

instance failsFast_readMethodHandle : FailsFast readMethodHandle := by
  unfold readMethodHandle
  infer_instance

instance failsFast_readTagged (tag : UInt8) : FailsFast (readTagged tag) := by
  unfold readTagged
  split <;> infer_instance

instance failsFast_read : FailsFast read := inferInstanceAs (FailsFast (uint8 >>= readTagged))

end Constant

namespace ConstantPool

instance failsFast_readConstants (count : UInt16) (indices : Nat) :
    FailsFast (readConstants count indices) := by
  induction indices using readConstants.induct with
  | case1 => exact failsFast_pure []
  | case2 =>
    unfold readConstants
    infer_instance
  | case3 indices afterEightByte afterSingle =>
    unfold readConstants
    infer_instance

instance failsFast_read : FailsFast read := by
  unfold read
  infer_instance

end ConstantPool

namespace Attribute

instance failsFast_read : FailsFast read := by
  unfold read
  infer_instance

end Attribute

namespace Version

instance failsFast_read : FailsFast read := by
  unfold read
  infer_instance

end Version

namespace Member

variable {owner : FlagOwner}

instance failsFast_readFlags : FailsFast (AccessFlags.read owner) :=
  inferInstanceAs (FailsFast (AccessFlags.ofMask owner <$> uint16))

instance failsFast_read : FailsFast (read owner) := by
  unfold read
  infer_instance

end Member

namespace ClassFile

instance failsFast_readPreamble : FailsFast Preamble.read := by
  unfold Preamble.read
  infer_instance

-- The search for an instance goes through seven reads in a row.
set_option synthInstance.maxSize 512 in
instance failsFast_readRest (preamble : Preamble) : FailsFast preamble.readRest := by
  unfold Preamble.readRest
  infer_instance

instance failsFast_read : FailsFast read := by
  unfold read
  infer_instance

section Parse

variable {bytes : List UInt8}

theorem parse_append {classFile : ClassFile} (reads : Reads read bytes classFile)
    {more : List UInt8} (nonempty : more ≠ []) :
    parse (bytes ++ more) = .error (.trailingBytes more.length) := by
  have leftover : (Cursor.mk more (0 + bytes.length)).isEmpty = false := by
    simpa [Cursor.isEmpty] using nonempty
  unfold parse
  rw [Cursor.ofBytes, reads more 0]
  simp only [Cursor.finish, leftover]
  rfl

theorem parse_eq_error {error : DecodeError} :
    parse bytes = .error error ↔
      (∃ cursor, read ⟨bytes, 0⟩ = .error error cursor) ∨
        ∃ taken leftover classFile, bytes = taken ++ leftover ∧ leftover ≠ [] ∧
          Reads read taken classFile ∧ error = .trailingBytes leftover.length := by
  constructor
  · intro failed
    unfold parse at failed
    split at failed
    next reason cursor outcome =>
      cases failed
      exact .inl ⟨cursor, outcome⟩
    next classFile cursor outcome =>
      obtain ⟨leftover, position⟩ := cursor
      obtain ⟨taken, bytes_eq, -, reads⟩ := Local.reads_of_ok outcome
      refine .inr ⟨taken, leftover, classFile, bytes_eq, ?_, reads, ?_⟩
      · rintro rfl
        cases failed
      · unfold Cursor.finish at failed
        split at failed
        next => cases failed
        next =>
          cases failed
          rfl
  · rintro (⟨cursor, failed⟩ | ⟨taken, leftover, classFile, rfl, nonempty, reads, rfl⟩)
    · unfold parse
      rw [Cursor.ofBytes, failed]
    · exact parse_append reads nonempty

theorem parse_of_cut_off {classFile : ClassFile} {taken missing : List UInt8}
    (reads : Reads read (taken ++ missing) classFile) (nonempty : missing ≠ []) :
    ∃ needed remaining, parse taken = .error (.unexpectedEndOfInput needed remaining) ∧
      remaining < needed := by
  obtain ⟨_, cursor, failed, needed, remaining, rfl, short⟩ :=
    FailsFast.short_of_reads reads nonempty 0
  exact ⟨needed, remaining, parse_eq_error.mpr (.inl ⟨cursor, failed⟩), short⟩

end Parse

/-- A class file stays none when bytes are cut off at its end or added to it: they are missing or
left over, exactly as many as there are. Bytes that were left over stay so with more behind them, and
any other flaw is found again, unless it is that bytes are missing. -/
theorem parse_prefix_free (bytes more : List UInt8) :
    (∀ classFile, parse bytes = .ok classFile →
      (more ≠ [] → parse (bytes ++ more) = .error (.trailingBytes more.length)) ∧
      ∀ taken missing, bytes = taken ++ missing → missing ≠ [] →
        ∃ needed remaining, parse taken = .error (.unexpectedEndOfInput needed remaining) ∧
          remaining < needed) ∧
    (∀ count, parse bytes = .error (.trailingBytes count) →
      (∃ taken leftover classFile, bytes = taken ++ leftover ∧ leftover.length = count ∧
        parse taken = .ok classFile) ∧
      parse (bytes ++ more) = .error (.trailingBytes (count + more.length))) ∧
    ∀ error, parse bytes = .error error →
      (∀ needed remaining, error ≠ .unexpectedEndOfInput needed remaining) →
      (∀ count, error ≠ .trailingBytes count) → parse (bytes ++ more) = .error error := by
  refine ⟨?_, ?_, ?_⟩
  · intro classFile parsed
    have reads := parse_eq_ok.mp parsed
    refine ⟨parse_append reads, ?_⟩
    rintro taken missing rfl nonempty
    exact parse_of_cut_off reads nonempty
  · intro count failed
    rcases parse_eq_error.mp failed with
      ⟨cursor, reading_failed⟩ | ⟨taken, leftover, classFile, rfl, nonempty, reads, same⟩
    · exact absurd rfl (FailsFast.ne_trailingBytes reading_failed count)
    · obtain rfl := DecodeError.trailingBytes.inj same
      refine ⟨⟨taken, leftover, classFile, rfl, rfl, parse_eq_ok.mpr reads⟩, ?_⟩
      have still_nonempty : leftover ++ more ≠ [] := by simp [nonempty]
      rw [List.append_assoc, parse_append reads still_nonempty, List.length_append]
  · intro error failed not_short not_leftover
    rcases parse_eq_error.mp failed with
      ⟨cursor, reading_failed⟩ | ⟨taken, leftover, classFile, -, -, -, same⟩
    · rcases FailsFast.short_or_settled reading_failed with
        ⟨needed, remaining, short, -⟩ | ⟨-, settled⟩
      · exact absurd short (not_short needed remaining)
      · exact parse_eq_error.mpr (.inl (settled more))
    · exact absurd same (not_leftover leftover.length)

/-- All three ways: a class file that is cut off and lengthened, one with a byte too many, and one
that does not begin like a class file. -/
theorem parse_prefix_free_holding_long :
    parse (holdingLongWithUnnamedFlags ++ [7, 7]) = .error (.trailingBytes 2) ∧
      (∃ needed remaining, parse [0xCA, 0xFE, 0xBA] =
        .error (.unexpectedEndOfInput needed remaining) ∧ remaining < needed) ∧
      parse ((holdingLongWithUnnamedFlags ++ [7]) ++ [7, 7]) = .error (.trailingBytes 3) ∧
      parse ([0xCA, 0xFE, 0xBA, 0xBF] ++ [7, 7]) = .error .notRecognizedFormat := by
  have parsed : parse holdingLongWithUnnamedFlags = .ok holdingLong := by cbv
  have leftover : parse (holdingLongWithUnnamedFlags ++ [7]) = .error (.trailingBytes 1) := by cbv
  have unrecognized : parse [0xCA, 0xFE, 0xBA, 0xBF] = .error .notRecognizedFormat := by cbv
  obtain ⟨lengthened, cut_off⟩ :=
    (parse_prefix_free holdingLongWithUnnamedFlags [7, 7]).1 holdingLong parsed
  obtain ⟨-, still_leftover⟩ :=
    (parse_prefix_free (holdingLongWithUnnamedFlags ++ [7]) [7, 7]).2.1 1 leftover
  exact ⟨lengthened (by decide),
    cut_off _ (holdingLongWithUnnamedFlags.drop 3) (by decide) (by decide), still_leftover,
    (parse_prefix_free [0xCA, 0xFE, 0xBA, 0xBF] [7, 7]).2.2 _ unrecognized (by simp) (by simp)⟩

end ClassFile

end ClassMachine
