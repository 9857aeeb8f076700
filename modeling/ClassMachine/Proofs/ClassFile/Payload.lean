import ClassMachine.Proofs.ClassFile.Code
import ClassMachine.Proofs.ClassFile.Truncation

set_option autoImplicit false

/-!
# Too much and too little information in an attribute

A known kind of attribute has to use all of its information. What a kind reads is no longer decoded
when bytes follow it, because they are left over, and neither when bytes at its end are missing,
because it is too short then; the two errors are not mixed up. So the code of a method is decoded
from what is written of it and from nothing else.
-/

namespace ClassMachine

open Reader

namespace ExceptionHandler

instance failsFast_read : FailsFast read := by
  unfold read
  infer_instance

end ExceptionHandler

namespace Code

-- The search for an instance goes through six reads in a row.
set_option synthInstance.maxSize 512 in
instance failsFast_read : FailsFast read := by
  unfold read
  infer_instance

end Code

namespace AttributeKind

variable {α : Type} {kind : AttributeKind α} {value : α}

theorem decode_append {info more : List UInt8} (reads : Reads kind.reader info value)
    (nonempty : more ≠ []) :
    kind.decode (info ++ more) =
      .error (.attributeLengthMismatch kind.name (info.length + more.length) info.length) := by
  have leftover : ¬(Cursor.mk more (0 + info.length)).isEmpty := by
    simpa [Cursor.isEmpty] using nonempty
  unfold decode
  rw [Cursor.ofBytes, reads more 0]
  dsimp only
  rw [if_neg leftover, List.length_append, Nat.zero_add]

theorem decode_of_cut_off [Local kind.reader] [FailsFast kind.reader] {taken missing : List UInt8}
    (reads : Reads kind.reader (taken ++ missing) value) (nonempty : missing ≠ []) :
    ∃ needed remaining, kind.decode taken = .error (.unexpectedEndOfInput needed remaining) ∧
      remaining < needed := by
  obtain ⟨_, cursor, failed, needed, remaining, rfl, short⟩ :=
    FailsFast.short_of_reads reads nonempty 0
  refine ⟨needed, remaining, ?_, short⟩
  unfold decode
  rw [Cursor.ofBytes, failed]

end AttributeKind

namespace Code

/-- Code is decoded from its written form only, and from all of it: bytes that follow are counted as
left over, and if any at the end are missing there are too few. -/
theorem decode_written_only (code : Code) :
    (∀ info, AttributeKind.code.decode info = .ok code ↔ code.Fits ∧ info = code.encode) ∧
    (code.Fits →
      (∀ more, more ≠ [] → AttributeKind.code.decode (code.encode ++ more) =
        .error (.attributeLengthMismatch "Code" (code.encode.length + more.length)
          code.encode.length)) ∧
      ∀ taken missing, code.encode = taken ++ missing → missing ≠ [] →
        ∃ needed remaining,
          AttributeKind.code.decode taken = .error (.unexpectedEndOfInput needed remaining) ∧
            remaining < needed) := by
  have : Local AttributeKind.code.reader := local_read
  have : FailsFast AttributeKind.code.reader := failsFast_read
  have reads_iff (info : List UInt8) :
      Reads AttributeKind.code.reader info code ↔ code.Fits ∧ info = code.encode := reads_read
  refine ⟨fun info => AttributeKind.decode_eq_ok.trans (reads_iff info), fun fits => ?_⟩
  have reads : Reads AttributeKind.code.reader code.encode code := (reads_iff _).mpr ⟨fits, rfl⟩
  refine ⟨fun more nonempty => AttributeKind.decode_append reads nonempty, ?_⟩
  intro taken missing split nonempty
  exact AttributeKind.decode_of_cut_off (split ▸ reads) nonempty

/-- Two instructions with an exception handler around them and an attribute of their own. -/
def guarded : Code := ⟨1, 2, [0x1a, 0xac], [⟨0, 2, 1, 0⟩], [⟨7, [1, 2, 3]⟩]⟩

/-- With a byte after its last attribute or without the last one of its bytes, code is not decoded. -/
theorem decode_written_only_guarded :
    guarded.Fits ∧ AttributeKind.code.decode guarded.encode = .ok guarded ∧
      AttributeKind.code.decode (guarded.encode ++ [9]) =
        .error (.attributeLengthMismatch "Code" 32 31) ∧
      ∃ needed remaining, AttributeKind.code.decode (guarded.encode.take 30) =
        .error (.unexpectedEndOfInput needed remaining) ∧ remaining < needed := by
  have fits : guarded.Fits := by
    unfold Fits guarded
    decide
  obtain ⟨lengthened, cut_off⟩ := (decode_written_only guarded).2 fits
  exact ⟨fits, ((decode_written_only guarded).1 guarded.encode).mpr ⟨fits, rfl⟩,
    lengthened [9] (by decide),
    cut_off (guarded.encode.take 30) (guarded.encode.drop 30) (by decide) (by decide)⟩

end Code

end ClassMachine
