import ClassMachine.Proofs.ClassFile.Reading

set_option autoImplicit false

/-!
# What code is read from

The code of a method is read from its written form, which must be all that its attribute holds. So
code that a method has fits the fields that it was read from.
-/

namespace ClassMachine

namespace ExceptionHandler

instance local_read : Local read := by
  unfold read
  infer_instance

theorem reads_read {taken : List UInt8} {handler : ExceptionHandler} :
    Reads read taken handler ↔ taken = handler.encode := by
  unfold read
  simp only [reads_bind_written, reads_pure, true_and]
  constructor
  · intro reads
    obtain ⟨startPc, _, rfl, endPc, _, rfl, handlerPc, _, rfl, catchType, _, rfl, rfl, rfl⟩ := reads
    simp [encode, word]
  · rintro rfl
    refine ⟨handler.startPc, _, ?_, handler.endPc, _, rfl, handler.handlerPc, _, rfl,
      handler.catchType, [], (List.append_nil _).symm, rfl, rfl⟩
    simp [encode, word]

instance inverts_read : Inverts read (fun _ => True) encode where
  reads_iff _ _ := by rw [reads_read, true_and]

end ExceptionHandler

namespace Code

instance local_read : Local read := by
  unfold read
  infer_instance

theorem fits_iff {code : Code} :
    code.Fits ↔ code.instructions.length < 2 ^ 32 ∧
      CountedFit (fun _ => True) code.handlers ∧ CountedFit Attribute.Fits code.attributes := by
  unfold Fits CountedFit Attribute.Fits
  simp

theorem reads_read {taken : List UInt8} {code : Code} :
    Reads read taken code ↔ code.Fits ∧ taken = code.encode := by
  unfold read
  simp only [reads_bind_written, reads_pure, true_and, fits_iff]
  constructor
  · intro reads
    obtain ⟨maxStack, _, rfl, maxLocals, _, rfl, length, _, rfl, instructions, _, length_eq, rfl,
      handlers, _, handlers_fit, rfl, attributes, _, attributes_fit, rfl, rfl, rfl⟩ := reads
    refine ⟨⟨?_, handlers_fit, attributes_fit⟩, ?_⟩
    · rw [length_eq]
      exact length.toNat_lt
    · simp [encode, word, doubleWord, length_eq]
  · rintro ⟨⟨length_lt, handlers_fit, attributes_fit⟩, rfl⟩
    have length_eq : (UInt32.ofNat code.instructions.length).toNat = code.instructions.length :=
      UInt32.toNat_ofNat_of_lt' length_lt
    refine ⟨code.maxStack, _, ?_, code.maxLocals, _, rfl, UInt32.ofNat code.instructions.length, _,
      rfl, code.instructions, _, length_eq.symm, rfl, code.handlers, _, handlers_fit, rfl,
      code.attributes, [], attributes_fit, (List.append_nil _).symm, rfl, rfl⟩
    simp [encode, word, doubleWord, length_eq]

end Code

namespace AttributeKind

variable {α : Type} {kind : AttributeKind α} {value : α}

theorem decode_eq_ok [Local kind.reader] {info : List UInt8} :
    kind.decode info = .ok value ↔ Reads kind.reader info value := by
  unfold decode
  constructor
  · intro decoded
    split at decoded
    next => cases decoded
    next result cursor succeeded =>
      split at decoded
      next empty =>
        cases decoded
        exact Local.reads_of_isEmpty succeeded empty
      next => cases decoded
  · intro reads
    have succeeded := reads.at_end 0
    rw [Cursor.ofBytes, succeeded]
    rfl

theorem decode_of_find {pool : ConstantPool} {entries : List Attribute}
    (found : kind.find pool entries = .ok (some value)) :
    ∃ entry ∈ entries, kind.decode entry.info = .ok value := by
  induction entries with
  | nil => cases found
  | cons entry others inductionHypothesis =>
    obtain ⟨name, -, rest⟩ := Outcome.except_bind_eq_ok.mp found
    split at rest
    next =>
      cases decoded : kind.decode entry.info with
      | error reason =>
        rw [decoded] at rest
        cases rest
      | ok result =>
        rw [decoded] at rest
        cases rest
        exact ⟨entry, List.mem_cons_self, decoded⟩
    next =>
      obtain ⟨entry, member, decoded⟩ := inductionHypothesis rest
      exact ⟨entry, List.mem_cons_of_mem _ member, decoded⟩

end AttributeKind

theorem Method.fits_code {method : Method} {pool : ConstantPool} {code : Code}
    (hasCode : method.code pool = .ok (some code)) : code.Fits := by
  obtain ⟨entry, -, decoded⟩ := AttributeKind.decode_of_find hasCode
  have : Local AttributeKind.code.reader := Code.local_read
  exact (Code.reads_read.mp (AttributeKind.decode_eq_ok.mp decoded)).1

end ClassMachine
