import ClassMachine.Constant.Pool
import ClassMachine.Proofs.Outcome

set_option autoImplicit false

/-!
# The strings behind constants

Where an index of the constant pool leads, from constant to constant, until there are the bytes of a
string. Each lookup of a name succeeds exactly if there is such a path and its strings decode.
-/

namespace ClassMachine.ConstantPool

open Outcome

variable {pool : ConstantPool} {index : ConstantIndex}

/-- The constant at an index is a string with this text. -/
def HasText (pool : ConstantPool) (index : ConstantIndex) (text : String) : Prop :=
  ∃ bytes, pool.get index = .ok (.utf8 bytes) ∧ ModifiedUtf8.decode bytes = some text

/-- The constant at an index is a class with this name. -/
def NamesClass (pool : ConstantPool) (index : ConstantIndex) (name : String) : Prop :=
  ∃ text, pool.get index = .ok (.classRef text) ∧ pool.HasText text name

/-- The constant at an index is a method of a class or an interface, and these strings are its owner
and its signature. -/
inductive RefersTo (pool : ConstantPool) (index : ConstantIndex) (reference : MethodRef) : Prop where
  | intro {owner nameAndType name descriptor : ConstantIndex} {isInterface : Bool}
    (constant : pool.get index = .ok (.methodRef owner nameAndType isInterface))
    (owned : pool.NamesClass owner reference.owner)
    (signed : pool.get nameAndType = .ok (.nameAndType name descriptor))
    (named : pool.HasText name reference.name)
    (described : pool.HasText descriptor reference.descriptor)

theorem utf8_eq_ok {text : String} : pool.utf8 index = .ok text ↔ pool.HasText index text := by
  unfold utf8
  rw [except_bind_eq_ok]
  constructor
  · intro read
    obtain ⟨constant, found, decoded⟩ := read
    cases constant with
    | utf8 bytes =>
      dsimp only at decoded
      split at decoded
      next text same =>
        cases decoded
        exact ⟨bytes, found, same⟩
      next => cases decoded
    | _ => cases decoded
  · intro has_text
    obtain ⟨bytes, found, decoded⟩ := has_text
    refine ⟨.utf8 bytes, found, ?_⟩
    dsimp only
    rw [decoded]

theorem HasText.unique {text other : String} (first : pool.HasText index text)
    (second : pool.HasText index other) : text = other := by
  rw [← utf8_eq_ok] at first second
  exact Except.ok.inj (first.symm.trans second)

theorem className_eq_ok {name : String} :
    pool.className index = .ok name ↔ pool.NamesClass index name := by
  unfold className
  rw [except_bind_eq_ok]
  constructor
  · intro read
    obtain ⟨constant, found, decoded⟩ := read
    cases constant with
    | classRef text => exact ⟨text, found, utf8_eq_ok.mp decoded⟩
    | _ => cases decoded
  · intro names
    obtain ⟨text, found, has_text⟩ := names
    exact ⟨.classRef text, found, utf8_eq_ok.mpr has_text⟩

theorem nameAndType_eq_ok {name descriptor : String} :
    pool.nameAndType index = .ok (name, descriptor) ↔
      ∃ nameIndex descriptorIndex, pool.get index = .ok (.nameAndType nameIndex descriptorIndex) ∧
        pool.HasText nameIndex name ∧ pool.HasText descriptorIndex descriptor := by
  unfold nameAndType
  rw [except_bind_eq_ok]
  constructor
  · intro read
    obtain ⟨constant, found, decoded⟩ := read
    cases constant with
    | nameAndType nameIndex descriptorIndex =>
      obtain ⟨_, named, rest⟩ := except_bind_eq_ok.mp decoded
      obtain ⟨_, described, same⟩ := except_bind_eq_ok.mp rest
      cases same
      exact ⟨nameIndex, descriptorIndex, found, utf8_eq_ok.mp named, utf8_eq_ok.mp described⟩
    | _ => cases decoded
  · intro signed
    obtain ⟨nameIndex, descriptorIndex, found, named, described⟩ := signed
    refine ⟨.nameAndType nameIndex descriptorIndex, found, ?_⟩
    apply except_bind_eq_ok.mpr
    refine ⟨name, utf8_eq_ok.mpr named, ?_⟩
    apply except_bind_eq_ok.mpr
    exact ⟨descriptor, utf8_eq_ok.mpr described, rfl⟩

theorem methodRef_eq_ok {reference : MethodRef} :
    pool.methodRef index = .ok reference ↔ pool.RefersTo index reference := by
  unfold methodRef
  rw [except_bind_eq_ok]
  constructor
  · intro read
    obtain ⟨constant, found, decoded⟩ := read
    cases constant with
    | methodRef owner signature isInterface =>
      obtain ⟨⟨name, descriptor⟩, signed, rest⟩ := except_bind_eq_ok.mp decoded
      obtain ⟨_, owned, same⟩ := except_bind_eq_ok.mp rest
      cases same
      obtain ⟨_, _, signature_found, named, described⟩ := nameAndType_eq_ok.mp signed
      exact .intro found (className_eq_ok.mp owned) signature_found named described
    | _ => cases decoded
  · intro refers
    obtain ⟨found, owned, signature_found, named, described⟩ := refers
    refine ⟨_, found, ?_⟩
    apply except_bind_eq_ok.mpr
    refine ⟨(reference.name, reference.descriptor), ?_, ?_⟩
    · exact nameAndType_eq_ok.mpr ⟨_, _, signature_found, named, described⟩
    · apply except_bind_eq_ok.mpr
      exact ⟨reference.owner, className_eq_ok.mpr owned, rfl⟩

end ClassMachine.ConstantPool
