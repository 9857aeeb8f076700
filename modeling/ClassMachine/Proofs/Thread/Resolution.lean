import ClassMachine.Proofs.Thread.Entry

set_option autoImplicit false

/-!
# Which method a call leads to

A call names a class and a signature. It leads to the first method of this class with that signature
if that one is static. A name that does not decode ends the search before it gets there.
-/

namespace ClassMachine

open Outcome

namespace ClassFile

open ConstantPool

variable {classFile : ClassFile} {index : ConstantIndex}

/-- The reference leads to the method at a position: it names the class itself, and the first method
with its signature is there and is static. -/
structure ResolvesTo (classFile : ClassFile) (reference : MethodRef) (position : Nat) : Prop where
  own : classFile.constants.NamesClass classFile.thisClass reference.owner
  first : ∃ method, method.isStatic ∧
    Method.IsFirstMatch classFile.constants reference.name reference.descriptor classFile.methods
      position method

/-- The reference leads to no method, although all names that are looked at decode. -/
inductive LeadsNowhere (classFile : ClassFile) (reference : MethodRef) : Prop where
  | foreign {ownName : String}
    (named : classFile.constants.NamesClass classFile.thisClass ownName)
    (different : reference.owner ≠ ownName)
  | missing (named : classFile.constants.NamesClass classFile.thisClass reference.owner)
    (passed : ∀ method ∈ classFile.methods,
      method.PassedOver classFile.constants reference.name reference.descriptor)
  | notStatic (named : classFile.constants.NamesClass classFile.thisClass reference.owner)
    {position : Nat} {method : Method}
    (first : Method.IsFirstMatch classFile.constants reference.name reference.descriptor
      classFile.methods position method)
    (not_static : ¬method.isStatic)

section Resolve

variable {reference : MethodRef} (referred : classFile.constants.methodRef index = .ok reference)
include referred

theorem resolveStatic_of_foreign {ownName : String} (named : classFile.thisClassName = .ok ownName)
    (different : reference.owner ≠ ownName) :
    classFile.resolveStatic index = .error (.unresolvedMethod index) := by
  rw [resolveStatic, referred, named]
  exact if_pos different

theorem resolveStatic_of_own (named : classFile.thisClassName = .ok reference.owner) :
    classFile.resolveStatic index =
      match classFile.findMethodIndex reference.name reference.descriptor with
      | .error error => .error (.decode error)
      | .ok none => .error (.unresolvedMethod index)
      | .ok (some position) =>
        if classFile.methods[position]?.any Method.isStatic then .ok position
        else .error (.unresolvedMethod index) := by
  rw [resolveStatic, referred, named]
  refine (if_neg (not_not.mpr rfl)).trans ?_
  cases classFile.findMethodIndex reference.name reference.descriptor with
  | error error => rfl
  | ok found => cases found <;> rfl

theorem leadsNowhere_of_own (named : classFile.thisClassName = .ok reference.owner)
    (unresolved : classFile.resolveStatic index = .error (.unresolvedMethod index)) :
    classFile.LeadsNowhere reference := by
  have own := className_eq_ok.mp named
  rw [resolveStatic_of_own referred named] at unresolved
  split at unresolved
  next => cases unresolved
  next sought => exact .missing own (Method.findIndex_eq_none.mp sought)
  next position sought =>
    obtain ⟨method, first⟩ := Method.findIndex_eq_some.mp sought
    rw [first.found] at unresolved
    split at unresolved
    next => cases unresolved
    next not_static => exact .notStatic own first not_static

end Resolve

theorem exists_names_of_unresolved
    (unresolved : classFile.resolveStatic index = .error (.unresolvedMethod index)) :
    ∃ reference ownName, classFile.constants.methodRef index = .ok reference ∧
      classFile.thisClassName = .ok ownName := by
  unfold resolveStatic at unresolved
  cases referred : classFile.constants.methodRef index with
  | error error =>
    rw [referred] at unresolved
    cases unresolved
  | ok reference =>
    cases named : classFile.thisClassName with
    | error error =>
      rw [referred, named] at unresolved
      cases unresolved
    | ok ownName => exact ⟨reference, ownName, rfl, rfl⟩

theorem resolveStatic_eq_unresolved :
    classFile.resolveStatic index = .error (.unresolvedMethod index) ↔
      ∃ reference, classFile.constants.RefersTo index reference ∧
        classFile.LeadsNowhere reference := by
  constructor
  · intro unresolved
    obtain ⟨reference, ownName, referred, named⟩ := exists_names_of_unresolved unresolved
    refine ⟨reference, methodRef_eq_ok.mp referred, ?_⟩
    by_cases same : reference.owner = ownName
    · subst same
      exact leadsNowhere_of_own referred named unresolved
    · exact .foreign (className_eq_ok.mp named) same
  · intro leads
    obtain ⟨reference, refers, nowhere⟩ := leads
    have referred := methodRef_eq_ok.mpr refers
    cases nowhere with
    | foreign named different =>
      exact resolveStatic_of_foreign referred (className_eq_ok.mpr named) different
    | missing named passed =>
      have sought := Method.findIndex_eq_none.mpr passed
      rw [resolveStatic_of_own referred (className_eq_ok.mpr named), findMethodIndex, sought]
    | notStatic named first not_static =>
      have sought := Method.findIndex_eq_some.mpr ⟨_, first⟩
      rw [resolveStatic_of_own referred (className_eq_ok.mpr named), findMethodIndex, sought]
      dsimp only
      rw [first.found]
      exact if_neg not_static

/-- A call leads to the first method of the class with the signature that it names if that one is
static, and to no method if it names another class, no method of this one or one that is not
static. -/
theorem static_calls_resolve_exactly (classFile : ClassFile) (index : ConstantIndex) :
    (∀ position, classFile.resolveStatic index = .ok position ↔
      ∃ reference, classFile.constants.RefersTo index reference ∧
        classFile.ResolvesTo reference position) ∧
    (classFile.resolveStatic index = .error (.unresolvedMethod index) ↔
      ∃ reference, classFile.constants.RefersTo index reference ∧
        classFile.LeadsNowhere reference) := by
  refine ⟨fun position => ?_, resolveStatic_eq_unresolved⟩
  rw [resolveStatic_eq_ok]
  constructor
  · intro resolved
    obtain ⟨reference, referred, named, sought, static⟩ := resolved
    obtain ⟨method, first⟩ := Method.findIndex_eq_some.mp sought
    rw [first.found] at static
    exact ⟨reference, methodRef_eq_ok.mp referred, className_eq_ok.mp named, method, static, first⟩
  · intro resolves
    obtain ⟨reference, refers, own, method, static, first⟩ := resolves
    have sought := Method.findIndex_eq_some.mpr ⟨method, first⟩
    refine ⟨reference, methodRef_eq_ok.mpr refers, className_eq_ok.mpr own, sought, ?_⟩
    rw [first.found]
    exact static

end ClassFile

end ClassMachine
