import ClassMachine.ClassFile.Basic
import ClassMachine.Proofs.Constant.Names

set_option autoImplicit false

/-!
# The search for a signature

A method is found by its name and its descriptor. The methods before it are looked at on the way: a
name that does not decode ends the search, and so does the descriptor of a method that has the right
name.
-/

namespace ClassMachine

open Outcome

namespace Method

variable {pool : ConstantPool} {name descriptor : String} {method : Method} {methods : List Method}

/-- The method has this name and this descriptor. -/
structure Matches (method : Method) (pool : ConstantPool) (name descriptor : String) : Prop where
  named : pool.HasText method.name name
  described : pool.HasText method.descriptor descriptor

/-- What is looked at of a method in a search by name and descriptor decodes. -/
structure Readable (method : Method) (pool : ConstantPool) (name : String) : Prop where
  named : ∃ text, pool.HasText method.name text
  described : pool.HasText method.name name → ∃ text, pool.HasText method.descriptor text

/-- The search goes on after the method. -/
def PassedOver (method : Method) (pool : ConstantPool) (name descriptor : String) : Prop :=
  method.Readable pool name ∧ ¬method.Matches pool name descriptor

theorem Matches.readable (matched : method.Matches pool name descriptor) :
    method.Readable pool name where
  named := ⟨name, matched.named⟩
  described _ := ⟨descriptor, matched.described⟩

theorem matches_iff_eq {text : String} (named : pool.HasText method.name name)
    (described : pool.HasText method.descriptor text) :
    method.Matches pool name descriptor ↔ text = descriptor := by
  constructor
  · intro matched
    exact described.unique matched.described
  · intro same
    subst same
    exact ⟨named, described⟩

theorem not_matches_of_name_ne {text : String} (named : pool.HasText method.name text)
    (different : text ≠ name) : ¬method.Matches pool name descriptor :=
  fun matched => different (named.unique matched.named)

theorem isNamed_eq_ok {answer : Bool} :
    method.isNamed pool name descriptor = .ok answer ↔
      method.Readable pool name ∧ (answer = true ↔ method.Matches pool name descriptor) := by
  unfold isNamed
  rw [except_bind_eq_ok]
  constructor
  · intro tested
    obtain ⟨text, read, tested⟩ := tested
    have named := ConstantPool.utf8_eq_ok.mp read
    split at tested
    next same =>
      subst same
      obtain ⟨other, read, answer_eq⟩ := except_bind_eq_ok.mp tested
      have described := ConstantPool.utf8_eq_ok.mp read
      cases answer_eq
      refine ⟨⟨⟨text, named⟩, fun _ => ⟨other, described⟩⟩, ?_⟩
      rw [decide_eq_true_iff, matches_iff_eq named described]
    next different =>
      cases tested
      refine ⟨⟨⟨text, named⟩, fun also => absurd (named.unique also) different⟩, ?_⟩
      exact iff_of_false Bool.false_ne_true (not_matches_of_name_ne named different)
  · intro tested
    obtain ⟨⟨⟨text, named⟩, described⟩, answer_iff⟩ := tested
    refine ⟨text, ConstantPool.utf8_eq_ok.mpr named, ?_⟩
    by_cases same : text = name
    · subst same
      obtain ⟨other, described⟩ := described named
      have answer_eq : decide (other = descriptor) = answer := by
        rw [Bool.eq_iff_iff, decide_eq_true_iff, answer_iff, matches_iff_eq named described]
      rw [if_pos rfl]
      apply except_bind_eq_ok.mpr
      exact ⟨other, ConstantPool.utf8_eq_ok.mpr described, congrArg Except.ok answer_eq⟩
    · have answer_eq : answer = false := by
        rw [← Bool.not_eq_true, answer_iff]
        exact not_matches_of_name_ne named same
      rw [if_neg same, answer_eq]
      rfl

theorem isNamed_eq_true :
    method.isNamed pool name descriptor = .ok true ↔ method.Matches pool name descriptor := by
  rw [isNamed_eq_ok]
  constructor
  · intro tested
    exact tested.2.mp rfl
  · intro matched
    exact ⟨matched.readable, iff_of_true rfl matched⟩

theorem isNamed_eq_false :
    method.isNamed pool name descriptor = .ok false ↔ method.PassedOver pool name descriptor := by
  rw [isNamed_eq_ok, PassedOver]
  simp

/-- The first of the methods with this name and descriptor, and every method before it was readable. -/
structure IsFirstMatch (pool : ConstantPool) (name descriptor : String) (methods : List Method)
    (position : Nat) (method : Method) : Prop where
  found : methods[position]? = some method
  matched : method.Matches pool name descriptor
  earlier : ∀ other ∈ methods.take position, other.PassedOver pool name descriptor

theorem findIndex_eq_none :
    findIndex pool name descriptor methods = .ok none ↔
      ∀ method ∈ methods, method.PassedOver pool name descriptor := by
  induction methods with
  | nil => simp [findIndex]
  | cons method others inductionHypothesis =>
    rw [List.forall_mem_cons, ← isNamed_eq_false, ← inductionHypothesis, findIndex,
      except_bind_eq_ok]
    constructor
    · intro sought
      obtain ⟨answer, tested, rest⟩ := sought
      cases answer with
      | true => cases rest
      | false =>
        obtain ⟨later, sought, none_later⟩ := except_bind_eq_ok.mp rest
        cases later with
        | none => exact ⟨tested, sought⟩
        | some later => cases none_later
    · intro passed
      obtain ⟨tested, sought⟩ := passed
      refine ⟨false, tested, ?_⟩
      exact except_bind_eq_ok.mpr ⟨none, sought, rfl⟩

theorem findIndex_eq_some {position : Nat} :
    findIndex pool name descriptor methods = .ok (some position) ↔
      ∃ method, IsFirstMatch pool name descriptor methods position method := by
  induction methods generalizing position with
  | nil =>
    constructor
    · intro sought
      cases sought
    · intro first
      obtain ⟨method, first⟩ := first
      cases first.found
  | cons head others inductionHypothesis =>
    rw [findIndex, except_bind_eq_ok]
    constructor
    · intro sought
      obtain ⟨answer, tested, rest⟩ := sought
      cases answer with
      | true =>
        cases rest
        exact ⟨head, rfl, isNamed_eq_true.mp tested, List.forall_mem_nil _⟩
      | false =>
        obtain ⟨later, sought, position_eq⟩ := except_bind_eq_ok.mp rest
        cases later with
        | none => cases position_eq
        | some later =>
          cases position_eq
          obtain ⟨method, found, matched, earlier⟩ := inductionHypothesis.mp sought
          refine ⟨method, found, matched, ?_⟩
          rw [List.take_succ_cons, List.forall_mem_cons]
          exact ⟨isNamed_eq_false.mp tested, earlier⟩
    · intro first
      obtain ⟨method, found, matched, earlier⟩ := first
      cases position with
      | zero =>
        cases found
        exact ⟨true, isNamed_eq_true.mpr matched, rfl⟩
      | succ position =>
        rw [List.take_succ_cons, List.forall_mem_cons] at earlier
        refine ⟨false, isNamed_eq_false.mpr earlier.1, ?_⟩
        apply except_bind_eq_ok.mpr
        exact ⟨some position, inductionHypothesis.mpr ⟨method, found, matched, earlier.2⟩, rfl⟩

theorem findIndex_lt {position : Nat}
    (found : findIndex pool name descriptor methods = .ok (some position)) :
    position < methods.length := by
  obtain ⟨method, first⟩ := findIndex_eq_some.mp found
  exact (List.getElem?_eq_some_iff.mp first.found).1

/-- The first of the methods with this name and descriptor, whatever is wrong with those before. -/
structure IsFirst (pool : ConstantPool) (name descriptor : String) (methods : List Method)
    (position : Nat) (method : Method) : Prop where
  found : methods[position]? = some method
  matched : method.Matches pool name descriptor
  earlier : ∀ other ∈ methods.take position, ¬other.Matches pool name descriptor

section IsFirst

variable {position other : Nat} {second : Method}

theorem IsFirstMatch.isFirst (first : IsFirstMatch pool name descriptor methods position method) :
    IsFirst pool name descriptor methods position method where
  found := first.found
  matched := first.matched
  earlier passed member := (first.earlier passed member).2

theorem IsFirst.le (first : IsFirst pool name descriptor methods position method)
    (also : IsFirst pool name descriptor methods other second) : position ≤ other := by
  by_contra before
  have taken : (methods.take position)[other]? = some second := by
    rw [List.getElem?_take_of_lt (Nat.lt_of_not_le before), also.found]
  exact first.earlier second (List.mem_of_getElem? taken) also.matched

theorem IsFirst.unique (first : IsFirst pool name descriptor methods position method)
    (also : IsFirst pool name descriptor methods other second) :
    position = other ∧ method = second := by
  obtain rfl := Nat.le_antisymm (first.le also) (also.le first)
  exact ⟨rfl, Option.some.inj (first.found.symm.trans also.found)⟩

end IsFirst

end Method

theorem ClassFile.findMethodIndex_eq_some {classFile : ClassFile} {name descriptor : String}
    {position : Nat} :
    classFile.findMethodIndex name descriptor = .ok (some position) ↔
      ∃ method, Method.IsFirstMatch classFile.constants name descriptor classFile.methods position
        method :=
  Method.findIndex_eq_some

end ClassMachine
