import Mathlib.Logic.Relation
import ClassMachine.ClassFile.Code
import ClassMachine.Proofs.Constant.Names

set_option autoImplicit false

/-!
# The attribute that decides

Looking for a known kind of attribute goes through the attributes in order. Those with another name
are passed over, so that only the first one that is not decides: by its information if it has the
name, and by the error if its name does not decode. Attributes that are passed over therefore make
no difference wherever they stand, and neither does anything behind the first one with the name.
-/

namespace ClassMachine.AttributeKind

open Outcome

variable {α : Type} {kind : AttributeKind α} {pool : ConstantPool} {entry : Attribute}
  {front back others entries : List Attribute}

/-- The name of the attribute decodes and is another one. -/
def PassesOver (kind : AttributeKind α) (pool : ConstantPool) (entry : Attribute) : Prop :=
  ∃ text, pool.HasText entry.name text ∧ text ≠ kind.name

/-- Whether looking for the kind does not go on after the attribute. -/
def stopsAt (kind : AttributeKind α) (pool : ConstantPool) (entry : Attribute) : Bool :=
  match pool.utf8 entry.name with
  | .ok text => text = kind.name
  | .error _ => true

theorem stopsAt_eq_false : kind.stopsAt pool entry = false ↔ kind.PassesOver pool entry := by
  unfold stopsAt PassesOver
  simp only [← ConstantPool.utf8_eq_ok]
  cases pool.utf8 entry.name <;> simp

theorem passesOver_iff {text : String} (named : pool.HasText entry.name text) :
    kind.PassesOver pool entry ↔ text ≠ kind.name := by
  constructor
  · rintro ⟨other, also, different⟩
    rwa [named.unique also]
  · intro different
    exact ⟨text, named, different⟩

theorem passesOver_iff_not_named (readable : ∃ text, pool.HasText entry.name text) :
    kind.PassesOver pool entry ↔ ¬pool.HasText entry.name kind.name := by
  obtain ⟨text, named⟩ := readable
  rw [passesOver_iff named]
  constructor
  · intro different also
    exact different (named.unique also)
  · rintro absent rfl
    exact absent named

theorem find_cons_of_passesOver (passed : kind.PassesOver pool entry) :
    kind.find pool (entry :: others) = kind.find pool others := by
  obtain ⟨text, named, different⟩ := passed
  rw [find, ConstantPool.utf8_eq_ok.mpr named]
  exact if_neg different

theorem find_cons_of_named (named : pool.HasText entry.name kind.name) :
    kind.find pool (entry :: others) = some <$> kind.decode entry.info := by
  rw [find, ConstantPool.utf8_eq_ok.mpr named]
  exact if_pos rfl

theorem find_cons_of_unreadable {reason : DecodeError}
    (unreadable : pool.utf8 entry.name = .error reason) :
    kind.find pool (entry :: others) = .error reason := by
  rw [find, unreadable]
  rfl

theorem find_append_of_passesOver (passed : ∀ other ∈ front, kind.PassesOver pool other) :
    kind.find pool (front ++ back) = kind.find pool back := by
  induction front with
  | nil => rfl
  | cons first front inductionHypothesis =>
    obtain ⟨first_passed, front_passed⟩ := List.forall_mem_cons.mp passed
    rw [List.cons_append, find_cons_of_passesOver first_passed, inductionHypothesis front_passed]

/-- What looking for the kind results in. -/
inductive Decides (kind : AttributeKind α) (pool : ConstantPool) :
    List Attribute → Except DecodeError (Option α) → Prop where
  | nothing {entries : List Attribute} (passed : ∀ entry ∈ entries, kind.PassesOver pool entry) :
    Decides kind pool entries (.ok none)
  | named {entry : Attribute} (front back : List Attribute)
    (passed : ∀ other ∈ front, kind.PassesOver pool other)
    (named : pool.HasText entry.name kind.name) :
    Decides kind pool (front ++ entry :: back) (some <$> kind.decode entry.info)
  | unreadable {entry : Attribute} {reason : DecodeError} (front back : List Attribute)
    (passed : ∀ other ∈ front, kind.PassesOver pool other)
    (unreadable : pool.utf8 entry.name = .error reason) :
    Decides kind pool (front ++ entry :: back) (.error reason)

theorem Decides.find_eq {result : Except DecodeError (Option α)}
    (decides : kind.Decides pool entries result) : kind.find pool entries = result := by
  cases decides with
  | nothing passed =>
    rw [← List.append_nil entries, find_append_of_passesOver passed]
    rfl
  | named front back passed named =>
    rw [find_append_of_passesOver passed, find_cons_of_named named]
  | unreadable front back passed unreadable =>
    rw [find_append_of_passesOver passed, find_cons_of_unreadable unreadable]

theorem Decides.cons {result : Except DecodeError (Option α)}
    (first : kind.PassesOver pool entry) (decides : kind.Decides pool entries result) :
    kind.Decides pool (entry :: entries) result := by
  cases decides with
  | nothing passed => exact .nothing (List.forall_mem_cons.mpr ⟨first, passed⟩)
  | named front back passed named =>
    exact .named (entry :: front) back (List.forall_mem_cons.mpr ⟨first, passed⟩) named
  | unreadable front back passed unreadable =>
    exact .unreadable (entry :: front) back (List.forall_mem_cons.mpr ⟨first, passed⟩) unreadable

theorem decides_find (kind : AttributeKind α) (pool : ConstantPool) (entries : List Attribute) :
    kind.Decides pool entries (kind.find pool entries) := by
  induction entries with
  | nil => exact .nothing (List.forall_mem_nil _)
  | cons entry others inductionHypothesis =>
    cases read : pool.utf8 entry.name with
    | error reason =>
      rw [find_cons_of_unreadable read]
      exact .unreadable [] others (List.forall_mem_nil _) read
    | ok text =>
      have named := ConstantPool.utf8_eq_ok.mp read
      by_cases same : text = kind.name
      · rw [same] at named
        rw [find_cons_of_named named]
        exact .named [] others (List.forall_mem_nil _) named
      · have passed := (passesOver_iff named).mpr same
        rw [find_cons_of_passesOver passed]
        exact inductionHypothesis.cons passed

theorem find_eq_iff_decides {result : Except DecodeError (Option α)} :
    kind.find pool entries = result ↔ kind.Decides pool entries result := by
  constructor
  · intro sought
    rw [← sought]
    exact decides_find kind pool entries
  · exact Decides.find_eq

theorem find_eq_none_iff :
    kind.find pool entries = .ok none ↔ ∀ entry ∈ entries, kind.PassesOver pool entry := by
  constructor
  · intro nothing
    have decides := decides_find kind pool entries
    generalize kind.find pool entries = result at decides nothing
    cases decides with
    | nothing passed => exact passed
    | @named entry =>
      cases decoded : kind.decode entry.info <;> simp [decoded] at nothing
    | unreadable => cases nothing
  · intro passed
    exact (Decides.nothing passed).find_eq

theorem find_filter_stopsAt (kind : AttributeKind α) (pool : ConstantPool)
    (entries : List Attribute) :
    kind.find pool (entries.filter (kind.stopsAt pool)) = kind.find pool entries := by
  induction entries with
  | nil => rfl
  | cons entry others inductionHypothesis =>
    cases stops : kind.stopsAt pool entry with
    | true =>
      rw [List.filter_cons_of_pos stops, find, find, inductionHypothesis]
    | false =>
      rw [List.filter_cons_of_neg (by simp [stops]), inductionHypothesis]
      exact (find_cons_of_passesOver (stopsAt_eq_false.mp stops)).symm

/-- Changes of the attributes that make no difference. -/
inductive Edit (kind : AttributeKind α) (pool : ConstantPool) :
    List Attribute → List Attribute → Prop where
  /-- An attribute with another name comes in anywhere. -/
  | insert {entry : Attribute} (front back : List Attribute)
    (other : kind.PassesOver pool entry) : Edit kind pool (front ++ back) (front ++ entry :: back)
  /-- Attributes change places, in which those with other names are free. -/
  | permute {entries others : List Attribute} (permuted : entries.Perm others)
    (ordered : entries.filter (kind.stopsAt pool) = others.filter (kind.stopsAt pool)) :
    Edit kind pool entries others
  /-- Behind an attribute with the name, anything else takes the place of what stands there. -/
  | behind {entry : Attribute} (front back others : List Attribute)
    (named : pool.HasText entry.name kind.name) :
    Edit kind pool (front ++ entry :: back) (front ++ entry :: others)

theorem find_append_cons_of_named (front back others : List Attribute)
    (named : pool.HasText entry.name kind.name) :
    kind.find pool (front ++ entry :: back) = kind.find pool (front ++ entry :: others) := by
  induction front with
  | nil => rw [List.nil_append, List.nil_append, find_cons_of_named named, find_cons_of_named named]
  | cons first front inductionHypothesis =>
    rw [List.cons_append, List.cons_append, find, find, inductionHypothesis]

theorem Edit.find_eq (edit : kind.Edit pool entries others) :
    kind.find pool entries = kind.find pool others := by
  cases edit with
  | insert front back other =>
    rw [← find_filter_stopsAt, ← find_filter_stopsAt kind pool (_ ++ _ :: _)]
    simp [stopsAt_eq_false.mpr other]
  | permute permuted ordered =>
    rw [← find_filter_stopsAt, ordered, find_filter_stopsAt]
  | behind front back others named => exact find_append_cons_of_named front back others named

theorem find_eq_of_edits (edits : Relation.EqvGen (kind.Edit pool) entries others) :
    kind.find pool entries = kind.find pool others := by
  induction edits with
  | rel _ _ edit => exact edit.find_eq
  | refl => rfl
  | symm _ _ _ inductionHypothesis => exact inductionHypothesis.symm
  | trans _ _ _ _ _ first second => exact first.trans second

/-- Looking for a kind results in what the first attribute decides that is not passed over. So if
all names decode, nothing is found exactly if there is no attribute with the name, and otherwise the
first one with the name is decoded. Attributes with other names may come in, go away and change
places without a difference, and so may anything behind the first one with the name. -/
theorem find_decided_by_first_named (kind : AttributeKind α) (pool : ConstantPool)
    (entries : List Attribute) :
    (∀ result, kind.find pool entries = result ↔ kind.Decides pool entries result) ∧
    ((∀ entry ∈ entries, ∃ text, pool.HasText entry.name text) →
      (kind.find pool entries = .ok none ↔
        ∀ entry ∈ entries, ¬pool.HasText entry.name kind.name) ∧
      ∀ front entry back, entries = front ++ entry :: back →
        (∀ other ∈ front, ¬pool.HasText other.name kind.name) →
        pool.HasText entry.name kind.name →
          kind.find pool entries = some <$> kind.decode entry.info) ∧
    ∀ others, Relation.EqvGen (kind.Edit pool) entries others →
      kind.find pool others = kind.find pool entries := by
  refine ⟨fun result => find_eq_iff_decides, fun readable => ⟨?_, ?_⟩, ?_⟩
  · rw [find_eq_none_iff]
    apply forall₂_congr
    intro entry member
    exact passesOver_iff_not_named (readable entry member)
  · rintro front entry back rfl absent named
    have passed : ∀ other ∈ front, kind.PassesOver pool other := by
      intro other member
      have other_readable := readable other (List.mem_append_left _ member)
      exact (passesOver_iff_not_named other_readable).mpr (absent other member)
    exact (Decides.named front back passed named).find_eq
  · intro others edits
    exact (find_eq_of_edits edits).symm

/-- A name that does not decode is an error in front of the attribute, and nothing behind it. -/
example :
    let pool := ConstantPool.ofList
      [.utf8 [0x53, 0x6f, 0x75, 0x72, 0x63, 0x65, 0x46, 0x69, 0x6c, 0x65], .utf8 [0x58]]
    sourceFile.find pool [⟨2, []⟩, ⟨1, [0, 7]⟩, ⟨9, []⟩, ⟨1, [0, 8]⟩] = .ok (some 7) ∧
      sourceFile.find pool [⟨9, []⟩, ⟨2, []⟩, ⟨1, [0, 7]⟩] = .error (.invalidConstantIndex 9) := by
  decide

end ClassMachine.AttributeKind
