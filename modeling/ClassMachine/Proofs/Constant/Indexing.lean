import ClassMachine.Proofs.Constant.Reading
import ClassMachine.Proofs.SlotVector.Offsets

set_option autoImplicit false

/-!
# Indices of constants

Pushing a constant answers with the next free index. As long as constants are pushed at indices that
sixteen bits can hold, as they are when a pool is read, every constant keeps the index that it was
pushed at, and looking an index up finds a constant exactly if one was pushed there. The second index
of an eight-byte constant therefore never leads to a constant.
-/

namespace ClassMachine.ConstantPool

open SlotVector

/-- Pools that pushing leads to from the empty one, each constant while the next free index is one
that sixteen bits can hold, with the constants and what the pushes have answered. -/
inductive Built : List (ConstantIndex × Constant) → ConstantPool → Prop where
  | empty : Built [] empty
  | push {entries : List (ConstantIndex × Constant)} {pool after : ConstantPool}
      {index : ConstantIndex} {constant : Constant} (built : Built entries pool)
      (addressable : pool.constants.next ≤ 65535)
      (pushed : pool.push constant = .ok (index, after)) :
    Built (entries ++ [(index, constant)]) after

theorem push_eq_ok {pool after : ConstantPool} {constant : Constant} {index : ConstantIndex} :
    pool.push constant = .ok (index, after) ↔
      pool.constants.next + width constant < UInt64.size ∧
        index = UInt16.ofNat pool.constants.next ∧
          after.constants = pool.constants.append constant := by
  obtain ⟨constants, constants_eq⟩ := after
  unfold push
  split
  next overflow refused =>
    constructor
    · intro pushed
      cases pushed
    · intro parts
      rw [SlotVector.push_eq_ok.mpr ⟨parts.1, rfl, rfl⟩] at refused
      cases refused
  next offset others pushed =>
    obtain ⟨fits, rfl, rfl⟩ := SlotVector.push_eq_ok.mp pushed
    simp [fits, eq_comm]

section Built

variable {entries : List (ConstantIndex × Constant)} {pool : ConstantPool}

theorem Built.constants_eq (built : Built entries pool) :
    pool.constants = .ofList 1 (entries.map Prod.snd) := by
  induction built with
  | empty => rfl
  | push built addressable pushed inductionHypothesis =>
    obtain ⟨-, -, appended⟩ := push_eq_ok.mp pushed
    rw [appended, inductionHypothesis, append_ofList, List.map_append]
    rfl

theorem Built.next_eq (built : Built entries pool) :
    pool.constants.next = 1 + totalWidth (entries.map Prod.snd) := by
  rw [built.constants_eq, next_ofList]

theorem Built.indexed_eq (built : Built entries pool) : pool.indexed = entries := by
  induction built with
  | empty => rfl
  | push built addressable pushed inductionHypothesis =>
    obtain ⟨-, rfl, appended⟩ := push_eq_ok.mp pushed
    rw [indexed, appended, toEntries_append, List.map_append, ← indexed, inductionHypothesis]
    rfl

theorem Built.offset_lt (built : Built entries pool) {entry : Entry Constant}
    (member : entry ∈ placed 1 (entries.map Prod.snd)) : entry.offset < UInt16.size := by
  induction built with
  | empty => cases member
  | push built addressable pushed inductionHypothesis =>
    rw [List.map_append, placed_append, ← built.next_eq] at member
    rcases List.mem_append.mp member with earlier | last
    · exact inductionHypothesis earlier
    · obtain rfl := List.mem_singleton.mp last
      exact Nat.lt_succ_of_le addressable

theorem Built.placed_eq (built : Built entries pool) :
    placed 1 (entries.map Prod.snd) = entries.map fun entry => ⟨entry.1.toNat, entry.2⟩ := by
  have kept : ∀ entry ∈ placed 1 (entries.map Prod.snd),
      (⟨(UInt16.ofNat entry.offset).toNat, entry.item⟩ : Entry Constant) = entry := by
    intro entry member
    rw [UInt16.toNat_ofNat_of_lt' (built.offset_lt member)]
  have listed := built.indexed_eq
  rw [indexed, built.constants_eq, toEntries_ofList] at listed
  conv_rhs => rw [← listed, List.map_map]
  exact ((List.map_congr_left kept).trans (List.map_id _)).symm

theorem Built.mem_entries (built : Built entries pool) {index : ConstantIndex}
    {constant : Constant} :
    (index, constant) ∈ entries ↔ ⟨index.toNat, constant⟩ ∈ placed 1 (entries.map Prod.snd) := by
  rw [built.placed_eq, List.mem_map]
  constructor
  · intro member
    exact ⟨_, member, rfl⟩
  · rintro ⟨⟨other, item⟩, member, entry_eq⟩
    obtain ⟨index_eq, rfl⟩ := Entry.mk.inj entry_eq
    rwa [← UInt16.toNat_inj.mp index_eq]

theorem Built.exists_push (built : Built entries pool) (addressable : pool.constants.next ≤ 65535)
    (constant : Constant) :
    ∃ index after, pool.push constant = .ok (index, after) ∧
      index.toNat = pool.constants.next ∧ Built (entries ++ [(index, constant)]) after := by
  have appended_eq : pool.constants.append constant =
      .ofList 1 (pool.constants.append constant).toList := by
    rw [toList_append, ← append_ofList, ← pool.constants_eq]
  have pushed : pool.push constant = .ok (UInt16.ofNat pool.constants.next, ⟨_, appended_eq⟩) := by
    refine push_eq_ok.mpr ⟨?_, rfl, rfl⟩
    have width_le : width constant ≤ 2 := by
      by_cases eightByte : constant.isEightByte
      · exact (width_eq_two eightByte).le
      · exact (width_eq_one eightByte).le.trans one_le_two
    exact Nat.lt_of_le_of_lt (Nat.add_le_add addressable width_le) (by decide)
  exact ⟨_, _, pushed, UInt16.toNat_ofNat_of_lt' (Nat.lt_succ_of_le addressable),
    .push built addressable pushed⟩

theorem exists_built_ofList {constants : List Constant} (few : totalWidth constants ≤ 65535) :
    ∃ entries, Built entries (ofList constants) := by
  induction constants using List.reverseRecOn with
  | nil => exact ⟨[], .empty⟩
  | append_singleton constants constant inductionHypothesis =>
    have taken := constant.width_pos
    rw [totalWidth_append, totalWidth_cons] at few
    obtain ⟨entries, built⟩ := inductionHypothesis (by omega)
    have next_eq : (ofList constants).constants.next = 1 + totalWidth constants := next_ofList ..
    obtain ⟨index, after, pushed, -, after_built⟩ := built.exists_push (by omega) constant
    obtain ⟨-, -, appended⟩ := push_eq_ok.mp pushed
    have after_eq : after = ofList (constants ++ [constant]) := by
      rw [← ofList_toList after, toList, appended, toList_append]
      congr
      exact toList_ofList constants
    exact ⟨_, after_eq ▸ after_built⟩

theorem exists_built_of_read {before after : Cursor} (read_pool : read before = .ok pool after) :
    ∃ entries, Built entries pool := by
  obtain ⟨input, position⟩ := before
  obtain ⟨rest, reached⟩ := after
  obtain ⟨fits, -, -⟩ := Inverts.eq_ok.mp read_pool
  rw [← ofList_toList pool] at fits ⊢
  exact exists_built_ofList (Nat.le_succ_of_le (fits_ofList.mp fits).1)

theorem get_eq_ok {index : ConstantIndex} {constant : Constant} :
    pool.get index = .ok constant ↔ pool.constants.lookup index.toNat = .found constant := by
  unfold get
  cases pool.constants.lookup index.toNat <;> simp

theorem get_eq_error {index : ConstantIndex} :
    pool.get index = .error (.invalidConstantIndex index) ↔
      ∀ constant, pool.get index ≠ .ok constant := by
  unfold get
  cases pool.constants.lookup index.toNat <;> simp

theorem Built.get_eq_ok_iff (built : Built entries pool) {index : ConstantIndex}
    {constant : Constant} : pool.get index = .ok constant ↔ (index, constant) ∈ entries := by
  rw [get_eq_ok, built.constants_eq, lookup_ofList (fun item _ => item.width_pos),
    built.mem_entries]

end Built

/-- Constants with their indices: the first one is 1, and each later one is where the constant before
it ends. -/
structure Enumerates (entries : List (ConstantIndex × Constant)) : Prop where
  first_eq : ∀ first others, entries = first :: others → first.1 = 1
  later_eq : entries.IsChain fun entry next => next.1.toNat = entry.1.toNat + width entry.2
  increasing : entries.Pairwise fun entry later => entry.1 < later.1

theorem Built.enumerates {entries : List (ConstantIndex × Constant)} {pool : ConstantPool}
    (built : Built entries pool) : Enumerates entries where
  first_eq first others entries_eq := by
    have placed_eq := built.placed_eq
    rw [entries_eq] at placed_eq
    have index_eq : 1 = first.1.toNat := (Entry.mk.inj (List.cons.inj placed_eq).1).1
    exact UInt16.toNat_inj.mp index_eq.symm
  later_eq := by
    have chain := isChain_placed 1 (entries.map Prod.snd)
    rwa [built.placed_eq, List.isChain_map] at chain
  increasing := by
    have increasing : (placed 1 (entries.map Prod.snd)).Pairwise
        fun entry later => entry.offset < later.offset :=
      pairwise_offset_lt (fun constant _ => constant.width_pos) 1
    rw [built.placed_eq, List.pairwise_map] at increasing
    exact increasing.imp UInt16.lt_iff_toNat_lt.mpr

/-- Pools that are read are built by pushing. Pushing answers with the next free index, at which the
constant is found from then on, whatever is pushed later. The constants are listed in the order they
were pushed in, each with the answer of its push, and a constant is found at an index exactly if it
is listed there. At any other index looking up fails, such as at zero, at free indices and at the
second index of an eight-byte constant. -/
theorem indices_consistent :
    (∀ before pool after, read before = .ok pool after → ∃ entries, Built entries pool) ∧
    ∀ entries pool, Built entries pool →
      (pool.constants.next ≤ 65535 → ∀ constant, ∃ index after,
        pool.push constant = .ok (index, after) ∧ index.toNat = pool.constants.next ∧
          Built (entries ++ [(index, constant)]) after) ∧
      pool.indexed = entries ∧ pool.toList = entries.map Prod.snd ∧ Enumerates entries ∧
      (∀ index, (∀ constant, pool.get index = .ok constant ↔ (index, constant) ∈ entries) ∧
        ((∀ constant, (index, constant) ∉ entries) →
          pool.get index = .error (.invalidConstantIndex index))) ∧
      pool.get 0 = .error (.invalidConstantIndex 0) ∧
      (∀ index : ConstantIndex, pool.constants.next ≤ index.toNat →
        pool.get index = .error (.invalidConstantIndex index)) ∧
      ∀ index constant, (index, constant) ∈ entries → constant.isEightByte →
        ∀ second : ConstantIndex, second.toNat = index.toNat + 1 →
          pool.get second = .error (.invalidConstantIndex second) := by
  refine ⟨fun _ _ _ => exists_built_of_read, ?_⟩
  intro entries pool built
  have absent {index : ConstantIndex} (unlisted : ∀ constant, (index, constant) ∉ entries) :
      pool.get index = .error (.invalidConstantIndex index) :=
    get_eq_error.mpr fun constant found => unlisted constant (built.get_eq_ok_iff.mp found)
  refine ⟨built.exists_push, built.indexed_eq, ?_, built.enumerates,
    fun index => ⟨fun _ => built.get_eq_ok_iff, absent⟩, ?_, ?_, ?_⟩
  · rw [toList, built.constants_eq, SlotVector.toList_ofList]
  · refine absent fun constant member => ?_
    exact Nat.not_succ_le_zero 0 (start_le_offset (built.mem_entries.mp member))
  · intro index free
    refine absent fun constant member => ?_
    have ends := end_le_next (built.mem_entries.mp member)
    rw [← built.next_eq] at ends
    have positive := constant.width_pos
    dsimp only at ends
    omega
  · intro index constant member eightByte second second_eq
    refine absent fun other other_member => ?_
    have ends := end_le_offset (built.mem_entries.mp member) (built.mem_entries.mp other_member)
      (by dsimp only; omega)
    have two := width_eq_two eightByte
    dsimp only at ends
    omega

/-- A text after an eight-byte constant lies at index 3, and nothing at index 2. -/
theorem indices_consistent_after_long :
    ∃ between after, empty.push (.long 42) = .ok (1, between) ∧
      between.push (.utf8 [120]) = .ok (3, after) ∧
      Built [(1, .long 42), (3, .utf8 [120])] after ∧ after.get 3 = .ok (.utf8 [120]) ∧
      after.get 2 = .error (.invalidConstantIndex 2) := by
  have first : empty.push (.long 42) = .ok (1, ofList [.long 42]) := rfl
  have second : (ofList [.long 42]).push (.utf8 [120]) =
      .ok (3, ofList [.long 42, .utf8 [120]]) := rfl
  have between_built : Built [(1, .long 42)] (ofList [.long 42]) :=
    .push .empty (by decide) first
  have built : Built [(1, .long 42), (3, .utf8 [120])] (ofList [.long 42, .utf8 [120]]) :=
    .push between_built (by decide) second
  obtain ⟨-, -, -, -, found, -, -, inside⟩ := indices_consistent.2 _ _ built
  exact ⟨_, _, first, second, built, ((found 3).1 _).mpr (by decide),
    inside 1 (.long 42) (by decide) rfl 2 rfl⟩

end ClassMachine.ConstantPool
