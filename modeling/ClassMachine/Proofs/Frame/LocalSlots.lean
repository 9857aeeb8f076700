import ClassMachine.Proofs.Frame.Writes
import ClassMachine.Proofs.Value.Halves

set_option autoImplicit false

/-!
# Local variables as a row of slots

Cells are laid over the slots from their index on. A load looks at the slots and not at how they
came to hold what they do: it gives back what was stored there, narrow loads find the halves of a
wide cell, and a wide load puts any two neighbours together. So a narrow store changes one half of a
wide cell, and stores that do not touch the same slots can be done in either order.
-/

namespace ClassMachine

open Outcome

/-- The slots that a value takes at an index. -/
def Value.range (α : Type) [Value α] (index : UInt16) : Finset Nat :=
  Finset.Ico index.toNat (index.toNat + Value.slotCount α)

namespace LocalVariables

section Cells

variable {locals stored : LocalVariables} {index : UInt16} {cell : Cell}

theorem getElem?_storeCell_inside (succeeded : locals.storeCell index cell = .ok stored)
    (offset : Nat) (inside : offset < width cell) :
    stored.slots[index.toNat + offset]? = cell.slots[offset]? := by
  obtain ⟨room, rfl⟩ := storeCell_eq_ok.mp succeeded
  have within : offset < cell.slots.length := by rwa [Cell.length_slots]
  have taken : (locals.slots.toList.take index.toNat).length = index.toNat := by
    rw [List.length_take, Array.length_toList]
    exact Nat.min_eq_left (Nat.le_of_add_right_le room)
  rw [← Array.getElem?_toList, toList_replace, List.getElem?_append_right (by omega), taken,
    Nat.add_sub_cancel_left, List.getElem?_append_left within]

theorem loadCell_eq_ok {count : Nat} :
    locals.loadCell index count = .ok cell ↔
      width cell = count ∧
        ∀ offset < count, locals.slots[index.toNat + offset]? = cell.slots[offset]? := by
  constructor
  · intro loaded
    unfold loadCell at loaded
    split at loaded
    next room =>
      have found {offset : Nat} (inside : index.toNat + offset < locals.size) :
          locals.slots[index.toNat + offset]? =
            some (locals.slots.getD (index.toNat + offset) 0) := by
        have within : index.toNat + offset < locals.slots.size := inside
        rw [Array.getD_eq_getD_getElem?, Array.getElem?_eq_getElem within]
        rfl
      split at loaded
      next =>
        cases loaded
        refine ⟨rfl, fun offset inside => ?_⟩
        obtain rfl : offset = 0 := by omega
        exact found (by omega)
      next =>
        cases loaded
        refine ⟨rfl, fun offset inside => ?_⟩
        rw [Cell.slots_ofHalves, found (by omega)]
        obtain rfl | rfl : offset = 0 ∨ offset = 1 := by omega
        · rfl
        · rfl
      next => cases loaded
    next => cases loaded
  · rintro ⟨rfl, found⟩
    cases cell with
    | narrow bits =>
      have first : locals.slots[index.toNat]? = some bits := found 0 Nat.one_pos
      have room : index.toNat + 1 ≤ locals.size := (Array.getElem?_eq_some_iff.mp first).1
      change locals.loadCell index 1 = _
      rw [loadCell, if_pos room, Array.getD_eq_getD_getElem?, first]
      rfl
    | wide bits =>
      have first : locals.slots[index.toNat]? = some (bits >>> 32).toUInt32 := found 0 Nat.two_pos
      have second : locals.slots[index.toNat + 1]? = some bits.toUInt32 := found 1 Nat.one_lt_two
      have room : index.toNat + 2 ≤ locals.size := (Array.getElem?_eq_some_iff.mp second).1
      change locals.loadCell index 2 = _
      rw [loadCell, if_pos room, Array.getD_eq_getD_getElem?, Array.getD_eq_getD_getElem?, first,
        second, Cell.wide_eq_ofHalves]
      rfl

theorem loadCell_narrow {bits : UInt32} :
    locals.loadCell index 1 = .ok (.narrow bits) ↔ locals.slots[index.toNat]? = some bits := by
  rw [loadCell_eq_ok]
  constructor
  · rintro ⟨-, found⟩
    exact found 0 Nat.one_pos
  · intro found
    refine ⟨rfl, fun offset inside => ?_⟩
    obtain rfl : offset = 0 := by omega
    exact found

theorem loadCell_ofHalves {high low : UInt32} :
    locals.loadCell index 2 = .ok (.ofHalves high low) ↔
      locals.slots[index.toNat]? = some high ∧ locals.slots[index.toNat + 1]? = some low := by
  rw [loadCell_eq_ok, Cell.slots_ofHalves]
  constructor
  · rintro ⟨-, found⟩
    exact ⟨found 0 Nat.two_pos, found 1 Nat.one_lt_two⟩
  · rintro ⟨first, second⟩
    refine ⟨rfl, fun offset inside => ?_⟩
    obtain rfl | rfl : offset = 0 ∨ offset = 1 := by omega
    · exact first
    · exact second

theorem loadCell_stored (succeeded : locals.storeCell index cell = .ok stored) :
    stored.loadCell index (width cell) = .ok cell :=
  loadCell_eq_ok.mpr ⟨rfl, getElem?_storeCell_inside succeeded⟩

theorem eq_of_getElem?_eq {first second : LocalVariables}
    (same : ∀ position : Nat, first.slots[position]? = second.slots[position]?) : first = second :=
  congrArg mk (Array.ext_getElem? same)

/-- A store that is done first can as well be done last, if it touches other slots. -/
theorem storeCell_swap {first second : Cell} {firstIndex secondIndex : UInt16}
    {middle both : LocalVariables}
    (apart : Disjoint (Finset.Ico firstIndex.toNat (firstIndex.toNat + width first))
      (Finset.Ico secondIndex.toNat (secondIndex.toNat + width second)))
    (head : locals.storeCell firstIndex first = .ok middle)
    (tail : middle.storeCell secondIndex second = .ok both) :
    ∃ other, locals.storeCell secondIndex second = .ok other ∧
      other.storeCell firstIndex first = .ok both := by
  have firstRoom := (storeCell_eq_ok.mp head).1
  have secondRoom := (storeCell_eq_ok.mp tail).1
  rw [size_storeCell head] at secondRoom
  obtain ⟨other, otherHead⟩ : ∃ other, locals.storeCell secondIndex second = .ok other :=
    ⟨_, storeCell_of_room secondRoom⟩
  rw [← size_storeCell otherHead] at firstRoom
  obtain ⟨swapped, otherTail⟩ : ∃ swapped, other.storeCell firstIndex first = .ok swapped :=
    ⟨_, storeCell_of_room firstRoom⟩
  refine ⟨other, otherHead, otherTail.trans (congrArg Except.ok (eq_of_getElem?_eq ?_))⟩
  intro position
  by_cases inFirst : position ∈ Finset.Ico firstIndex.toNat (firstIndex.toNat + width first)
  · have notInSecond := Finset.disjoint_left.mp apart inFirst
    rw [getElem?_storeCell tail notInSecond]
    obtain ⟨lower, upper⟩ := Finset.mem_Ico.mp inFirst
    obtain ⟨offset, rfl⟩ := Nat.exists_eq_add_of_le lower
    rw [getElem?_storeCell_inside head offset (by omega),
      getElem?_storeCell_inside otherTail offset (by omega)]
  · rw [getElem?_storeCell otherTail inFirst]
    by_cases inSecond :
        position ∈ Finset.Ico secondIndex.toNat (secondIndex.toNat + width second)
    · obtain ⟨lower, upper⟩ := Finset.mem_Ico.mp inSecond
      obtain ⟨offset, rfl⟩ := Nat.exists_eq_add_of_le lower
      rw [getElem?_storeCell_inside tail offset (by omega),
        getElem?_storeCell_inside otherHead offset (by omega)]
    · rw [getElem?_storeCell otherHead inSecond, getElem?_storeCell tail inSecond,
        getElem?_storeCell head inFirst]

end Cells

section Values

variable {α : Type} [Value α] {locals stored : LocalVariables} {index : UInt16} {value : α}

theorem load_of_loadCell {cell : Cell}
    (loaded : locals.loadCell index (Value.slotCount α) = .ok cell) :
    locals.load α index = Value.ofCell cell := by
  rw [load, loaded]
  rfl

theorem load_stored (succeeded : locals.store index value = .ok stored) :
    stored.load α index = .ok value := by
  have loaded := loadCell_stored succeeded
  rw [Value.width_toCell] at loaded
  rw [load_of_loadCell loaded, Value.ofCell_toCell]

theorem load_ofHalves {high low : UInt32} (wide : Value.slotCount α = 2)
    (first : locals.slots[index.toNat]? = some high)
    (second : locals.slots[index.toNat + 1]? = some low) :
    locals.load α index = Value.ofCell (.ofHalves high low) := by
  have loaded := loadCell_ofHalves.mpr ⟨first, second⟩
  rw [← wide] at loaded
  exact load_of_loadCell loaded

/-- Integers that are loaded from single slots are the halves of this double word. -/
def HoldsHalves (locals : LocalVariables) (index : UInt16) (bits : UInt64) : Prop :=
  locals.load Int32 index = .ok (bits >>> 32).toUInt32.toInt32 ∧
    ∀ next : UInt16, next.toNat = index.toNat + 1 →
      locals.load Int32 next = .ok bits.toUInt32.toInt32

/-- What is loaded from two slots, of which the one at an index is the first or the second, has
these bits for the half that is in this slot, and for the other one what it had before. -/
structure ReplacesHalf (before after : LocalVariables) (index : UInt16) (bits : UInt32) : Prop where
  high_half : ∀ {β : Type} [Value β], Value.slotCount β = 2 → ∀ high low,
    before.slots[index.toNat]? = some high → before.slots[index.toNat + 1]? = some low →
      before.load β index = Value.ofCell (.ofHalves high low) ∧
        after.load β index = Value.ofCell (.ofHalves bits low)
  low_half : ∀ {β : Type} [Value β], Value.slotCount β = 2 → ∀ (previous : UInt16) high low,
    previous.toNat + 1 = index.toNat →
    before.slots[previous.toNat]? = some high → before.slots[index.toNat]? = some low →
      before.load β previous = Value.ofCell (.ofHalves high low) ∧
        after.load β previous = Value.ofCell (.ofHalves high bits)

theorem holdsHalves_of_store {bits : UInt64} (wide : Value.toCell value = .wide bits)
    (succeeded : locals.store index value = .ok stored) : stored.HoldsHalves index bits := by
  rw [store, wide] at succeeded
  have load_int {position : UInt16} {half : UInt32}
      (found : stored.slots[position.toNat]? = some half) :
      stored.load Int32 position = .ok half.toInt32 :=
    (load_of_loadCell (loadCell_narrow.mpr found)).trans rfl
  constructor
  · exact load_int (getElem?_storeCell_inside succeeded 0 Nat.two_pos)
  · intro next next_eq
    have found := getElem?_storeCell_inside succeeded 1 Nat.one_lt_two
    rw [← next_eq] at found
    exact load_int found

theorem replacesHalf_of_store {bits : UInt32} (narrow : Value.toCell value = .narrow bits)
    (succeeded : locals.store index value = .ok stored) :
    ReplacesHalf locals stored index bits := by
  rw [store, narrow] at succeeded
  have here : stored.slots[index.toNat]? = some bits :=
    getElem?_storeCell_inside succeeded 0 Nat.one_pos
  have elsewhere {position : Nat} (other : position ≠ index.toNat) :
      stored.slots[position]? = locals.slots[position]? := by
    refine getElem?_storeCell succeeded fun inside => other ?_
    rw [Cell.width_narrow, Finset.mem_Ico] at inside
    omega
  constructor
  · intro β _ wide high low first second
    have kept := (elsewhere (Nat.succ_ne_self index.toNat)).trans second
    exact ⟨load_ofHalves wide first second, load_ofHalves wide here kept⟩
  · intro β _ wide previous high low previous_eq first second
    have kept := (elsewhere (by omega : previous.toNat ≠ index.toNat)).trans first
    rw [← previous_eq] at here second
    exact ⟨load_ofHalves wide first second, load_ofHalves wide kept here⟩

end Values

/-- A store succeeds if and only if its slots are there. The value can then be loaded again, no other
slot has changed, a wide value can be loaded as its two halves, a narrow one has taken the place of
a half of what wide loads find, and stores to other slots can be done before or after it. -/
theorem store_exact {α β : Type} [Value α] [Value β] (locals : LocalVariables)
    (index otherIndex : UInt16) (value : α) (other : β) :
    ((∃ stored, locals.store index value = .ok stored) ↔
      index.toNat + Value.slotCount α ≤ locals.size) ∧
    (¬index.toNat + Value.slotCount α ≤ locals.size →
      locals.store index value = .error (.invalidLocalIndex index)) ∧
    (∀ stored, locals.store index value = .ok stored →
      stored.load α index = .ok value ∧
      stored.size = locals.size ∧
      (∀ position ∉ Value.range α index, stored.slots[position]? = locals.slots[position]?) ∧
      (∀ bits, Value.toCell value = .wide bits → stored.HoldsHalves index bits) ∧
      ∀ bits, Value.toCell value = .narrow bits → ReplacesHalf locals stored index bits) ∧
    (Disjoint (Value.range α index) (Value.range β otherIndex) → ∀ both,
      (locals.store index value >>= fun stored => stored.store otherIndex other) = .ok both ↔
        (locals.store otherIndex other >>= fun stored => stored.store index value) = .ok both) := by
  have width_eq : width (Value.toCell value) = Value.slotCount α := Value.width_toCell value
  refine ⟨?_, ?_, ?_, ?_⟩
  · rw [← width_eq]
    simp only [store, storeCell_eq_ok, exists_and_left, exists_eq, and_true]
  · rw [← width_eq]
    exact storeCell_of_full
  · intro stored succeeded
    refine ⟨load_stored succeeded, size_storeCell succeeded, fun position outside => ?_,
      fun bits wide => holdsHalves_of_store wide succeeded,
      fun bits narrow => replacesHalf_of_store narrow succeeded⟩
    rw [Value.range, ← width_eq] at outside
    exact getElem?_storeCell succeeded outside
  · intro apart both
    rw [Value.range, Value.range, ← width_eq, ← Value.width_toCell other] at apart
    simp only [except_bind_eq_ok]
    constructor
    · rintro ⟨middle, head, tail⟩
      exact storeCell_swap apart head tail
    · rintro ⟨middle, head, tail⟩
      exact storeCell_swap apart.symm head tail

/-- A long that reaches the last slot, whose low half is then overwritten, beside a flag that can be
stored before it or after it. One slot further on, the long does not fit. -/
theorem store_exact_long_beside_flag :
    (zeros 3).store 2 (4294967298 : Int64) = .error (.invalidLocalIndex 2) ∧
      ∃ long changed, (zeros 3).store 1 (4294967298 : Int64) = .ok long ∧
        long.load Int64 1 = .ok 4294967298 ∧ long.HoldsHalves 1 4294967298 ∧
        long.store 2 (-1 : Int8) = .ok changed ∧ changed.load Int64 1 = .ok 8589934591 ∧
        long.store 0 true = .ok ⟨#[1, 1, 2]⟩ ∧
        ((zeros 3).store 0 true >>= fun stored => stored.store 1 (4294967298 : Int64)) =
          .ok ⟨#[1, 1, 2]⟩ := by
  obtain ⟨-, refused, -, -⟩ := store_exact (zeros 3) 2 0 (4294967298 : Int64) true
  obtain ⟨-, -, stores, swap⟩ := store_exact (zeros 3) 1 0 (4294967298 : Int64) true
  obtain ⟨-, -, overwrites, -⟩ := store_exact ⟨#[0, 1, 2]⟩ 2 0 (-1 : Int8) true
  obtain ⟨loaded, -, -, halves, -⟩ := stores ⟨#[0, 1, 2]⟩ rfl
  obtain ⟨-, -, -, -, half⟩ := overwrites ⟨#[0, 1, 0xffffffff]⟩ rfl
  have apart : Disjoint (Value.range Int64 1) (Value.range Bool 0) := by
    unfold Value.range
    decide
  exact ⟨refused (by decide), ⟨#[0, 1, 2]⟩, ⟨#[0, 1, 0xffffffff]⟩, rfl, loaded, halves _ rfl, rfl,
    ((half _ rfl).low_half rfl 1 1 2 rfl rfl rfl).2.trans rfl, rfl, (swap apart _).mp rfl⟩

end LocalVariables

end ClassMachine
