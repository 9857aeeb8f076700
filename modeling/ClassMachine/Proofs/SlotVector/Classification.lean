import ClassMachine.Proofs.SlotVector
import ClassMachine.Proofs.SlotVector.History

set_option autoImplicit false

/-!
# Where an offset lies

An offset lies before a vector, at an item, inside an item or past the end, and in one of these
places only if every item takes a slot. Looking it up tells which, from the number of items that
start before it: an offset inside an item has that item and all earlier ones before it.
-/

namespace ClassMachine.SlotVector

variable {α : Type} [HasWidth α] {start offset position : Nat} {items : List α}

/-- Where an offset lies, seen from the entries in their order. -/
inductive Lies (vector : SlotVector α) (offset : Nat) : Lookup α → Prop where
  | tooSmall (before : offset < vector.start) : Lies vector offset .tooSmall
  | found {position : Nat} {item : α}
    (here : vector.toEntries[position]? = some ⟨offset, item⟩) : Lies vector offset (.found item)
  | inside {position : Nat} {entry : Entry α} (here : vector.toEntries[position]? = some entry)
    (later : entry.offset < offset) (within : offset < entry.offset + width entry.item) :
    Lies vector offset (.inside position)
  | tooLarge (beyond : vector.next ≤ offset) : Lies vector offset .tooLarge

theorem exists_placed_around (from_start : start ≤ offset)
    (before_end : offset < start + ClassMachine.totalWidth items) :
    ∃ (position : Nat) (entry : Entry α), (placed start items)[position]? = some entry ∧
      entry.offset ≤ offset ∧ offset < entry.offset + width entry.item := by
  induction items generalizing start with
  | nil => exact absurd before_end (Nat.not_lt_of_le from_start)
  | cons item items inductionHypothesis =>
    by_cases first : offset < start + width item
    · exact ⟨0, ⟨start, item⟩, rfl, from_start, first⟩
    · rw [totalWidth_cons, ← Nat.add_assoc] at before_end
      obtain ⟨position, entry, here, around⟩ :=
        inductionHypothesis (Nat.le_of_not_lt first) before_end
      exact ⟨position + 1, entry, here, around⟩

theorem exists_lies (start : Nat) (items : List α) (offset : Nat) :
    ∃ result, (ofList start items).Lies offset result := by
  by_cases before : offset < start
  · exact ⟨_, .tooSmall (by rwa [start_ofList])⟩
  by_cases beyond : start + ClassMachine.totalWidth items ≤ offset
  · exact ⟨_, .tooLarge (by rwa [next_ofList])⟩
  obtain ⟨position, entry, here, later, within⟩ :=
    exists_placed_around (Nat.le_of_not_lt before) (Nat.lt_of_not_le beyond)
  rw [← toEntries_ofList] at here
  by_cases same : entry.offset = offset
  · subst same
    exact ⟨_, .found here⟩
  · exact ⟨_, .inside here (Nat.lt_of_le_of_ne later same) within⟩

theorem countP_placed {entry : Entry α} (here : (placed start items)[position]? = some entry)
    (later : entry.offset < offset) (within : offset < entry.offset + width entry.item) :
    (placed start items).countP (fun other => other.offset < offset) = position + 1 := by
  induction items generalizing start position with
  | nil => simp [placed] at here
  | cons item items inductionHypothesis =>
    rw [placed] at here ⊢
    cases position with
    | zero =>
      obtain rfl : ⟨start, item⟩ = entry := Option.some.inj here
      have others : (placed (start + width item) items).countP
          (fun other => other.offset < offset) = 0 := by
        apply List.countP_eq_zero.mpr
        intro other member
        have apart := start_le_offset member
        simpa using Nat.le_trans (Nat.le_of_lt within) apart
      rw [List.countP_cons_of_pos (by simpa using later), others]
    | succ position =>
      rw [List.getElem?_cons_succ] at here
      have apart := start_le_offset (List.mem_of_getElem? here)
      have first : start < offset := by omega
      rw [List.countP_cons_of_pos (by simpa using first), inductionHypothesis here]

theorem insertionPoint_ofList (start : Nat) (items : List α) (offset : Nat) :
    (ofList start items).insertionPoint offset =
      (placed start items).countP fun entry => entry.offset < offset := by
  rw [← toEntries_ofList, toEntries, List.countP_reverse, insertionPoint]

section Positive

variable (positive : ∀ item ∈ items, 0 < width item)

include positive

theorem lookup_of_inside {entry : Entry α} (here : (placed start items)[position]? = some entry)
    (later : entry.offset < offset) (within : offset < entry.offset + width entry.item) :
    (ofList start items).lookup offset = .inside position := by
  have member := List.mem_of_getElem? here
  have from_start := start_le_offset member
  have before_end := end_le_next member
  apply lookup_eq_inside.mpr
  rw [start_ofList, next_ofList, insertionPoint_ofList, countP_placed here later within]
  refine ⟨by omega, ?_, by omega, rfl⟩
  -- An item that started here would start before the end of the one around it.
  apply Option.eq_none_iff_forall_ne_some.mpr
  intro other starts
  have apart := end_le_offset member ((startingAt_ofList positive).mp starts) later
  exact Nat.not_le_of_lt within apart

theorem lookup_of_beyond (beyond : start + ClassMachine.totalWidth items ≤ offset) :
    (ofList start items).lookup offset = .tooLarge := by
  have earlier : ∀ entry ∈ (ofList start items).entries, entry.offset < offset := by
    intro entry member
    have placed := mem_entries_ofList.mp member
    have ends := end_le_next placed
    have slots := positive entry.item (item_mem placed)
    omega
  have none_starts : (ofList start items).startingAt offset = none := by
    apply Option.map_eq_none_iff.mpr
    apply List.find?_eq_none.mpr
    intro entry member
    simpa using Nat.ne_of_lt (earlier entry member)
  have all_before : (ofList start items).insertionPoint offset = (ofList start items).size := by
    apply List.countP_eq_length.mpr
    simpa using earlier
  unfold lookup
  rw [start_ofList, next_ofList, if_neg (by omega), none_starts]
  exact if_pos ⟨all_before, beyond⟩

theorem lookup_of_lies {result : Lookup α} (lies : (ofList start items).Lies offset result) :
    (ofList start items).lookup offset = result := by
  cases lies with
  | tooSmall before => exact if_pos before
  | found here =>
    rw [toEntries_ofList] at here
    exact (lookup_ofList positive).mpr (List.mem_of_getElem? here)
  | inside here later within =>
    rw [toEntries_ofList] at here
    exact lookup_of_inside positive here later within
  | tooLarge beyond =>
    rw [next_ofList] at beyond
    exact lookup_of_beyond positive beyond

/-- As every offset lies somewhere, it lies nowhere else. -/
theorem lookup_eq_iff_lies {result : Lookup α} :
    (ofList start items).lookup offset = result ↔ (ofList start items).Lies offset result := by
  constructor
  · intro looked
    obtain ⟨actual, lies⟩ := exists_lies start items offset
    rwa [← looked, lookup_of_lies positive lies]
  · exact lookup_of_lies positive

end Positive

/-- However a vector was made of items that take slots, they start at different offsets, the later
ones at greater offsets, and looking an offset up tells where it lies: before the start, at an item,
inside the item at a position, or past the end. It lies in exactly one of these places. -/
theorem lookup_classifies {start : UInt64} {operations : List (Operation α)}
    {vector : SlotVector α} (completed : after start operations = .ok vector)
    (positive : ∀ item, .push item ∈ operations → 0 < width item) (offset : Nat) :
    vector.start = start.toNat ∧
    vector.toEntries.Pairwise (fun entry later => entry.offset < later.offset) ∧
    (∀ result, vector.lookup offset = result ↔ vector.Lies offset result) ∧
    ∃! result, vector.Lies offset result := by
  have left_positive : ∀ item ∈ survivors operations, 0 < width item := by
    intro item survives
    exact positive item (mem_survivors survives)
  obtain ⟨-, rfl⟩ := after_eq_ok.mp completed
  rw [toEntries_ofList]
  refine ⟨start_ofList _ _, pairwise_offset_lt left_positive _,
    fun result => lookup_eq_iff_lies left_positive, ?_⟩
  refine ⟨_, (lookup_eq_iff_lies left_positive).mp rfl, ?_⟩
  intro other lies
  exact (lookup_of_lies left_positive lies).symm

/-- From offset 1 on, the wide cell has the offsets 1 and 2 and the last narrow one has 3. -/
theorem lookup_classifies_replaced_top :
    (∀ cell, .push cell ∈ replacingTop → 0 < width cell) ∧
      ∃ vector, after 1 replacingTop = .ok vector ∧ vector.Lies 2 (.inside 0) ∧
        vector.Lies 3 (.found (.narrow 9)) ∧ vector.Lies 4 .tooLarge := by
  have positive : ∀ cell, .push cell ∈ replacingTop → 0 < width cell := by
    intro cell _
    cases cell <;> simp
  have completed : after 1 replacingTop = .ok (ofList 1 [.wide 7, .narrow 9]) := rfl
  refine ⟨positive, _, completed, ?_, ?_, ?_⟩
  · exact ((lookup_classifies completed positive 2).2.2.1 (.inside 0)).mp rfl
  · exact ((lookup_classifies completed positive 3).2.2.1 (.found (.narrow 9))).mp rfl
  · exact ((lookup_classifies completed positive 4).2.2.1 .tooLarge).mp rfl

end ClassMachine.SlotVector
