import ClassMachine.Proofs.Outcome
import ClassMachine.SlotVector

set_option autoImplicit false

/-!
# Where items lie

Each item starts where the one before it ends. Items that take slots therefore start at different
offsets, the later ones at greater offsets, and looking an offset up finds an item exactly if this
item was put there.
-/

namespace ClassMachine.SlotVector

variable {α : Type} {start offset : Nat} {item : α}

theorem lookup_eq_found {vector : SlotVector α} :
    vector.lookup offset = .found item ↔
      vector.start ≤ offset ∧ vector.startingAt offset = some item := by
  unfold lookup
  split
  next small => simp [Nat.not_le_of_lt small]
  next large =>
    cases vector.startingAt offset with
    | some found => simp [Nat.le_of_not_lt large]
    | none =>
      dsimp only
      split <;> simp

variable [HasWidth α] {items : List α}

/-- Items one after the other from an offset on. -/
def placed : Nat → List α → List (Entry α)
  | _, [] => []
  | start, item :: items => ⟨start, item⟩ :: placed (start + width item) items

@[simp]
theorem map_item_placed (start : Nat) (items : List α) :
    (placed start items).map Entry.item = items := by
  induction items generalizing start with
  | nil => rfl
  | cons item items inductionHypothesis => rw [placed, List.map_cons, inductionHypothesis]

theorem item_mem {entry : Entry α} (member : entry ∈ placed start items) : entry.item ∈ items := by
  have mapped := List.mem_map_of_mem (f := Entry.item) member
  rwa [map_item_placed] at mapped

theorem placed_append (start : Nat) (first second : List α) :
    placed start (first ++ second) =
      placed start first ++ placed (start + ClassMachine.totalWidth first) second := by
  induction first generalizing start with
  | nil => rfl
  | cons item items inductionHypothesis =>
    rw [List.cons_append, placed, inductionHypothesis, placed, List.cons_append, totalWidth_cons,
      Nat.add_assoc]

theorem getElem?_placed (start : Nat) (items : List α) (position : Nat) :
    (placed start items)[position]? = items[position]?.map fun item =>
      ⟨start + ClassMachine.totalWidth (items.take position), item⟩ := by
  induction items generalizing start position with
  | nil => simp [placed]
  | cons item items inductionHypothesis =>
    cases position with
    | zero => simp [placed]
    | succ position => simp [placed, inductionHypothesis, Nat.add_assoc]

theorem toEntries_ofList (start : Nat) (items : List α) :
    (ofList start items).toEntries = placed start items := by
  suffices extended : ∀ vector : SlotVector α,
      (items.foldl append vector).toEntries = vector.toEntries ++ placed vector.next items from
    extended (empty start)
  intro vector
  induction items generalizing vector with
  | nil => exact (List.append_nil _).symm
  | cons item items inductionHypothesis =>
    rw [List.foldl_cons, inductionHypothesis, toEntries_append, List.append_assoc]
    rfl

theorem mem_entries_ofList {entry : Entry α} :
    entry ∈ (ofList start items).entries ↔ entry ∈ placed start items := by
  rw [← toEntries_ofList, toEntries, List.mem_reverse]

theorem isChain_placed (start : Nat) (items : List α) :
    (placed start items).IsChain fun entry next =>
      next.offset = entry.offset + width entry.item := by
  induction items generalizing start with
  | nil => exact .nil
  | cons item items inductionHypothesis =>
    cases items with
    | nil => exact .singleton _
    | cons second others => exact .cons_cons rfl (inductionHypothesis _)

theorem start_le_offset {entry : Entry α} (member : entry ∈ placed start items) :
    start ≤ entry.offset := by
  induction items generalizing start with
  | nil => cases member
  | cons item items inductionHypothesis =>
    rcases List.mem_cons.mp member with rfl | later
    · exact Nat.le_refl _
    · exact Nat.le_trans (Nat.le_add_right ..) (inductionHypothesis later)

theorem end_le_next {entry : Entry α} (member : entry ∈ placed start items) :
    entry.offset + width entry.item ≤ start + ClassMachine.totalWidth items := by
  induction items generalizing start with
  | nil => cases member
  | cons item items inductionHypothesis =>
    rw [totalWidth_cons, ← Nat.add_assoc]
    rcases List.mem_cons.mp member with rfl | later
    · exact Nat.le_add_right ..
    · exact inductionHypothesis later

theorem pairwise_placed (start : Nat) (items : List α) :
    (placed start items).Pairwise fun entry later =>
      entry.offset + width entry.item ≤ later.offset := by
  induction items generalizing start with
  | nil => exact .nil
  | cons item items inductionHypothesis =>
    exact .cons (fun _ => start_le_offset) (inductionHypothesis _)

theorem end_le_offset {entry other : Entry α} (member : entry ∈ placed start items)
    (other_member : other ∈ placed start items) (before : entry.offset < other.offset) :
    entry.offset + width entry.item ≤ other.offset := by
  induction items generalizing start with
  | nil => cases member
  | cons item items inductionHypothesis =>
    rcases List.mem_cons.mp other_member with rfl | other_later
    · exact absurd (start_le_offset member) (Nat.not_le_of_lt before)
    · rcases List.mem_cons.mp member with rfl | later
      · exact start_le_offset other_later
      · exact inductionHypothesis later other_later

section Positive

variable (positive : ∀ item ∈ items, 0 < width item)

include positive

theorem pairwise_offset_lt (start : Nat) :
    (placed start items).Pairwise fun entry later => entry.offset < later.offset := by
  refine (pairwise_placed start items).imp_of_mem ?_
  intro entry later member _ apart
  exact Nat.lt_of_lt_of_le (Nat.lt_add_of_pos_right (positive entry.item (item_mem member))) apart

theorem eq_of_offset_eq {entry other : Entry α} (member : entry ∈ placed start items)
    (other_member : other ∈ placed start items) (same : entry.offset = other.offset) :
    entry = other := by
  have distinct : ((placed start items).map Entry.offset).Nodup :=
    List.pairwise_map.mpr ((pairwise_offset_lt positive start).imp Nat.ne_of_lt)
  exact List.inj_on_of_nodup_map distinct member other_member same

theorem startingAt_ofList :
    (ofList start items).startingAt offset = some item ↔ ⟨offset, item⟩ ∈ placed start items := by
  unfold startingAt
  rw [Option.map_eq_some_iff]
  constructor
  · rintro ⟨⟨_, _⟩, found, rfl⟩
    have starts := List.find?_some found
    obtain rfl := beq_iff_eq.mp starts
    exact mem_entries_ofList.mp (List.mem_of_find?_eq_some found)
  · intro member
    have found : ((ofList start items).entries.find? fun entry => entry.offset == offset).isSome :=
      List.find?_isSome.mpr ⟨_, mem_entries_ofList.mpr member, beq_self_eq_true offset⟩
    obtain ⟨entry, found⟩ := Option.isSome_iff_exists.mp found
    have starts := List.find?_some found
    have entry_member := mem_entries_ofList.mp (List.mem_of_find?_eq_some found)
    have entry_eq := eq_of_offset_eq positive entry_member member (beq_iff_eq.mp starts)
    exact ⟨entry, found, congrArg Entry.item entry_eq⟩

theorem lookup_ofList :
    (ofList start items).lookup offset = .found item ↔ ⟨offset, item⟩ ∈ placed start items := by
  rw [lookup_eq_found, start_ofList, startingAt_ofList positive]
  exact and_iff_right_of_imp start_le_offset

end Positive

end ClassMachine.SlotVector
