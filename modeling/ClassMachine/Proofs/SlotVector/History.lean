import ClassMachine.Proofs.SlotVector.Offsets
import ClassMachine.Value.Cell

set_option autoImplicit false

/-!
# What a vector keeps of its history

Items are pushed and popped at the end, and all of them can be cleared away. A push fails if the
offset after its item is no machine word, and then there is no vector to go on with. Otherwise the
vector is the one that the items which are left make when they are pushed in order on a new vector:
the end that it remembers is never out of date. Its entries therefore tell its items and, unless
there are none, where it starts.
-/

namespace ClassMachine.SlotVector

variable {α : Type}

inductive Operation (α : Type) where
  | push (item : α)
  | pop
  | clear

namespace Operation

/-- The items that an operation leaves of these. -/
def survivors (items : List α) : Operation α → List α
  | .push item => items ++ [item]
  | .pop => items.dropLast
  | .clear => []

theorem mem_survivors {items : List α} {operation : Operation α} {item : α}
    (survives : item ∈ operation.survivors items) : item ∈ items ∨ operation = .push item := by
  cases operation with
  | push pushed =>
    apply (List.mem_append.mp survives).imp_right
    intro last
    rw [List.mem_singleton.mp last]
  | pop => exact .inl (List.mem_of_mem_dropLast survives)
  | clear => simp [survivors] at survives

end Operation

/-- The items that are left once all this has been done to a new vector. -/
def survivors (operations : List (Operation α)) : List α :=
  operations.foldl Operation.survivors []

theorem survivors_concat (operations : List (Operation α)) (operation : Operation α) :
    survivors (operations ++ [operation]) = operation.survivors (survivors operations) :=
  List.foldl_concat ..

theorem mem_survivors {operations : List (Operation α)} {item : α}
    (survives : item ∈ survivors operations) : .push item ∈ operations := by
  suffices kept : ∀ items, item ∈ operations.foldl Operation.survivors items →
      item ∈ items ∨ .push item ∈ operations by
    simpa using kept [] survives
  clear survives
  intro items survives
  induction operations generalizing items with
  | nil => exact .inl survives
  | cons operation operations inductionHypothesis =>
    rcases inductionHypothesis _ survives with earlier | later
    · rcases Operation.mem_survivors earlier with kept | rfl
      · exact .inl kept
      · exact .inr (List.mem_cons_self ..)
    · exact .inr (List.mem_cons_of_mem _ later)

section Perform

variable [HasWidth α]

/-- What an operation leaves of a vector. Popping from an empty one does nothing. -/
def perform (vector : SlotVector α) : Operation α → Except OffsetOverflow (SlotVector α)
  | .push item => do
    let (_, vector) ← vector.push item
    pure vector
  | .pop =>
    match vector.pop with
    | some (_, others) => pure others
    | none => pure vector
  | .clear => pure vector.clear

def after (start : UInt64) (operations : List (Operation α)) :
    Except OffsetOverflow (SlotVector α) :=
  operations.foldlM perform (empty start.toNat)

theorem pop_ofList (start : Nat) (items : List α) (item : α) :
    (ofList start (items ++ [item])).pop = some (item, ofList start items) := by
  rw [← append_ofList, pop_append]

theorem pushAll_of_fits {items : List α} {vector : SlotVector α}
    (fits : vector.next + ClassMachine.totalWidth items < UInt64.size) :
    pushAll items vector = .ok (items.foldl append vector) := by
  induction items generalizing vector with
  | nil => rfl
  | cons item items inductionHypothesis =>
    rw [totalWidth_cons, ← Nat.add_assoc] at fits
    have pushed : vector.push item = .ok (vector.next, vector.append item) :=
      push_eq_ok.mpr ⟨Nat.lt_of_le_of_lt (Nat.le_add_right ..) fits, rfl, rfl⟩
    rw [pushAll, pushed]
    exact inductionHypothesis fits

/-- The operation does not push an item whose end is no machine word. -/
def Operation.Fits (start : Nat) (items : List α) : Operation α → Prop
  | .push item => start + ClassMachine.totalWidth items + width item < UInt64.size
  | .pop | .clear => True

/-- No push goes beyond the machine words, after what was done before it. -/
def Fits (start : Nat) (operations : List (Operation α)) : Prop :=
  ∀ before operation later, operations = before ++ operation :: later →
    operation.Fits start (survivors before)

section Operations

variable {start : Nat} {items : List α} {operations : List (Operation α)} {operation : Operation α}

theorem perform_of_fits (fits : operation.Fits start items) :
    (ofList start items).perform operation = .ok (ofList start (operation.survivors items)) := by
  cases operation with
  | push item =>
    have pushed : (ofList start items).push item = .ok (_, (ofList start items).append item) :=
      push_eq_ok.mpr ⟨by rwa [next_ofList], rfl, rfl⟩
    rw [append_ofList] at pushed
    rw [perform, pushed]
    rfl
  | pop =>
    rcases List.eq_nil_or_concat items with rfl | ⟨others, last, rfl⟩
    · rfl
    · rw [List.concat_eq_append, perform, pop_ofList, Operation.survivors, List.dropLast_concat]
      rfl
  | clear => exact congrArg (Except.ok ∘ empty) (start_ofList start items)

theorem perform_of_not_fits (beyond : ¬operation.Fits start items) :
    (ofList start items).perform operation = .error .offsetOverflow := by
  cases operation with
  | push item =>
    have refused : (ofList start items).push item = .error .offsetOverflow := by
      rw [push_eq_error, next_ofList]
      exact Nat.le_of_not_lt beyond
    rw [perform, refused]
    rfl
  | pop | clear => exact absurd trivial beyond

theorem fits_concat :
    Fits start (operations ++ [operation]) ↔
      Fits start operations ∧ operation.Fits start (survivors operations) := by
  constructor
  · intro fits
    refine ⟨?_, fits operations operation [] rfl⟩
    rintro before other later rfl
    exact fits before other (later ++ [operation]) (by simp)
  · rintro ⟨fits, last⟩ before other later split
    rcases List.eq_nil_or_concat later with rfl | ⟨between, final, rfl⟩
    · obtain ⟨rfl, same⟩ := List.append_inj' split rfl
      obtain rfl := List.singleton_inj.mp same
      exact last
    · rw [List.concat_eq_append, ← List.cons_append, ← List.append_assoc] at split
      exact fits before other between (List.append_inj' split rfl).1

end Operations

section After

variable {start : UInt64} {operations : List (Operation α)}

theorem after_concat (operation : Operation α) :
    after start (operations ++ [operation]) =
      (after start operations).bind fun vector => vector.perform operation := by
  rw [after, List.foldlM_append]
  congr
  funext vector
  exact bind_pure (vector.perform operation)

theorem after_of_fits (fits : Fits start.toNat operations) :
    after start operations = .ok (ofList start.toNat (survivors operations)) := by
  induction operations using List.reverseRecOn with
  | nil => rfl
  | append_singleton operations operation inductionHypothesis =>
    obtain ⟨earlier, last⟩ := fits_concat.mp fits
    rw [after_concat, inductionHypothesis earlier, survivors_concat]
    exact perform_of_fits last

theorem after_of_not_fits (beyond : ¬Fits start.toNat operations) :
    after start operations = .error .offsetOverflow := by
  induction operations using List.reverseRecOn with
  | nil => exact absurd (fun before operation later split => by simp at split) beyond
  | append_singleton operations operation inductionHypothesis =>
    rw [after_concat]
    by_cases earlier : Fits start.toNat operations
    · rw [after_of_fits earlier]
      exact perform_of_not_fits fun last => beyond (fits_concat.mpr ⟨earlier, last⟩)
    · rw [inductionHypothesis earlier]
      rfl

theorem after_eq_ok {vector : SlotVector α} :
    after start operations = .ok vector ↔
      Fits start.toNat operations ∧ vector = ofList start.toNat (survivors operations) := by
  by_cases fits : Fits start.toNat operations
  · simp [after_of_fits fits, fits, eq_comm]
  · simp [after_of_not_fits fits, fits]

theorem end_lt_of_fits (fits : Fits start.toNat operations) :
    start.toNat + ClassMachine.totalWidth (survivors operations) < UInt64.size := by
  induction operations using List.reverseRecOn with
  | nil => exact start.toNat_lt
  | append_singleton operations operation inductionHypothesis =>
    obtain ⟨earlier, last⟩ := fits_concat.mp fits
    have within := inductionHypothesis earlier
    rw [survivors_concat]
    cases operation with
    | push item =>
      change start.toNat + _ < _
      rw [Operation.survivors, totalWidth_append, totalWidth_cons, totalWidth_nil]
      rwa [Nat.add_zero, ← Nat.add_assoc]
    | pop =>
      have fewer : ClassMachine.totalWidth (survivors operations).dropLast ≤
          ClassMachine.totalWidth (survivors operations) := by
        rcases List.eq_nil_or_concat (survivors operations) with none_left | ⟨others, final, all⟩
        · simp [none_left]
        · simp [all]
      exact Nat.lt_of_le_of_lt (Nat.add_le_add_left fewer _) within
    | clear => exact start.toNat_lt

end After

end Perform

section Equality

variable [HasWidth α]

theorem placed_eq_placed {start other : Nat} {items others : List α} :
    placed start items = placed other others ↔ items = others ∧ (items = [] ∨ start = other) := by
  constructor
  · intro same
    have items_eq := congrArg (List.map Entry.item) same
    rw [map_item_placed, map_item_placed] at items_eq
    subst items_eq
    refine ⟨rfl, ?_⟩
    cases items with
    | nil => exact .inl rfl
    | cons item items =>
      have first_eq := (List.cons.inj same).1
      exact .inr (congrArg Entry.offset first_eq)
  · intro alike
    obtain ⟨rfl, nothing | rfl⟩ := alike
    · rw [nothing]
      rfl
    · rfl

theorem beq_ofList [DecidableEq α] {start other : Nat} {items others : List α} :
    (ofList start items == ofList other others) = true ↔
      items = others ∧ (items = [] ∨ start = other) := by
  change ((ofList start items).entries == (ofList other others).entries) = true ↔ _
  rw [beq_iff_eq, ← List.reverse_inj]
  change (ofList start items).toEntries = (ofList other others).toEntries ↔ _
  rw [toEntries_ofList, toEntries_ofList, placed_eq_placed]

end Equality

/-- A vector is done with these operations exactly if no push goes beyond the machine words. It is
then the one that pushing the items which are left makes: the offset of each is the start plus the
widths of the items before it, the vector ends at the start plus all widths, and their sum is its
width. So popping undoes a push, and two vectors are equal exactly if they have the same items and,
unless there are none, the same start. -/
theorem determined_by_survivors [HasWidth α] [DecidableEq α] (start : UInt64)
    (operations : List (Operation α)) :
    (after start operations = .error .offsetOverflow ↔ ¬Fits start.toNat operations) ∧
    (Fits start.toNat operations → ∃ vector, after start operations = .ok vector) ∧
    ∀ vector, after start operations = .ok vector →
      pushAll (survivors operations) (empty start.toNat) = .ok vector ∧
      vector.toList = survivors operations ∧
      (∀ position : Nat, vector.toEntries[position]? =
        (survivors operations)[position]?.map fun item =>
          ⟨start.toNat + ClassMachine.totalWidth ((survivors operations).take position), item⟩) ∧
      vector.next = start.toNat + ClassMachine.totalWidth (survivors operations) ∧
      vector.next < UInt64.size ∧
      vector.totalWidth = ClassMachine.totalWidth (survivors operations) ∧
      (∀ item offset pushed, vector.push item = .ok (offset, pushed) →
        offset = vector.next ∧ pushed.pop = some (item, vector)) ∧
      ∀ otherStart others other, after otherStart others = .ok other →
        ((vector == other) = true ↔
          vector.toList = other.toList ∧ (vector.toList = [] ∨ start = otherStart)) := by
  refine ⟨?_, fun fits => ⟨_, after_of_fits fits⟩, ?_⟩
  · by_cases fits : Fits start.toNat operations
    · simp [after_of_fits fits, fits]
    · simp [after_of_not_fits fits, fits]
  intro vector completed
  obtain ⟨fits, rfl⟩ := after_eq_ok.mp completed
  have within := end_lt_of_fits fits
  refine ⟨pushAll_of_fits within, toList_ofList .., ?_, next_ofList .., ?_, ?_, ?_, ?_⟩
  · rw [toEntries_ofList]
    exact getElem?_placed start.toNat _
  · rwa [next_ofList]
  · rw [totalWidth, start_ofList, next_ofList, Nat.add_sub_cancel_left]
  · intro item offset pushed pushes
    obtain ⟨-, offset_eq, rfl⟩ := push_eq_ok.mp pushes
    exact ⟨offset_eq, pop_append _ item⟩
  · intro otherStart others other other_completed
    obtain ⟨-, rfl⟩ := after_eq_ok.mp other_completed
    rw [toList_ofList, toList_ofList, ← UInt64.toNat_inj]
    exact beq_ofList

/-- What can be done to cells: a wide one, then a narrow one that is taken off and put on again. -/
def replacingTop : List (Operation Cell) :=
  [.push (.wide 7), .push (.narrow 8), .pop, .push (.narrow 9)]

/-- The vector that is left is equal to the one of the two cells that are left, and to no vector with
another start. -/
theorem determined_by_survivors_replaced_top :
    ∃ vector other, after 1 replacingTop = .ok vector ∧
      after 2 [.push (.wide 7), .push (.narrow 9)] = .ok other ∧
      pushAll [.wide 7, .narrow 9] (empty 1) = .ok vector ∧ vector.next = 4 ∧
      (vector == other) ≠ true := by
  obtain ⟨-, -, left⟩ := determined_by_survivors 1 replacingTop
  obtain ⟨pushed, -, -, ends, -, -, -, equal_iff⟩ := left _ rfl
  have second : after 2 [.push (.wide 7), .push (.narrow 9)] =
      .ok (ofList 2 [.wide 7, .narrow 9] : SlotVector Cell) := rfl
  refine ⟨_, _, rfl, second, pushed, ends, ?_⟩
  rw [Ne, equal_iff _ _ _ second]
  decide

/-- The last word has no room after it. -/
example : after (α := Cell) 0xffffffffffffffff [.push (.narrow 1)] = .error .offsetOverflow := rfl

end ClassMachine.SlotVector
