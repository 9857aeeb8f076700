import ClassMachine.Proofs.Frame.Branching
import ClassMachine.Proofs.Instruction.Assembly

set_option autoImplicit false

/-!
# Tables of keys and lists of keys

A `tableswitch` goes where a `lookupswitch` goes whose keys count up from the least one. The decoder
has computed how many targets there are from the greatest key, so all keys are integers of 32 bits
and none of them wraps. A list of distinct keys is a map: the order of its entries does not matter.
-/

namespace ClassMachine

open Outcome

namespace Operation

section Lookup

variable {fallback key offset : Int32} {targets others : List (Int32 × Int32)}

theorem lookupTarget_cons (first : Int32 × Int32) :
    lookupTarget fallback (first :: targets) key =
      if first.1 = key then first.2 else lookupTarget fallback targets key := by
  by_cases same : first.1 = key <;> simp [lookupTarget, same]

theorem lookupTarget_of_mem (distinct : (targets.map Prod.fst).Nodup)
    (mem : (key, offset) ∈ targets) : lookupTarget fallback targets key = offset := by
  induction targets with
  | nil => cases mem
  | cons first targets inductionHypothesis =>
    rw [List.map_cons, List.nodup_cons] at distinct
    rw [lookupTarget_cons]
    cases mem with
    | head => exact if_pos rfl
    | tail _ later =>
      have different : first.1 ≠ key := by
        intro same
        apply distinct.1
        rw [same]
        exact List.mem_map_of_mem later
      rw [if_neg different, inductionHypothesis distinct.2 later]

theorem lookupTarget_of_not_mem (absent : key ∉ targets.map Prod.fst) :
    lookupTarget fallback targets key = fallback := by
  induction targets with
  | nil => rfl
  | cons first targets inductionHypothesis =>
    rw [List.map_cons, List.mem_cons, not_or] at absent
    rw [lookupTarget_cons, if_neg (Ne.symm absent.1), inductionHypothesis absent.2]

theorem lookupTarget_perm (distinct : (targets.map Prod.fst).Nodup) (permuted : targets.Perm others) :
    lookupTarget fallback targets = lookupTarget fallback others := by
  have keys_permuted := permuted.map Prod.fst
  funext key
  by_cases present : key ∈ targets.map Prod.fst
  · obtain ⟨⟨_, offset⟩, mem, rfl⟩ := List.mem_map.mp present
    rw [lookupTarget_of_mem distinct mem,
      lookupTarget_of_mem (keys_permuted.nodup distinct) (permuted.mem_iff.mp mem)]
  · rw [lookupTarget_of_not_mem present,
      lookupTarget_of_not_mem (mt keys_permuted.mem_iff.mpr present)]

end Lookup

section Table

def tableKey (low : Int32) (position : Nat) : Int32 := Int32.ofInt (low.toInt + position)

/-- The targets of a table with their keys. -/
def tableCases (low : Int32) (targets : List Int32) : List (Int32 × Int32) :=
  targets.mapIdx fun position target => (tableKey low position, target)

variable {fallback low key : Int32} {targets : List Int32} {position : Nat}

theorem mem_tableCases {offset : Int32} :
    (key, offset) ∈ tableCases low targets ↔
      ∃ position, ∃ inside : position < targets.length,
        tableKey low position = key ∧ targets[position] = offset := by
  simp only [tableCases, List.mem_mapIdx, Prod.mk.injEq]

theorem tableTarget_of_inside (inside : position < targets.length)
    (key_eq : key.toInt = low.toInt + position) :
    tableTarget fallback low targets key = targets[position] := by
  have position_eq : (key.toInt - low.toInt).toNat = position := by omega
  rw [tableTarget, if_pos (by omega), position_eq, List.getD_eq_getElem _ _ inside]

theorem tableTarget_of_outside
    (outside : key.toInt < low.toInt ∨ low.toInt + targets.length ≤ key.toInt) :
    tableTarget fallback low targets key = fallback := by
  rw [tableTarget]
  split
  next above => rw [List.getD_eq_default _ _ (by omega)]
  next => rfl

theorem mem_keys_tableCases :
    key ∈ (tableCases low targets).map Prod.fst ↔
      ∃ position < targets.length, tableKey low position = key := by
  simp only [List.mem_map, Prod.exists, mem_tableCases]
  constructor
  · rintro ⟨_, _, ⟨position, inside, key_eq, -⟩, rfl⟩
    exact ⟨position, inside, key_eq⟩
  · rintro ⟨position, inside, rfl⟩
    exact ⟨_, _, ⟨position, inside, rfl, rfl⟩, rfl⟩

section Fits

variable (fits : low.toInt + targets.length ≤ 2 ^ 31)
include fits

theorem toInt_tableKey (inside : position < targets.length) :
    (tableKey low position).toInt = low.toInt + position := by
  have lower := low.le_toInt
  exact Int32.toInt_ofInt_of_le (by omega) (by omega)

theorem keys_distinct : ((tableCases low targets).map Prod.fst).Nodup := by
  rw [List.nodup_iff_pairwise_ne, List.pairwise_iff_getElem]
  intro first second first_inside second_inside before
  simp only [tableCases, List.length_map, List.length_mapIdx] at first_inside second_inside
  simp only [tableCases, List.getElem_map, List.getElem_mapIdx]
  intro same
  have integers_eq := congrArg Int32.toInt same
  rw [toInt_tableKey fits first_inside, toInt_tableKey fits second_inside] at integers_eq
  omega

theorem lookupTarget_tableCases :
    lookupTarget fallback (tableCases low targets) = tableTarget fallback low targets := by
  funext key
  by_cases inside : low.toInt ≤ key.toInt ∧ key.toInt < low.toInt + targets.length
  · obtain ⟨position, key_eq⟩ := Int.le.dest inside.1
    have position_inside : position < targets.length := by omega
    have mem : (key, targets[position]) ∈ tableCases low targets := by
      refine mem_tableCases.mpr ⟨position, position_inside, ?_, rfl⟩
      rw [tableKey, key_eq, Int32.ofInt_toInt]
    rw [lookupTarget_of_mem (keys_distinct fits) mem,
      tableTarget_of_inside position_inside key_eq.symm]
  · rw [tableTarget_of_outside (by omega)]
    apply lookupTarget_of_not_mem
    intro present
    obtain ⟨position, position_inside, rfl⟩ := mem_keys_tableCases.mp present
    have key_eq := toInt_tableKey fits position_inside
    omega

end Fits

end Table

end Operation

theorem Instruction.fits_of_decode {code : List UInt8} {pc next : Nat} {fallback low : Int32}
    {targets : List Int32}
    (decoded : decode code pc = .ok (.tableSwitch fallback low targets, next)) :
    low.toInt + targets.length ≤ 2 ^ 31 := by
  obtain ⟨written, rest, -, -, encodes⟩ := decode_eq_ok_iff_encodes.mp decoded
  cases encodes with
  | single known | twoByteOperand known | byteLocal known | wideLocal known => cases known
  | @tableSwitch padding _ _ high _ padded counted =>
    have upper := high.toInt_lt
    omega

namespace Frame

open OperandStack Operation

variable {pool : ConstantPool} {next : Nat} {frame : Frame}

theorem execute_congr {first second : Instruction}
    (same : operate pool frame.locals next first = operate pool frame.locals next second) :
    execute pool first next frame = execute pool second next frame := by
  rw [execute, execute, same]

theorem execute_tableSwitch {fallback low : Int32} {targets : List Int32} {key : UInt32}
    {rest : List Cell} (cells_eq : frame.stack.cells = .narrow key :: rest) :
    execute pool (.tableSwitch fallback low targets) next frame =
      frame.jumpBy rest (tableTarget fallback low targets key.toInt32).toInt := by
  have popped : popValue Int32 frame.stack =
      .ok key.toInt32 (.ofCells frame.stack.capacity rest) :=
    popValue_of_cells cells_eq
  exact execute_of_jump (bind_of_ok popped)

/-- A decoded table goes where the list of its keys goes, by the target of the key if it has one,
and a list of distinct keys may be put in another order. -/
theorem switches_agree :
    (∀ code pc after fallback low targets,
      Instruction.decode code pc = .ok (.tableSwitch fallback low targets, after) →
        (∀ position < targets.length, (tableKey low position).toInt = low.toInt + position) ∧
        (∀ pool next frame,
          execute pool (.tableSwitch fallback low targets) next frame =
            execute pool (.lookupSwitch fallback (tableCases low targets)) next frame) ∧
        ∀ pool next frame key rest, frame.stack.cells = .narrow key :: rest →
          (∀ position, (inside : position < targets.length) →
            key.toInt32.toInt = low.toInt + position →
              execute pool (.tableSwitch fallback low targets) next frame =
                frame.jumpBy rest targets[position].toInt) ∧
          (key.toInt32.toInt < low.toInt ∨ low.toInt + targets.length ≤ key.toInt32.toInt →
            execute pool (.tableSwitch fallback low targets) next frame =
              frame.jumpBy rest fallback.toInt)) ∧
    ∀ fallback targets others, (targets.map Prod.fst).Nodup → targets.Perm others →
      ∀ pool next frame,
        execute pool (.lookupSwitch fallback targets) next frame =
          execute pool (.lookupSwitch fallback others) next frame := by
  constructor
  · intro code pc after fallback low targets decoded
    have fits := Instruction.fits_of_decode decoded
    refine ⟨fun position inside => toInt_tableKey fits inside, ?_, ?_⟩
    · intro pool next frame
      apply execute_congr
      rw [operate, operate, lookupTarget_tableCases fits]
    · intro pool next frame key rest cells_eq
      rw [execute_tableSwitch cells_eq]
      constructor
      · intro position inside key_eq
        rw [tableTarget_of_inside inside key_eq]
      · intro outside
        rw [tableTarget_of_outside outside]
  · intro fallback targets others distinct permuted pool next frame
    apply execute_congr
    rw [operate, operate, lookupTarget_perm distinct permuted]

/-- A switch between the two least integers, and three returns. -/
def leastIntegersCode : List UInt8 :=
  [0xaa, 0, 0, 0, 0, 0, 0, 26, 0x80, 0, 0, 0, 0x80, 0, 0, 1, 0, 0, 0, 24, 0, 0, 0, 25, 0xb1, 0xb1,
    0xb1]

def leastIntegersFrame (key : UInt32) : Frame :=
  { enter 0 ⟨1, 0, leastIntegersCode, [], []⟩ with stack := .ofCells 1 [.narrow key] }

/-- The difference of the greatest integer and the least one has no place in 32 bits. -/
theorem switches_agree_least_integers :
    execute .empty (.tableSwitch 26 (-2147483648) [24, 25]) 24 (leastIntegersFrame 0x80000001) =
      .ok .continue { leastIntegersFrame 0x80000001 with stack := .ofCells 1 [], pc := 25 } ∧
    execute .empty (.tableSwitch 26 (-2147483648) [24, 25]) 24 (leastIntegersFrame 0x7fffffff) =
      .ok .continue { leastIntegersFrame 0x7fffffff with stack := .ofCells 1 [], pc := 26 } ∧
    execute .empty (.lookupSwitch 26 [(-2147483648, 24), (2147483647, 25)]) 24
        (leastIntegersFrame 0x7fffffff) =
      execute .empty (.lookupSwitch 26 [(2147483647, 25), (-2147483648, 24)]) 24
        (leastIntegersFrame 0x7fffffff) := by
  obtain ⟨decoded_agree, order_free⟩ := switches_agree
  have decoded : Instruction.decode leastIntegersCode 0 =
      .ok (.tableSwitch 26 (-2147483648) [24, 25], 24) := by
    cbv
  obtain ⟨-, -, goes_to⟩ := decoded_agree _ _ _ _ _ _ decoded
  refine ⟨?_, ?_, ?_⟩
  · obtain ⟨to_target, -⟩ := goes_to .empty 24 (leastIntegersFrame 0x80000001) _ [] rfl
    rw [to_target 1 (by decide) (by decide), jumpBy, address_eq (by decide) (by decide)]
    rfl
  · obtain ⟨-, to_fallback⟩ := goes_to .empty 24 (leastIntegersFrame 0x7fffffff) _ [] rfl
    rw [to_fallback (by decide), jumpBy, address_eq (by decide) (by decide)]
    rfl
  · exact order_free 26 _ _ (by decide) (.swap ..) .empty 24 _

end Frame

end ClassMachine
