import ClassMachine.Instruction.Basic
import ClassMachine.Value.Basic
import ClassMachine.Proofs.Outcome

set_option autoImplicit false

/-!
# Integers in two's complement

Every cell of the right width holds an integer of its type. Any integer can be put into a cell,
which reduces it to the bits that there are. Shifts and bitwise operations on words are what they
are on integers, where bits are those of a two's complement that goes on forever.
-/

namespace ClassMachine

namespace TwosComplement

variable {width : Nat}

theorem ofInt_shiftLeft (value : Int) (places : Nat) :
    BitVec.ofInt width value <<< places = BitVec.ofInt width (value * 2 ^ places) := by
  have power_eq : BitVec.ofInt width (2 ^ places) = BitVec.twoPow width places := by
    rw [show (2 : Int) ^ places = (2 ^ places : Nat) by push_cast; rfl, BitVec.ofInt_natCast]
    apply BitVec.eq_of_toNat_eq
    rw [BitVec.toNat_ofNat, BitVec.toNat_twoPow]
  rw [BitVec.shiftLeft_eq_mul_twoPow, BitVec.ofInt_mul, power_eq]

/-- Zeros are shifted in, so the word counts as unsigned. -/
theorem ofInt_ushiftRight (value : Int) (places : Nat) :
    BitVec.ofInt width value >>> places =
      BitVec.ofInt width ((value % 2 ^ width).fdiv (2 ^ places)) := by
  have unsigned_eq : value % 2 ^ width = (BitVec.ofInt width value).toNat := by
    rw [BitVec.toNat_ofInt]
    push_cast
    rw [Int.toNat_of_nonneg (Int.emod_nonneg _ (by positivity))]
  have quotient_eq : ((BitVec.ofInt width value).toNat : Int) / 2 ^ places =
      ((BitVec.ofInt width value).toNat / 2 ^ places : Nat) := by
    push_cast
    rfl
  rw [unsigned_eq, Int.fdiv_eq_ediv_of_nonneg _ (by positivity), quotient_eq, BitVec.ofInt_natCast]
  apply BitVec.eq_of_toNat_eq
  rw [BitVec.toNat_ofNat, BitVec.toNat_ushiftRight, Nat.shiftRight_eq_div_pow]
  exact (Nat.mod_eq_of_lt ((Nat.div_le_self _ _).trans_lt (BitVec.isLt _))).symm

/-- The sign is shifted in, so the word counts as signed. -/
theorem ofInt_sshiftRight {value : Int} (positive : 0 < width) (lower : -2 ^ (width - 1) ≤ value)
    (upper : value < 2 ^ (width - 1)) (places : Nat) :
    (BitVec.ofInt width value).sshiftRight places =
      BitVec.ofInt width (value.fdiv (2 ^ places)) := by
  rw [← BitVec.ofInt_toInt (x := (BitVec.ofInt width value).sshiftRight places),
    BitVec.toInt_sshiftRight, BitVec.toInt_ofInt_eq_self positive lower upper,
    Int.shiftRight_eq_div_pow, Int.fdiv_eq_ediv_of_nonneg _ (by positivity)]
  push_cast
  rfl

theorem getLsbD_ofInt (value : Int) (position : Nat) :
    (BitVec.ofInt width value).getLsbD position =
      (decide (position < width) && value.testBit position) := by
  cases value with
  | ofNat value => exact BitVec.getLsbD_ofNat width value position
  | negSucc value =>
    rw [BitVec.ofInt_negSucc_eq_not_ofNat, BitVec.getLsbD_not, BitVec.getLsbD_ofNat, Int.testBit]
    cases decide (position < width) <;> simp

section Bitwise

variable (first second : Int)

theorem ofInt_land : BitVec.ofInt width (first.land second) =
    BitVec.ofInt width first &&& BitVec.ofInt width second := by
  apply BitVec.eq_of_getLsbD_eq
  intro position inside
  simp only [BitVec.getLsbD_and, getLsbD_ofInt, Int.testBit_land, inside]
  simp

theorem ofInt_lor : BitVec.ofInt width (first.lor second) =
    BitVec.ofInt width first ||| BitVec.ofInt width second := by
  apply BitVec.eq_of_getLsbD_eq
  intro position inside
  simp only [BitVec.getLsbD_or, getLsbD_ofInt, Int.testBit_lor, inside]
  simp

theorem ofInt_xor : BitVec.ofInt width (first.xor second) =
    BitVec.ofInt width first ^^^ BitVec.ofInt width second := by
  apply BitVec.eq_of_getLsbD_eq
  intro position inside
  simp only [BitVec.getLsbD_xor, getLsbD_ofInt, Int.testBit_lxor, inside]
  simp

end Bitwise

end TwosComplement

namespace IntegerType

def bits : IntegerType → Nat
  | .int => 32
  | .long => 64

def numeric : IntegerType → NumericType
  | .int => .int
  | .long => .long

def least (type : IntegerType) : Int := -2 ^ (type.bits - 1)

/-- The integer is one of the type. -/
def Holds (type : IntegerType) (value : Int) : Prop :=
  type.least ≤ value ∧ value < 2 ^ (type.bits - 1)

instance (type : IntegerType) (value : Int) : Decidable (type.Holds value) :=
  inferInstanceAs (Decidable (_ ∧ _))

/-- The cell with the two's complement of an integer, reduced to the bits of the type. -/
def cell : IntegerType → Int → Cell
  | .int, value => Value.toCell (Int32.ofInt value)
  | .long, value => Value.toCell (Int64.ofInt value)

@[simp]
theorem width_int_cell (value : Int) : width (IntegerType.int.cell value) = 1 := rfl

@[simp]
theorem width_long_cell (value : Int) : width (IntegerType.long.cell value) = 2 := rfl

def Fits (type : IntegerType) (cell : Cell) : Prop := 32 * width cell = type.bits

theorem Fits.exists_cell {type : IntegerType} {cell : Cell} (fits : type.Fits cell) :
    ∃ value, type.Holds value ∧ cell = type.cell value := by
  cases type with
  | int =>
    cases cell with
    | narrow bits =>
      refine ⟨bits.toInt32.toInt, ⟨bits.toInt32.le_toInt, bits.toInt32.toInt_lt⟩, ?_⟩
      rw [IntegerType.cell, Int32.ofInt_toInt]
      rfl
    | wide bits => cases fits
  | long =>
    cases cell with
    | narrow bits => cases fits
    | wide bits =>
      refine ⟨bits.toInt64.toInt, ⟨bits.toInt64.le_toInt, bits.toInt64.toInt_lt⟩, ?_⟩
      rw [IntegerType.cell, Int64.ofInt_toInt]
      rfl

end IntegerType

end ClassMachine
