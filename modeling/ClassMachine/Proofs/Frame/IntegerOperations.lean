import ClassMachine.Frame.Operation
import ClassMachine.Proofs.Value.TwosComplement

set_option autoImplicit false

/-!
# Integer operations on words and on integers

Each operation on words is one on the integers that they stand for. Division, right shifts and
comparisons need the integers to be those of the type; the others are the same for all integers that
have the same word.
-/

namespace ClassMachine

/-- A quotient that is rounded toward zero, and what remains. -/
structure TruncatedDivision (dividend divisor quotient remainder : Int) : Prop where
  divisor_ne_zero : divisor ≠ 0
  sum_eq : dividend = quotient * divisor + remainder
  abs_lt : |remainder| < |divisor|
  sign_eq : remainder = 0 ∨ remainder.sign = dividend.sign
  toward_zero : quotient = dividend.tdiv divisor

namespace TruncatedDivision

theorem of_ne_zero (dividend : Int) {divisor : Int} (divisor_ne_zero : divisor ≠ 0) :
    TruncatedDivision dividend divisor (dividend.tdiv divisor) (dividend.tmod divisor) where
  divisor_ne_zero
  sum_eq := by rw [Int.add_comm, Int.tmod_add_tdiv_mul]
  abs_lt := by
    rw [Int.abs_eq_natAbs, Int.abs_eq_natAbs, Int.natAbs_tmod, Int.ofNat_lt]
    exact Nat.mod_lt _ (Int.natAbs_pos.mpr divisor_ne_zero)
  sign_eq := by
    by_cases divides : divisor ∣ dividend
    · exact .inl (Int.tmod_eq_zero_of_dvd divides)
    · rw [Int.sign_tmod, if_neg divides]
      exact .inr rfl
  toward_zero := rfl

theorem remainder_eq {dividend divisor quotient remainder : Int}
    (division : TruncatedDivision dividend divisor quotient remainder) :
    remainder = dividend.tmod divisor := by
  have sum_eq := division.sum_eq
  have tmod_eq := Int.tmod_add_tdiv_mul dividend divisor
  rw [division.toward_zero] at sum_eq
  omega

end TruncatedDivision

namespace IntegerType

/-- By how many places a shift by this distance moves the bits. -/
def places (type : IntegerType) (distance : Int) : Nat := (distance % type.bits).toNat

theorem places_lt (type : IntegerType) (distance : Int) : type.places distance < type.bits := by
  cases type <;> simp only [places, bits] <;> omega

end IntegerType

/-- What an arithmetic operation makes of two integers. -/
inductive ArithmeticOperation.OnIntegers (first second : Int) :
    ArithmeticOperation → Int → Prop where
  | add : OnIntegers first second .add (first + second)
  | sub : OnIntegers first second .sub (first - second)
  | mul : OnIntegers first second .mul (first * second)
  | div {quotient remainder : Int}
    (division : TruncatedDivision first second quotient remainder) :
    OnIntegers first second .div quotient
  | rem {quotient remainder : Int}
    (division : TruncatedDivision first second quotient remainder) :
    OnIntegers first second .rem remainder

/-- A shift of an integer by a number of places. A logical one sees an unsigned integer. -/
def ShiftDirection.onIntegers (type : IntegerType) (value : Int) (places : Nat) :
    ShiftDirection → Int
  | .left => value * 2 ^ places
  | .logicalRight => (value % 2 ^ type.bits).fdiv (2 ^ places)
  | .arithmeticRight => value.fdiv (2 ^ places)

/-- Every bit of an endless two's complement on its own. -/
def BitwiseOperation.onIntegers : BitwiseOperation → Int → Int → Int
  | .and => Int.land
  | .or => Int.lor
  | .xor => Int.xor

namespace Operation

open TwosComplement

theorem int_ne_zero {divisor : Int} (holds : IntegerType.int.Holds divisor)
    (divisor_ne_zero : divisor ≠ 0) : Int32.ofInt divisor ≠ 0 := by
  intro zero
  apply divisor_ne_zero
  rw [← Int32.toInt_ofInt_of_le holds.1 holds.2, zero]
  rfl

theorem long_ne_zero {divisor : Int} (holds : IntegerType.long.Holds divisor)
    (divisor_ne_zero : divisor ≠ 0) : Int64.ofInt divisor ≠ 0 := by
  intro zero
  apply divisor_ne_zero
  rw [← Int64.toInt_ofInt_of_le holds.1 holds.2, zero]
  rfl

section Arithmetic

variable {operation : ArithmeticOperation} {first second result : Int}

theorem intArithmetic_ofInt (first_holds : IntegerType.int.Holds first)
    (second_holds : IntegerType.int.Holds second)
    (computed : operation.OnIntegers first second result) :
    intArithmetic operation (Int32.ofInt first) (Int32.ofInt second) =
      .ok (Int32.ofInt result) := by
  have first_le : first ≤ Int32.maxValue.toInt := Int.le_of_lt_add_one first_holds.2
  have second_le : second ≤ Int32.maxValue.toInt := Int.le_of_lt_add_one second_holds.2
  cases computed with
  | add => exact congrArg Except.ok (Int32.ofInt_add first second).symm
  | sub => exact congrArg Except.ok (Int32.ofInt_sub first second).symm
  | mul => exact congrArg Except.ok (Int32.ofInt_mul first second).symm
  | div division =>
    rw [intArithmetic, if_neg (int_ne_zero second_holds division.divisor_ne_zero),
      division.toward_zero, Int32.ofInt_tdiv first_holds.1 first_le second_holds.1 second_le]
  | rem division =>
    rw [intArithmetic, if_neg (int_ne_zero second_holds division.divisor_ne_zero),
      division.remainder_eq, Int32.ofInt_tmod first_holds.1 first_le second_holds.1 second_le]

theorem longArithmetic_ofInt (first_holds : IntegerType.long.Holds first)
    (second_holds : IntegerType.long.Holds second)
    (computed : operation.OnIntegers first second result) :
    longArithmetic operation (Int64.ofInt first) (Int64.ofInt second) =
      .ok (Int64.ofInt result) := by
  have first_le : first ≤ Int64.maxValue.toInt := Int.le_of_lt_add_one first_holds.2
  have second_le : second ≤ Int64.maxValue.toInt := Int.le_of_lt_add_one second_holds.2
  cases computed with
  | add => exact congrArg Except.ok (Int64.ofInt_add first second).symm
  | sub => exact congrArg Except.ok (Int64.ofInt_sub first second).symm
  | mul => exact congrArg Except.ok (Int64.ofInt_mul first second).symm
  | div division =>
    rw [longArithmetic, if_neg (long_ne_zero second_holds division.divisor_ne_zero),
      division.toward_zero, Int64.ofInt_tdiv first_holds.1 first_le second_holds.1 second_le]
  | rem division =>
    rw [longArithmetic, if_neg (long_ne_zero second_holds division.divisor_ne_zero),
      division.remainder_eq, Int64.ofInt_tmod first_holds.1 first_le second_holds.1 second_le]

end Arithmetic

theorem toNat_toUInt32_ofInt (value : Int) :
    (Int32.ofInt value).toUInt32.toNat = (value % 2 ^ 32).toNat := by
  rw [← UInt32.toNat_toBitVec, Int32.toBitVec_toUInt32, Int32.toBitVec_ofInt, BitVec.toNat_ofInt]
  rfl

theorem mask_int (distance : Int) :
    (Int32.ofInt distance).toUInt32 &&& 0x1f = UInt32.ofNat (IntegerType.int.places distance) := by
  have mask_eq : (0x1f : UInt32).toNat = 2 ^ 5 - 1 := rfl
  apply UInt32.toNat_inj.mp
  rw [UInt32.toNat_and, UInt32.toNat_ofNat', toNat_toUInt32_ofInt, mask_eq,
    Nat.and_two_pow_sub_one_eq_mod, IntegerType.places, IntegerType.bits]
  omega

theorem mask_long (distance : Int) :
    (Int32.ofInt distance).toUInt32 &&& 0x3f = UInt32.ofNat (IntegerType.long.places distance) := by
  have mask_eq : (0x3f : UInt32).toNat = 2 ^ 6 - 1 := rfl
  apply UInt32.toNat_inj.mp
  rw [UInt32.toNat_and, UInt32.toNat_ofNat', toNat_toUInt32_ofInt, mask_eq,
    Nat.and_two_pow_sub_one_eq_mod, IntegerType.places, IntegerType.bits]
  omega

/-- Shifts of words reduce their distance once more, which changes nothing. -/
theorem reduced_int : ∀ places < 32, ((UInt32.ofNat places).toBitVec % 32).toNat = places ∧
    ((UInt32.ofNat places).toInt32.toBitVec.smod 32).toNat = places := by
  decide

theorem reduced_long : ∀ places < 64,
    ((UInt32.ofNat places).toUInt64.toBitVec % 64).toNat = places ∧
      ((UInt32.ofNat places).toUInt64.toInt64.toBitVec.smod 64).toNat = places := by
  decide

theorem shiftInt_ofInt (direction : ShiftDirection) {value : Int}
    (holds : IntegerType.int.Holds value) (distance : Int) :
    shiftInt direction (Int32.ofInt value) (Int32.ofInt distance) =
      Int32.ofInt (direction.onIntegers .int value (IntegerType.int.places distance)) := by
  obtain ⟨unsigned_eq, signed_eq⟩ := reduced_int _ (IntegerType.int.places_lt distance)
  simp only [shiftInt, mask_int]
  apply Int32.toBitVec_inj.mp
  cases direction with
  | left =>
    rw [UInt32.toBitVec_toInt32, UInt32.toBitVec_shiftLeft, BitVec.shiftLeft_eq', unsigned_eq,
      Int32.toBitVec_toUInt32, Int32.toBitVec_ofInt, Int32.toBitVec_ofInt, ofInt_shiftLeft]
    rfl
  | logicalRight =>
    rw [UInt32.toBitVec_toInt32, UInt32.toBitVec_shiftRight, BitVec.ushiftRight_eq', unsigned_eq,
      Int32.toBitVec_toUInt32, Int32.toBitVec_ofInt, Int32.toBitVec_ofInt, ofInt_ushiftRight]
    rfl
  | arithmeticRight =>
    rw [Int32.toBitVec_shiftRight, BitVec.sshiftRight_eq', signed_eq, Int32.toBitVec_ofInt,
      Int32.toBitVec_ofInt]
    exact ofInt_sshiftRight (by decide) holds.1 holds.2 _

theorem shiftLong_ofInt (direction : ShiftDirection) {value : Int}
    (holds : IntegerType.long.Holds value) (distance : Int) :
    shiftLong direction (Int64.ofInt value) (Int32.ofInt distance) =
      Int64.ofInt (direction.onIntegers .long value (IntegerType.long.places distance)) := by
  obtain ⟨unsigned_eq, signed_eq⟩ := reduced_long _ (IntegerType.long.places_lt distance)
  simp only [shiftLong, mask_long]
  apply Int64.toBitVec_inj.mp
  cases direction with
  | left =>
    rw [UInt64.toBitVec_toInt64, UInt64.toBitVec_shiftLeft, BitVec.shiftLeft_eq', unsigned_eq,
      Int64.toBitVec_toUInt64, Int64.toBitVec_ofInt, Int64.toBitVec_ofInt, ofInt_shiftLeft]
    rfl
  | logicalRight =>
    rw [UInt64.toBitVec_toInt64, UInt64.toBitVec_shiftRight, BitVec.ushiftRight_eq', unsigned_eq,
      Int64.toBitVec_toUInt64, Int64.toBitVec_ofInt, Int64.toBitVec_ofInt, ofInt_ushiftRight]
    rfl
  | arithmeticRight =>
    rw [Int64.toBitVec_shiftRight, BitVec.sshiftRight_eq', signed_eq, Int64.toBitVec_ofInt,
      Int64.toBitVec_ofInt]
    exact ofInt_sshiftRight (by decide) holds.1 holds.2 _

theorem bitwiseInt_ofInt (operation : BitwiseOperation) (first second : Int) :
    bitwiseInt operation (Int32.ofInt first) (Int32.ofInt second) =
      Int32.ofInt (operation.onIntegers first second) := by
  apply Int32.toBitVec_inj.mp
  cases operation with
  | and => exact (ofInt_land first second).symm
  | or => exact (ofInt_lor first second).symm
  | xor => exact (ofInt_xor first second).symm

theorem bitwiseLong_ofInt (operation : BitwiseOperation) (first second : Int) :
    bitwiseLong operation (Int64.ofInt first) (Int64.ofInt second) =
      Int64.ofInt (operation.onIntegers first second) := by
  apply Int64.toBitVec_inj.mp
  cases operation with
  | and => exact (ofInt_land first second).symm
  | or => exact (ofInt_lor first second).symm
  | xor => exact (ofInt_xor first second).symm

theorem toCell_toInt8 (value : Int) :
    Value.toCell (Int32.ofInt value).toInt8 = IntegerType.int.cell (value.bmod (2 ^ 8)) := by
  rw [Int32.toInt8_ofInt]
  change Cell.narrow (Int8.ofInt value).toInt32.toUInt32 = _
  rw [← Int32.ofInt_int8ToInt, Int8.toInt_ofInt]
  rfl

theorem toCell_toInt16 (value : Int) :
    Value.toCell (Int32.ofInt value).toInt16 = IntegerType.int.cell (value.bmod (2 ^ 16)) := by
  rw [Int32.toInt16_ofInt]
  change Cell.narrow (Int16.ofInt value).toInt32.toUInt32 = _
  rw [← Int32.ofInt_int16ToInt, Int16.toInt_ofInt]
  rfl

theorem toCell_toUInt16 (value : Int) :
    Value.toCell (Int32.ofInt value).toUInt32.toUInt16 =
      IntegerType.int.cell (value % 2 ^ 16) := by
  have words_eq : (Int32.ofInt value).toUInt32.toUInt16.toUInt32 =
      (Int32.ofInt (value % 2 ^ 16)).toUInt32 := by
    apply UInt32.toNat_inj.mp
    rw [UInt16.toNat_toUInt32, UInt32.toNat_toUInt16, toNat_toUInt32_ofInt, toNat_toUInt32_ofInt]
    omega
  exact congrArg Cell.narrow words_eq

theorem compareLongs_ofInt {first second : Int} (first_holds : IntegerType.long.Holds first)
    (second_holds : IntegerType.long.Holds second) :
    compareLongs (Int64.ofInt first) (Int64.ofInt second) =
      Int32.ofInt (first - second).sign := by
  rw [compareLongs, Int64.toInt_ofInt_of_le first_holds.1 first_holds.2,
    Int64.toInt_ofInt_of_le second_holds.1 second_holds.2]
  rcases lt_trichotomy first second with below | rfl | above
  · rw [compare_lt_iff_lt.mpr below, Int.sign_eq_neg_one_of_neg (by omega)]
    rfl
  · rw [compare_eq_iff_eq.mpr rfl, Int.sub_self]
    rfl
  · rw [compare_gt_iff_gt.mpr above, Int.sign_eq_one_of_pos (by omega)]
    rfl

end Operation

end ClassMachine
