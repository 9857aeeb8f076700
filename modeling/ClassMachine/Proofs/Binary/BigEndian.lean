import Mathlib
import ClassMachine.Binary.BigEndian

set_option autoImplicit false

/-!
# Big-endian numerals

Writing a number and reading it back loses exactly what does not fit the width, and reading bytes and
writing them back loses nothing.
-/

namespace ClassMachine.BigEndian

theorem foldl_digits (bytes : List UInt8) (start : Nat) :
    bytes.foldl (fun total byte => total * 256 + byte.toNat) start =
      start * 256 ^ bytes.length + value bytes := by
  induction bytes generalizing start with
  | nil => simp
  | cons byte bytes inductionHypothesis =>
    simp only [List.foldl_cons, value, List.length_cons]
    rw [inductionHypothesis, inductionHypothesis (0 * 256 + byte.toNat), Nat.pow_succ]
    simp only [Nat.zero_mul, Nat.zero_add, Nat.add_mul, Nat.add_assoc]
    rw [Nat.mul_assoc, Nat.mul_comm 256]

theorem value_append (front back : List UInt8) :
    value (front ++ back) = value front * 256 ^ back.length + value back := by
  rw [value, List.foldl_append, foldl_digits]
  rfl

theorem value_cons (byte : UInt8) (bytes : List UInt8) :
    value (byte :: bytes) = byte.toNat * 256 ^ bytes.length + value bytes := by
  have split := value_append [byte] bytes
  simpa [value] using split

theorem value_lt (bytes : List UInt8) : value bytes < 256 ^ bytes.length := by
  induction bytes with
  | nil => simp
  | cons byte bytes inductionHypothesis =>
    have byteBound : byte.toNat < 256 := byte.toNat_lt
    rw [value_cons, List.length_cons, Nat.pow_succ]
    have scaled : (byte.toNat + 1) * 256 ^ bytes.length ≤ 256 * 256 ^ bytes.length :=
      Nat.mul_le_mul_right _ byteBound
    rw [Nat.add_mul, Nat.one_mul] at scaled
    rw [Nat.mul_comm _ 256]
    omega

theorem encode_succ (width number : Nat) :
    encode (width + 1) number = UInt8.ofNat (number / 256 ^ width) :: encode width number := by
  rw [encode, Nat.shiftRight_eq_div_pow, Nat.pow_mul]

theorem value_encode (width number : Nat) :
    value (encode width number) = number % 256 ^ width := by
  induction width with
  | zero => simp [encode, Nat.mod_one]
  | succ width inductionHypothesis =>
    have digit : (UInt8.ofNat (number / 256 ^ width)).toNat = number / 256 ^ width % 256 := by
      simp
    rw [encode_succ, value_cons, inductionHypothesis, length_encode, digit, Nat.pow_succ,
      Nat.mod_mul (x := number) (a := 256 ^ width) (b := 256)]
    rw [Nat.mul_comm, Nat.add_comm]

theorem encode_add_mul (width number above : Nat) :
    encode width (number + above * 256 ^ width) = encode width number := by
  induction width generalizing above with
  | zero => rfl
  | succ width inductionHypothesis =>
    have regroup : above * 256 ^ (width + 1) = above * 256 * 256 ^ width := by
      rw [Nat.pow_succ, Nat.mul_assoc, Nat.mul_comm 256]
    rw [encode_succ, encode_succ, regroup, inductionHypothesis,
      Nat.add_mul_div_right _ _ (Nat.pow_pos (by decide))]
    congr 1
    apply UInt8.toNat_inj.mp
    simp only [UInt8.toNat_ofNat']
    exact Nat.add_mul_mod_self_right ..

theorem encode_value (bytes : List UInt8) : encode bytes.length (value bytes) = bytes := by
  induction bytes with
  | nil => rfl
  | cons byte bytes inductionHypothesis =>
    have top : (byte.toNat * 256 ^ bytes.length + value bytes) / 256 ^ bytes.length =
        byte.toNat := by
      rw [Nat.mul_comm, Nat.mul_add_div (Nat.pow_pos (by decide)),
        Nat.div_eq_of_lt (value_lt bytes), Nat.add_zero]
    rw [List.length_cons, encode_succ, value_cons, top, UInt8.ofNat_toNat, Nat.add_comm,
      encode_add_mul, inductionHypothesis]

end ClassMachine.BigEndian
