set_option autoImplicit false

/-!
Big-endian numerals over bytes: the number a byte string stands for, and the byte string of a given
width that stands for a number.
-/

namespace ClassMachine.BigEndian

/-- The number whose base-256 digits are the bytes, most significant first. -/
def value (bytes : List UInt8) : Nat :=
  bytes.foldl (fun total byte => total * 256 + byte.toNat) 0

/-- The last `width` base-256 digits of a number, most significant first. -/
def encode : Nat → Nat → List UInt8
  | 0, _ => []
  | width + 1, number => UInt8.ofNat (number >>> (8 * width)) :: encode width number

@[simp]
theorem value_nil : value [] = 0 := rfl

@[simp]
theorem length_encode (width number : Nat) : (encode width number).length = width := by
  induction width with
  | zero => rfl
  | succ width inductionHypothesis => simp [encode, inductionHypothesis]

end ClassMachine.BigEndian
