import ClassMachine.Value.Cell
import ClassMachine.Proofs.Outcome

set_option autoImplicit false

/-!
# Double words as two words

Sixty-four bits are a high half and a low half, which are what a wide cell puts into its two slots.
Every double word is put together from its halves, and gives them back.
-/

namespace ClassMachine

theorem toNat_halves (high low : UInt32) :
    (high.toUInt64 <<< 32 ||| low.toUInt64).toNat = high.toNat * 2 ^ 32 + low.toNat := by
  have bound : high.toNat * 2 ^ 32 < 2 ^ 64 := by
    have high_lt := high.toNat_lt
    omega
  rw [UInt64.toNat_or, UInt64.toNat_shiftLeft, UInt32.toNat_toUInt64, UInt32.toNat_toUInt64]
  change (high.toNat <<< 32) % 2 ^ 64 ||| low.toNat = _
  rw [Nat.shiftLeft_eq, Nat.mod_eq_of_lt bound, ← Nat.shiftLeft_eq,
    ← Nat.shiftLeft_add_eq_or_of_lt low.toNat_lt]

theorem exists_halves (bits : UInt64) :
    ∃ high low : UInt32, high.toUInt64 <<< 32 ||| low.toUInt64 = bits := by
  have high_lt : bits.toNat / 2 ^ 32 < 2 ^ 32 := by
    have bits_lt := bits.toNat_lt
    omega
  have low_lt : bits.toNat % 2 ^ 32 < 2 ^ 32 := Nat.mod_lt _ (by decide)
  refine ⟨UInt32.ofNat (bits.toNat / 2 ^ 32), UInt32.ofNat (bits.toNat % 2 ^ 32), ?_⟩
  rw [← UInt64.toNat_inj, toNat_halves, UInt32.toNat_ofNat_of_lt' high_lt,
    UInt32.toNat_ofNat_of_lt' low_lt, Nat.mul_comm, Nat.div_add_mod]

theorem highHalf_halves (high low : UInt32) :
    ((high.toUInt64 <<< 32 ||| low.toUInt64) >>> 32).toUInt32 = high := by
  have low_lt := low.toNat_lt
  rw [← UInt32.toNat_inj, UInt64.toNat_toUInt32, UInt64.toNat_shiftRight, toNat_halves]
  change ((high.toNat * 2 ^ 32 + low.toNat) >>> 32) % 2 ^ 32 = high.toNat
  rw [Nat.shiftRight_eq_div_pow, Nat.mul_comm, Nat.mul_add_div (by decide),
    Nat.div_eq_of_lt low_lt, Nat.add_zero, Nat.mod_eq_of_lt high.toNat_lt]

theorem lowHalf_halves (high low : UInt32) :
    (high.toUInt64 <<< 32 ||| low.toUInt64).toUInt32 = low := by
  rw [← UInt32.toNat_inj, UInt64.toNat_toUInt32, toNat_halves, Nat.mul_comm, Nat.mul_add_mod,
    Nat.mod_eq_of_lt low.toNat_lt]

namespace Cell

@[simp]
theorem slots_ofHalves (high low : UInt32) : (ofHalves high low).slots = [high, low] := by
  rw [ofHalves, slots, highHalf_halves, lowHalf_halves]

theorem wide_eq_ofHalves (bits : UInt64) :
    wide bits = ofHalves (bits >>> 32).toUInt32 bits.toUInt32 := by
  obtain ⟨high, low, rfl⟩ := exists_halves bits
  rw [highHalf_halves, lowHalf_halves, ofHalves]

end Cell

end ClassMachine
