import ClassMachine.Proofs.Outcome
import ClassMachine.Text.Utf16

set_option autoImplicit false

/-!
# UTF-16 is read exactly as it is written

A character of the basic plane is one unit, which is no surrogate, and any other character is a high
surrogate and a low one. So what the first unit is tells how many belong to it, and units are read
as characters exactly if they are what these are written as.
-/

namespace ClassMachine.Utf16

variable {unit high low : UInt16}

theorem isHigh_iff : isHigh unit ↔ 0xD800 ≤ unit.toNat ∧ unit.toNat < 0xDC00 := by
  simp [isHigh, UInt16.le_iff_toNat_le, Nat.lt_succ_iff]

theorem isLow_iff : isLow unit ↔ 0xDC00 ≤ unit.toNat ∧ unit.toNat < 0xE000 := by
  simp [isLow, UInt16.le_iff_toNat_le, Nat.lt_succ_iff]

theorem toNat_valid (character : Char) :
    character.toNat < 0xD800 ∨ 0xDFFF < character.toNat ∧ character.toNat < 0x110000 :=
  character.valid

theorem encodeChar_combine (isHigh : isHigh high) (isLow : isLow low) :
    encodeChar (combine high low) = [high, low] := by
  obtain ⟨high_least, high_lt⟩ := isHigh_iff.mp isHigh
  obtain ⟨low_least, low_lt⟩ := isLow_iff.mp isLow
  have number_eq : (combine high low).toNat =
      0x10000 + (high.toNat - 0xD800) * 0x400 + (low.toNat - 0xDC00) := by
    unfold combine
    rw [Char.toNat_ofNat, if_pos (.inr (by omega))]
  have quotient : 0xD800 + ((combine high low).toNat - 0x10000) / 0x400 = high.toNat := by omega
  have remainder : 0xDC00 + ((combine high low).toNat - 0x10000) % 0x400 = low.toNat := by omega
  rw [encodeChar, if_neg (by omega), quotient, remainder, UInt16.ofNat_toNat, UInt16.ofNat_toNat]

theorem toNat_ofNat (notHigh : ¬isHigh unit) (notLow : ¬isLow unit) :
    (Char.ofNat unit.toNat).toNat = unit.toNat := by
  rw [isHigh_iff] at notHigh
  rw [isLow_iff] at notLow
  have unit_lt := unit.toNat_lt
  have valid : unit.toNat.isValidChar := by
    unfold Nat.isValidChar
    omega
  rw [Char.toNat_ofNat, if_pos valid]

theorem encodeChar_ofNat (notHigh : ¬isHigh unit) (notLow : ¬isLow unit) :
    encodeChar (Char.ofNat unit.toNat) = [unit] := by
  rw [encodeChar, toNat_ofNat notHigh notLow, if_pos unit.toNat_lt, UInt16.ofNat_toNat]

theorem exists_pair {character : Char} (outside : 0x10000 ≤ character.toNat) :
    ∃ high low, isHigh high ∧ isLow low ∧ combine high low = character := by
  have valid := toNat_valid character
  have high_lt : 0xD800 + (character.toNat - 0x10000) / 0x400 < 2 ^ 16 := by omega
  have low_lt : 0xDC00 + (character.toNat - 0x10000) % 0x400 < 2 ^ 16 := by omega
  have number_eq : 0x10000 + (0xD800 + (character.toNat - 0x10000) / 0x400 - 0xD800) * 0x400 +
      (0xDC00 + (character.toNat - 0x10000) % 0x400 - 0xDC00) = character.toNat := by
    omega
  refine ⟨UInt16.ofNat (0xD800 + (character.toNat - 0x10000) / 0x400),
    UInt16.ofNat (0xDC00 + (character.toNat - 0x10000) % 0x400), ?_, ?_, ?_⟩
  · rw [isHigh_iff, UInt16.toNat_ofNat_of_lt' high_lt]
    omega
  · rw [isLow_iff, UInt16.toNat_ofNat_of_lt' low_lt]
    omega
  · rw [combine, UInt16.toNat_ofNat_of_lt' high_lt, UInt16.toNat_ofNat_of_lt' low_lt, number_eq,
      Char.ofNat_toNat]

theorem exists_single {character : Char} (basic : character.toNat < 0x10000) :
    ∃ unit : UInt16, ¬isHigh unit ∧ ¬isLow unit ∧ Char.ofNat unit.toNat = character := by
  have valid := toNat_valid character
  have unit_eq : (UInt16.ofNat character.toNat).toNat = character.toNat :=
    UInt16.toNat_ofNat_of_lt' basic
  refine ⟨UInt16.ofNat character.toNat, ?_, ?_, ?_⟩
  · rw [isHigh_iff]
    omega
  · rw [isLow_iff]
    omega
  · rw [unit_eq, Char.ofNat_toNat]

theorem decode_pair (isHigh : isHigh high) (isLow : isLow low) (units : List UInt16) :
    decode (high :: low :: units) = (decode units).map (combine high low :: ·) := by
  rw [decode, if_pos isHigh, if_pos isLow]

theorem decode_single (notHigh : ¬isHigh unit) (notLow : ¬isLow unit) (units : List UInt16) :
    decode (unit :: units) = (decode units).map (Char.ofNat unit.toNat :: ·) := by
  rw [decode.eq_def]
  dsimp only
  rw [if_neg notHigh, if_neg notLow]

theorem decode_encodeChar_append (character : Char) (units : List UInt16) :
    decode (encodeChar character ++ units) = (decode units).map (character :: ·) := by
  rcases Nat.lt_or_ge character.toNat 0x10000 with basic | outside
  · obtain ⟨unit, notHigh, notLow, rfl⟩ := exists_single basic
    rw [encodeChar_ofNat notHigh notLow]
    exact decode_single notHigh notLow units
  · obtain ⟨high, low, isHigh, isLow, rfl⟩ := exists_pair outside
    rw [encodeChar_combine isHigh isLow]
    exact decode_pair isHigh isLow units

theorem decode_eq_some {units : List UInt16} {characters : List Char} :
    decode units = some characters ↔ units = encode characters := by
  constructor
  · intro decoded
    fun_induction decode units generalizing characters with
    | case1 =>
      cases decoded
      rfl
    | case2 high isHigh low others isLow inductionHypothesis =>
      obtain ⟨tail, others_decoded, rfl⟩ := Option.map_eq_some_iff.mp decoded
      rw [encode, List.flatMap_cons, encodeChar_combine isHigh isLow,
        inductionHypothesis others_decoded]
      rfl
    | case3 => cases decoded
    | case4 => cases decoded
    | case5 => cases decoded
    | case6 unit others notHigh notLow inductionHypothesis =>
      obtain ⟨tail, others_decoded, rfl⟩ := Option.map_eq_some_iff.mp decoded
      rw [encode, List.flatMap_cons, encodeChar_ofNat notHigh notLow,
        inductionHypothesis others_decoded]
      rfl
  · rintro rfl
    induction characters with
    | nil => rfl
    | cons character characters inductionHypothesis =>
      change decode (encodeChar character ++ encode characters) = _
      rw [decode_encodeChar_append, inductionHypothesis, Option.map_some]

end ClassMachine.Utf16
