import ClassMachine.Proofs.Outcome
import ClassMachine.Text.Decimal
import ClassMachine.Text.Hex

set_option autoImplicit false

/-!
# Numbers as they are written

A decimal number is read back as what it was, as long as it is in the range that is asked for, and
so two numbers are never written alike. Hexadecimal numerals of a fixed width tell the numbers apart
that have no more digits than that.
-/

namespace ClassMachine

namespace Decimal

open Outcome (except_bind_eq_ok)

theorem digits_ne_nil (number : Nat) : digits number ≠ [] := by
  unfold digits
  split <;> simp

theorem exists_digit_of_mem {number : Nat} {character : Char} (member : character ∈ digits number) :
    ∃ value < 10, character = digit value := by
  fun_induction digits number with
  | case1 number small => exact ⟨number, small, List.mem_singleton.mp member⟩
  | case2 number large inductionHypothesis =>
    rcases List.mem_append.mp member with front | last
    · exact inductionHypothesis front
    · exact ⟨number % 10, Nat.mod_lt number (by decide), List.mem_singleton.mp last⟩

theorem digit_ne_sign {value : Nat} (isDigit : value < 10) :
    digit value ≠ '-' ∧ digit value ≠ '+' := by
  have cases : ∀ value : Fin 10, digit value ≠ '-' ∧ digit value ≠ '+' := by decide
  exact cases ⟨value, isDigit⟩

theorem exists_digits_eq_cons (number : Nat) :
    ∃ first others, digits number = first :: others ∧ first ≠ '-' ∧ first ≠ '+' := by
  obtain ⟨first, others, digits_eq⟩ := List.exists_cons_of_ne_nil (digits_ne_nil number)
  have member : first ∈ digits number := by simp [digits_eq]
  obtain ⟨value, isDigit, rfl⟩ := exists_digit_of_mem member
  exact ⟨_, others, digits_eq, digit_ne_sign isDigit⟩

theorem readDigits_append (limit : Nat) (overflow : ReadError) (number : Nat)
    (first second : List Char) :
    readDigits limit overflow number (first ++ second) =
      readDigits limit overflow number first >>= fun front =>
        readDigits limit overflow front second := by
  induction first generalizing number with
  | nil => rfl
  | cons character characters inductionHypothesis =>
    rw [List.cons_append, readDigits, readDigits]
    cases digitValue? character with
    | none => rfl
    | some value =>
      dsimp only
      split
      · exact inductionHypothesis _
      · rfl

theorem readDigits_digits {limit number : Nat} (overflow : ReadError) (inRange : number ≤ limit) :
    readDigits limit overflow 0 (digits number) = .ok number := by
  fun_induction digits number with
  | case1 number small => simp [readDigits, digitValue?_digit small, inRange]
  | case2 number large inductionHypothesis =>
    have front_eq := inductionHypothesis (Nat.le_trans (Nat.div_le_self number 10) inRange)
    have last_digit := digitValue?_digit (Nat.mod_lt number (show 0 < 10 by decide))
    have number_eq : number / 10 * 10 + number % 10 = number := Nat.div_add_mod' number 10
    rw [readDigits_append, front_eq]
    simp [bind, Except.bind, readDigits, last_digit, number_eq, inRange]

theorem readNatural_digits {limit number : Nat} (inRange : number ≤ limit) :
    readNatural limit (digits number) = .ok number := by
  obtain ⟨first, others, digits_eq, -, no_plus⟩ := exists_digits_eq_cons number
  rw [← readDigits_digits .tooLarge inRange, digits_eq]
  unfold readNatural
  split <;> simp_all

theorem readInteger_ofInt {limit : Nat} {number : Int} (least : -(limit + 1 : Int) ≤ number)
    (greatest : number ≤ limit) : readInteger limit (ofInt number).toList = .ok number := by
  obtain ⟨first, others, digits_eq, no_minus, -⟩ := exists_digits_eq_cons number.natAbs
  unfold ofInt
  split
  next negative =>
    have read := readDigits_digits .tooSmall (show number.natAbs ≤ limit + 1 by omega)
    rw [digits_eq] at read
    simp [readInteger, digits_eq, read, Except.map, abs_of_neg negative]
  next natural =>
    have read := readNatural_digits (show number.natAbs ≤ limit by omega)
    rw [digits_eq] at read
    rw [String.toList_ofList, digits_eq]
    unfold readInteger
    split
    next minus => exact absurd (List.cons.inj minus).1 no_minus
    next minus => exact absurd (List.cons.inj minus).1 no_minus
    next => simpa [read, Except.map] using natural

theorem ofInt_injective : Function.Injective ofInt := by
  intro first second same
  -- Both are in the range up to the sum of their sizes.
  have read_first : readInteger (first.natAbs + second.natAbs) (ofInt first).toList = .ok first :=
    readInteger_ofInt (by omega) (by omega)
  have read_second : readInteger (first.natAbs + second.natAbs) (ofInt second).toList = .ok second :=
    readInteger_ofInt (by omega) (by omega)
  rw [same] at read_first
  exact Except.ok.inj (read_first.symm.trans read_second)

end Decimal

namespace Hex

theorem eq_of_digit_eq {first second : Nat} (first_lt : first < 16) (second_lt : second < 16)
    (same : digit first = digit second) : first = second := by
  have cases : ∀ first second : Fin 16, digit first = digit second → first = second := by decide
  exact congrArg Fin.val (cases ⟨first, first_lt⟩ ⟨second, second_lt⟩ same)

theorem mod_eq_of_digits_eq {count first second : Nat}
    (same : digits count first = digits count second) :
    first % 16 ^ count = second % 16 ^ count := by
  induction count with
  | zero => simp [Nat.mod_one]
  | succ count inductionHypothesis =>
    have split (number : Nat) : number % 16 ^ (count + 1) =
        number % 16 ^ count + 16 ^ count * (number >>> (4 * count) % 16) := by
      rw [Nat.mod_pow_succ, Nat.shiftRight_eq_div_pow, Nat.pow_mul]
    obtain ⟨leading, others⟩ := List.cons.inj same
    have leading_eq := eq_of_digit_eq (Nat.mod_lt _ (by decide)) (Nat.mod_lt _ (by decide)) leading
    rw [split, split, inductionHypothesis others, leading_eq]

end Hex

end ClassMachine
