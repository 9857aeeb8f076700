import ClassMachine.Binary.Reader
import ClassMachine.Proofs.Binary.BigEndian
import ClassMachine.Proofs.Outcome

set_option autoImplicit false

/-!
# Primitive reads

A primitive read needs a number of bytes. If there are as many it takes them and makes of them the
number that they stand for, reduced to the word that it results in; if there are fewer it leaves the
cursor where it was. So however many reads are done in a row, and whichever of them fail, what they
take is the front of the input up to the cursor, piece by piece.
-/

namespace ClassMachine

namespace BigEndian

theorem ofNat_value_append (front : List UInt8) {back : List UInt8} (long : 8 ≤ back.length) :
    UInt64.ofNat (value (front ++ back)) = UInt64.ofNat (value back) := by
  obtain ⟨above, length_eq⟩ := Nat.exists_eq_add_of_le long
  have weight : value front * 256 ^ back.length = 2 ^ 64 * (value front * 256 ^ above) := by
    rw [length_eq, Nat.pow_add]
    ring
  rw [value_append, weight, ← UInt64.toNat_inj]
  simp [UInt64.toNat_ofNat']

theorem ofNat_value_drop {width : Nat} {digits : List UInt8} (length_eq : digits.length = width) :
    UInt64.ofNat (value (digits.drop (width - 8))) = UInt64.ofNat (value digits) := by
  by_cases short : width ≤ 8
  · rw [Nat.sub_eq_zero_of_le short, List.drop_zero]
  · have long : 8 ≤ (digits.drop (width - 8)).length := by
      rw [List.length_drop]
      omega
    rw [← ofNat_value_append (digits.take (width - 8)) long, List.take_append_drop]

theorem ofNat_value_parts (front back : List UInt8) :
    UInt64.ofNat (value (front ++ back)) =
      UInt64.ofNat ((UInt64.ofNat (value front)).toNat * 256 ^ back.length +
        (UInt64.ofNat (value back)).toNat) := by
  rw [value_append, ← UInt64.toNat_inj]
  simp only [UInt64.toNat_ofNat']
  have front_mod : value front % 2 ^ 64 ≡ value front [MOD 2 ^ 64] := Nat.mod_modEq _ _
  have back_mod : value back % 2 ^ 64 ≡ value back [MOD 2 ^ 64] := Nat.mod_modEq _ _
  exact ((front_mod.mul_right _).add back_mod).symm

end BigEndian

theorem Cursor.length_take_rest {cursor : Cursor} {count : Nat}
    (enough : count ≤ cursor.remaining) : (cursor.rest.take count).length = count := by
  rw [List.length_take]
  exact Nat.min_eq_left enough

namespace Reader

open Outcome

/-- Reads that are not made of others. -/
inductive Primitive where
  | bytes (count : Nat)
  | skip (count : Nat)
  | uint (width : Nat)
  | uint8
  | uint16
  | uint32
  | uint64
  | int8
  | int16
  | int32

namespace Primitive

/-- What a read results in. -/
def Result : Primitive → Type
  | .bytes _ => List UInt8
  | .skip _ => Unit
  | .uint _ => UInt64
  | .uint8 => UInt8
  | .uint16 => UInt16
  | .uint32 => UInt32
  | .uint64 => UInt64
  | .int8 => Int8
  | .int16 => Int16
  | .int32 => Int32

def reader : (read : Primitive) → Reader read.Result
  | .bytes count => Reader.bytes count
  | .skip count => Reader.skip count
  | .uint width => Reader.uint width
  | .uint8 => Reader.uint8
  | .uint16 => Reader.uint16
  | .uint32 => Reader.uint32
  | .uint64 => Reader.uint64
  | .int8 => Reader.int8
  | .int16 => Reader.int16
  | .int32 => Reader.int32

/-- How many bytes a read needs. -/
def size : Primitive → Nat
  | .bytes count => count
  | .skip count => count
  | .uint width => width
  | .uint8 => 1
  | .uint16 => 2
  | .uint32 => 4
  | .uint64 => 8
  | .int8 => 1
  | .int16 => 2
  | .int32 => 4

/-- What a read makes of the bytes that it takes: the word, signed or not, that is congruent to the
number that they stand for. -/
def ofBytes : (read : Primitive) → List UInt8 → read.Result
  | .bytes _, taken => taken
  | .skip _, _ => ()
  | .uint _, taken => UInt64.ofNat (BigEndian.value taken)
  | .uint8, taken => UInt8.ofNat (BigEndian.value taken)
  | .uint16, taken => UInt16.ofNat (BigEndian.value taken)
  | .uint32, taken => UInt32.ofNat (BigEndian.value taken)
  | .uint64, taken => UInt64.ofNat (BigEndian.value taken)
  | .int8, taken => Int8.ofInt (BigEndian.value taken)
  | .int16, taken => Int16.ofInt (BigEndian.value taken)
  | .int32, taken => Int32.ofInt (BigEndian.value taken)

variable {cursor : Cursor}

theorem number_of_le {width : Nat} (enough : width ≤ cursor.remaining) :
    number width cursor =
      .ok (BigEndian.value (cursor.rest.take width)) (cursor.advance width) :=
  map_eq_ok.mpr ⟨_, bytes_of_le enough, rfl⟩

theorem number_of_lt {width : Nat} (short : cursor.remaining < width) :
    number width cursor = .error (.unexpectedEndOfInput width cursor.remaining) cursor :=
  map_eq_error.mpr (bytes_of_lt short)

theorem reader_of_le (read : Primitive) (enough : read.size ≤ cursor.remaining) :
    read.reader cursor =
      .ok (read.ofBytes (cursor.rest.take read.size)) (cursor.advance read.size) := by
  cases read with
  | bytes count => exact bytes_of_le enough
  | skip count => exact bind_of_ok (bytes_of_le enough)
  | uint width =>
    have length_eq := Cursor.length_take_rest enough
    exact map_eq_ok.mpr ⟨_, bytes_of_le enough, BigEndian.ofNat_value_drop length_eq⟩
  | uint8 => exact map_eq_ok.mpr ⟨_, number_of_le enough, rfl⟩
  | uint16 => exact map_eq_ok.mpr ⟨_, number_of_le enough, rfl⟩
  | uint32 => exact map_eq_ok.mpr ⟨_, number_of_le enough, rfl⟩
  | uint64 => exact map_eq_ok.mpr ⟨_, number_of_le enough, rfl⟩
  | int8 =>
    refine map_eq_ok.mpr ⟨_, map_eq_ok.mpr ⟨_, number_of_le enough, rfl⟩, ?_⟩
    rw [UInt8.toInt8_ofNat', ← Int8.ofInt_eq_ofNat]
    rfl
  | int16 =>
    refine map_eq_ok.mpr ⟨_, map_eq_ok.mpr ⟨_, number_of_le enough, rfl⟩, ?_⟩
    rw [UInt16.toInt16_ofNat', ← Int16.ofInt_eq_ofNat]
    rfl
  | int32 =>
    refine map_eq_ok.mpr ⟨_, map_eq_ok.mpr ⟨_, number_of_le enough, rfl⟩, ?_⟩
    rw [UInt32.toInt32_ofNat', ← Int32.ofInt_eq_ofNat]
    rfl

theorem reader_of_lt (read : Primitive) (short : cursor.remaining < read.size) :
    read.reader cursor = .error (.unexpectedEndOfInput read.size cursor.remaining) cursor := by
  cases read with
  | bytes count => exact bytes_of_lt short
  | skip count => exact bind_of_error (bytes_of_lt short)
  | uint width => exact map_eq_error.mpr (bytes_of_lt short)
  | uint8 => exact map_eq_error.mpr (number_of_lt short)
  | uint16 => exact map_eq_error.mpr (number_of_lt short)
  | uint32 => exact map_eq_error.mpr (number_of_lt short)
  | uint64 => exact map_eq_error.mpr (number_of_lt short)
  | int8 => exact map_eq_error.mpr (map_eq_error.mpr (number_of_lt short))
  | int16 => exact map_eq_error.mpr (map_eq_error.mpr (number_of_lt short))
  | int32 => exact map_eq_error.mpr (map_eq_error.mpr (number_of_lt short))

theorem map_reader_eq {α : Type} (first second : Primitive) {build : first.Result → α}
    {other : second.Result → α} (size_eq : first.size = second.size)
    (agree : ∀ taken, taken.length = first.size →
      build (first.ofBytes taken) = other (second.ofBytes taken)) :
    build <$> first.reader = other <$> second.reader := by
  funext cursor
  by_cases enough : first.size ≤ cursor.remaining
  · have length_eq := Cursor.length_take_rest enough
    have second_enough : second.size ≤ cursor.remaining := size_eq ▸ enough
    rw [map_eq_ok.mpr ⟨_, first.reader_of_le enough, agree _ length_eq⟩,
      map_eq_ok.mpr ⟨_, second.reader_of_le second_enough, rfl⟩, size_eq]
  · have short := Nat.lt_of_not_le enough
    have second_short : cursor.remaining < second.size := size_eq ▸ short
    rw [map_eq_error.mpr (first.reader_of_lt short),
      map_eq_error.mpr (second.reader_of_lt second_short),
      size_eq]

/-- The bytes that a read takes, which are none if it fails. -/
def taken (read : Primitive) (cursor : Cursor) : List UInt8 :=
  match read.reader cursor with
  | .ok _ after => cursor.rest.take (after.position - cursor.position)
  | .error _ _ => []

theorem taken_append_rest (read : Primitive) (cursor : Cursor) :
    read.taken cursor ++ (state (read.reader cursor)).rest = cursor.rest := by
  by_cases enough : read.size ≤ cursor.remaining
  · simp [taken, read.reader_of_le enough, Cursor.advance]
  · simp [taken, read.reader_of_lt (Nat.lt_of_not_le enough)]

theorem position_eq (read : Primitive) (cursor : Cursor) :
    (state (read.reader cursor)).position = cursor.position + (read.taken cursor).length := by
  by_cases enough : read.size ≤ cursor.remaining
  · have fits : read.size ≤ cursor.rest.length := enough
    simp [taken, read.reader_of_le enough, Cursor.advance, fits]
  · simp [taken, read.reader_of_lt (Nat.lt_of_not_le enough)]

end Primitive

def after (reads : List Primitive) (cursor : Cursor) : Cursor :=
  reads.foldl (fun cursor read => state (read.reader cursor)) cursor

def takenBy : List Primitive → Cursor → List UInt8
  | [], _ => []
  | read :: reads, cursor => read.taken cursor ++ takenBy reads (state (read.reader cursor))

theorem takenBy_append_rest (reads : List Primitive) (cursor : Cursor) :
    takenBy reads cursor ++ (after reads cursor).rest = cursor.rest := by
  induction reads generalizing cursor with
  | nil => rfl
  | cons read reads inductionHypothesis =>
    rw [takenBy, List.append_assoc]
    exact (congrArg _ (inductionHypothesis _)).trans (read.taken_append_rest cursor)

theorem position_after (reads : List Primitive) (cursor : Cursor) :
    (after reads cursor).position = cursor.position + (takenBy reads cursor).length := by
  induction reads generalizing cursor with
  | nil => rfl
  | cons read reads inductionHypothesis =>
    have later := inductionHypothesis (state (read.reader cursor))
    rw [read.position_eq, Nat.add_assoc, ← List.length_append] at later
    exact later

/-- Reading a word in two parts is reading it at once: the digits of the second part raise the first
one by their number. -/
theorem uint_add {front back : Nat} {cursor : Cursor} (enough : front + back ≤ cursor.remaining) :
    uint (front + back) cursor =
      (do
        let high ← uint front
        let low ← uint back
        pure (UInt64.ofNat (high.toNat * 256 ^ back + low.toNat))) cursor := by
  have front_enough : front ≤ cursor.remaining := by omega
  have back_enough : back ≤ (cursor.advance front).remaining := by
    have left : (cursor.advance front).remaining = cursor.remaining - front := List.length_drop
    omega
  have back_length := Cursor.length_take_rest back_enough
  have split : cursor.rest.take (front + back) =
      cursor.rest.take front ++ (cursor.advance front).rest.take back := List.take_add
  have moved : cursor.advance (front + back) = (cursor.advance front).advance back := by
    simp [Cursor.advance, Nat.add_assoc]
  have whole : uint (front + back) cursor =
      .ok (UInt64.ofNat (BigEndian.value (cursor.rest.take (front + back))))
        (cursor.advance (front + back)) := Primitive.reader_of_le (.uint _) enough
  have high : uint front cursor =
      .ok (UInt64.ofNat (BigEndian.value (cursor.rest.take front))) (cursor.advance front) :=
    Primitive.reader_of_le (.uint _) front_enough
  have low : uint back (cursor.advance front) =
      .ok (UInt64.ofNat (BigEndian.value ((cursor.advance front).rest.take back)))
        ((cursor.advance front).advance back) := Primitive.reader_of_le (.uint _) back_enough
  rw [whole, split, BigEndian.ofNat_value_parts, back_length, moved, bind_of_ok high,
    bind_of_ok low]
  rfl

theorem value_lt_of_length {taken : List UInt8} {length : Nat} (length_eq : taken.length = length) :
    BigEndian.value taken < 256 ^ length :=
  length_eq ▸ BigEndian.value_lt taken

theorem toNat_ofNat_value {taken : List UInt8} {length : Nat} (length_eq : taken.length = length)
    (few : length ≤ 8) :
    (UInt64.ofNat (BigEndian.value taken)).toNat = BigEndian.value taken := by
  apply UInt64.toNat_ofNat_of_lt'
  exact Nat.lt_of_lt_of_le (value_lt_of_length length_eq) (Nat.pow_le_pow_right (by decide) few)

theorem unsigned_eq_uint :
    UInt8.toUInt64 <$> uint8 = uint 1 ∧ UInt16.toUInt64 <$> uint16 = uint 2 ∧
      UInt32.toUInt64 <$> uint32 = uint 4 ∧ uint64 = uint 8 := by
  refine ⟨?_, ?_, ?_, ?_⟩
  · refine (Primitive.map_reader_eq .uint8 (.uint 1) rfl ?_).trans (id_map _)
    intro taken length_eq
    exact UInt8.toUInt64_ofNat' (value_lt_of_length length_eq)
  · refine (Primitive.map_reader_eq .uint16 (.uint 2) rfl ?_).trans (id_map _)
    intro taken length_eq
    exact UInt16.toUInt64_ofNat' (value_lt_of_length length_eq)
  · refine (Primitive.map_reader_eq .uint32 (.uint 4) rfl ?_).trans (id_map _)
    intro taken length_eq
    exact UInt32.toUInt64_ofNat' (value_lt_of_length length_eq)
  · have same := Primitive.map_reader_eq .uint64 (.uint 8) rfl fun taken _ => Eq.refl (id _)
    exact (id_map _).symm.trans (same.trans (id_map _))

theorem signed_eq_uint :
    Int8.toInt <$> int8 = (fun word => Int.bmod word.toNat (2 ^ 8)) <$> uint 1 ∧
      Int16.toInt <$> int16 = (fun word => Int.bmod word.toNat (2 ^ 16)) <$> uint 2 ∧
      Int32.toInt <$> int32 = (fun word => Int.bmod word.toNat (2 ^ 32)) <$> uint 4 := by
  refine ⟨Primitive.map_reader_eq .int8 (.uint 1) rfl ?_,
    Primitive.map_reader_eq .int16 (.uint 2) rfl ?_,
    Primitive.map_reader_eq .int32 (.uint 4) rfl ?_⟩
  · intro taken length_eq
    refine Int8.toInt_ofInt.trans ?_
    rw [Primitive.ofBytes, toNat_ofNat_value length_eq (by decide)]
    rfl
  · intro taken length_eq
    refine Int16.toInt_ofInt.trans ?_
    rw [Primitive.ofBytes, toNat_ofNat_value length_eq (by decide)]
    rfl
  · intro taken length_eq
    refine Int32.toInt_ofInt.trans ?_
    rw [Primitive.ofBytes, toNat_ofNat_value length_eq (by decide)]
    rfl

/-- A read of so many bytes succeeds exactly if there are as many; then it moves past them and
results in their number, reduced to its word, and otherwise it does not move. What reads in a row
take is the input up to where they lead. A word can be read in two parts, and numbers of one, two,
four and eight bytes are words, signed ones in two's complement. -/
theorem reads_partition_input :
    (∀ (read : Primitive) (cursor : Cursor),
      (read.size ≤ cursor.remaining → read.reader cursor =
        .ok (read.ofBytes (cursor.rest.take read.size)) (cursor.advance read.size)) ∧
      (cursor.remaining < read.size → read.reader cursor =
        .error (.unexpectedEndOfInput read.size cursor.remaining) cursor)) ∧
    (∀ (input : List UInt8) (reads : List Primitive),
      let reached := after reads (.ofBytes input)
      takenBy reads (.ofBytes input) = input.take reached.position ∧
        reached.rest = input.drop reached.position ∧ reached.position ≤ input.length) ∧
    (∀ (front back : Nat) (cursor : Cursor), front + back ≤ cursor.remaining →
      uint (front + back) cursor =
        (do
          let high ← uint front
          let low ← uint back
          pure (UInt64.ofNat (high.toNat * 256 ^ back + low.toNat))) cursor) ∧
    (UInt8.toUInt64 <$> uint8 = uint 1 ∧ UInt16.toUInt64 <$> uint16 = uint 2 ∧
      UInt32.toUInt64 <$> uint32 = uint 4 ∧ uint64 = uint 8) ∧
    Int8.toInt <$> int8 = (fun word => Int.bmod word.toNat (2 ^ 8)) <$> uint 1 ∧
      Int16.toInt <$> int16 = (fun word => Int.bmod word.toNat (2 ^ 16)) <$> uint 2 ∧
      Int32.toInt <$> int32 = (fun word => Int.bmod word.toNat (2 ^ 32)) <$> uint 4 := by
  refine ⟨fun read cursor => ⟨read.reader_of_le, read.reader_of_lt⟩, ?_,
    fun front back cursor => uint_add, unsigned_eq_uint, signed_eq_uint⟩
  intro input reads reached
  have whole : takenBy reads (.ofBytes input) ++ reached.rest = input :=
    takenBy_append_rest reads (.ofBytes input)
  have position_eq : reached.position = (takenBy reads (.ofBytes input)).length :=
    (position_after reads (.ofBytes input)).trans (Nat.zero_add _)
  rw [position_eq]
  refine ⟨?_, ?_, ?_⟩
  · exact (List.take_left' rfl).symm.trans (congrArg _ whole)
  · exact (List.drop_left' rfl).symm.trans (congrArg _ whole)
  · have length_eq := congrArg List.length whole
    rw [List.length_append] at length_eq
    omega

/-- The second read fails, and the third one takes what it would have begun with. -/
example : takenBy [.uint 2, .uint32, .skip 1] (.ofBytes [1, 2, 3]) = [1, 2] ++ [] ++ [3] := by
  decide

end Reader

end ClassMachine
