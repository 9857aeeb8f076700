import ClassMachine.Proofs.Text.Utf16
import ClassMachine.Text.ModifiedUtf8

set_option autoImplicit false

/-!
# The byte forms of modified UTF-8

Each UTF-16 unit is carried by a form of one, two or three bytes. The first byte of a form tells its
length, so bytes split into forms in at most one way, and they are decoded exactly if they do and the
units of the forms are UTF-16. A form need not be the shortest one that carries its unit. This is
what keeps a text from having only one written form: bytes are what their text is encoded as exactly
if all of their forms are shortest.
-/

namespace ClassMachine.ModifiedUtf8

/-- The bytes that may stand in a form after its first one. -/
def Continues (byte : UInt8) : Prop := 0x80 ≤ byte.toNat ∧ byte.toNat ≤ 0xBF

/-- The bytes that carry one unit. -/
inductive Form where
  | single (byte : UInt8) (range : 0x01 ≤ byte.toNat ∧ byte.toNat ≤ 0x7F)
  | double (first second : UInt8) (range : 0xC0 ≤ first.toNat ∧ first.toNat ≤ 0xDF)
      (continues : Continues second)
  | triple (first second third : UInt8) (range : 0xE0 ≤ first.toNat ∧ first.toNat ≤ 0xEF)
      (continues : Continues second ∧ Continues third)

namespace Form

def bytes : Form → List UInt8
  | single byte _ => [byte]
  | double first second .. => [first, second]
  | triple first second third .. => [first, second, third]

/-- The number that the payload bits of the bytes stand for, the most significant ones first: seven
bits, five and six, or four and twice six. -/
def number : Form → Nat
  | single byte _ => byte.toNat % 2 ^ 7
  | double first second .. => first.toNat % 2 ^ 5 * 2 ^ 6 + second.toNat % 2 ^ 6
  | triple first second third .. =>
    first.toNat % 2 ^ 4 * 2 ^ 12 + second.toNat % 2 ^ 6 * 2 ^ 6 + third.toNat % 2 ^ 6

/-- The unit that the bytes carry. -/
def unit (form : Form) : UInt16 := UInt16.ofNat form.number

/-- No form of fewer bytes carries the same unit. Zero has no form of one byte. -/
def IsShortest : Form → Prop
  | single .. => True
  | double first second .. => 0xC2 ≤ first.toNat ∨ first.toNat = 0xC0 ∧ second.toNat = 0x80
  | triple first second .. => 0xE1 ≤ first.toNat ∨ 0xA0 ≤ second.toNat

theorem toNat_unit (form : Form) : form.unit.toNat = form.number := by
  refine UInt16.toNat_ofNat_of_lt' ?_
  change form.number < 2 ^ 16
  cases form <;> simp only [number] <;> omega

end Form

theorem isContinuation_iff {byte : UInt8} : isContinuation byte ↔ Continues byte := by
  have highest_bits : ∀ number : Fin 256, number.val &&& 0xC0 = number.val / 64 * 64 := by
    decide +kernel
  have masked : (byte &&& 0xC0).toNat = byte.toNat / 64 * 64 :=
    (UInt8.toNat_and byte 0xC0).trans (highest_bits ⟨byte.toNat, byte.toNat_lt⟩)
  unfold isContinuation Continues
  rw [beq_iff_eq, ← UInt8.toNat_inj, masked]
  change byte.toNat / 64 * 64 = 0x80 ↔ _
  omega

section Payload

variable {byte mask : UInt8} {high low places : UInt16} {width above below : Nat}

theorem toNat_lowestBits (mask_eq : mask.toNat = 2 ^ width - 1) :
    (byte &&& mask).toUInt16.toNat = byte.toNat % 2 ^ width := by
  rw [UInt8.toNat_toUInt16, UInt8.toNat_and, mask_eq, Nat.and_two_pow_sub_one_eq_mod]

theorem toNat_payload (byte : UInt8) : (payload byte).toNat = byte.toNat % 2 ^ 6 :=
  toNat_lowestBits rfl

theorem toNat_join (places_eq : places.toNat = width) (width_lt : width < 16)
    (high_eq : high.toNat = above) (low_eq : low.toNat = below)
    (above_lt : above * 2 ^ width < 2 ^ 16) (below_lt : below < 2 ^ width) :
    (high <<< places ||| low).toNat = above * 2 ^ width + below := by
  rw [UInt16.toNat_or, UInt16.toNat_shiftLeft, places_eq, Nat.mod_eq_of_lt width_lt, high_eq,
    low_eq, Nat.shiftLeft_eq, Nat.mod_eq_of_lt above_lt, ← Nat.shiftLeft_eq,
    ← Nat.shiftLeft_add_eq_or_of_lt below_lt]

end Payload

namespace Form

theorem unit_single {byte : UInt8} (range : 0x01 ≤ byte.toNat ∧ byte.toNat ≤ 0x7F) :
    (single byte range).unit = byte.toUInt16 := by
  rw [← UInt16.toNat_inj, toNat_unit, number, UInt8.toNat_toUInt16]
  omega

variable {first second third : UInt8}

theorem unit_double (range : 0xC0 ≤ first.toNat ∧ first.toNat ≤ 0xDF)
    (continues : Continues second) :
    (double first second range continues).unit =
      (first &&& 0x1F).toUInt16 <<< 6 ||| payload second := by
  have first_eq : (first &&& 0x1F).toUInt16.toNat = first.toNat % 2 ^ 5 := toNat_lowestBits rfl
  have places_eq : (6 : UInt16).toNat = 6 := rfl
  rw [← UInt16.toNat_inj, toNat_unit, number,
    toNat_join places_eq (by decide) first_eq (toNat_payload second) (by omega) (by omega)]

theorem unit_triple (range : 0xE0 ≤ first.toNat ∧ first.toNat ≤ 0xEF)
    (continues : Continues second ∧ Continues third) :
    (triple first second third range continues).unit =
      (first &&& 0x0F).toUInt16 <<< 12 ||| payload second <<< 6 ||| payload third := by
  have first_eq : (first &&& 0x0F).toUInt16.toNat = first.toNat % 2 ^ 4 := toNat_lowestBits rfl
  have lower_places : (6 : UInt16).toNat = 6 := rfl
  have upper_places : (12 : UInt16).toNat = 12 := rfl
  have lower_eq := toNat_join lower_places (by decide) (toNat_payload second)
    (toNat_payload third) (by omega) (by omega)
  rw [UInt16.or_assoc, ← UInt16.toNat_inj, toNat_unit, number,
    toNat_join upper_places (by decide) first_eq lower_eq (by omega) (by omega), Nat.add_assoc]

end Form

section Comparisons

variable {byte bound : UInt8} {number : Nat}

theorem beq_zero_iff : (byte == 0) = true ↔ byte.toNat = 0 := by
  rw [beq_iff_eq, ← UInt8.toNat_inj]
  rfl

theorem lt_iff_le (bound_eq : bound.toNat = number + 1) : byte < bound ↔ byte.toNat ≤ number := by
  rw [UInt8.lt_iff_toNat_lt, bound_eq, Nat.lt_succ_iff]

theorem not_lt_of_le (least : number ≤ byte.toNat) (bound_le : bound.toNat ≤ number) :
    ¬byte < bound := by
  rw [UInt8.lt_iff_toNat_lt]
  omega

end Comparisons

theorem units_append (form : Form) (rest : List UInt8) :
    units (form.bytes ++ rest) = (units rest).map (form.unit :: ·) := by
  cases form with
  | single byte range =>
    have nonzero : ¬(byte == 0) = true := by
      rw [beq_zero_iff]
      omega
    rw [Form.bytes, List.singleton_append, units.eq_def, Form.unit_single]
    dsimp only
    rw [if_neg nonzero, if_pos ((lt_iff_le rfl).mpr range.2)]
  | double first second range continues =>
    have nonzero : ¬(first == 0) = true := by
      rw [beq_zero_iff]
      omega
    rw [Form.bytes, List.cons_append, List.singleton_append, units.eq_def, Form.unit_double]
    dsimp only
    rw [if_neg nonzero, if_neg (not_lt_of_le range.1 (by decide)),
      if_neg (not_lt_of_le range.1 (by decide)), if_pos ((lt_iff_le rfl).mpr range.2),
      if_pos (isContinuation_iff.mpr continues)]
  | triple first second third range continues =>
    have nonzero : ¬(first == 0) = true := by
      rw [beq_zero_iff]
      omega
    have both : (isContinuation second && isContinuation third) = true := by
      rw [Bool.and_eq_true, isContinuation_iff, isContinuation_iff]
      exact continues
    rw [Form.bytes, List.cons_append, List.cons_append, List.singleton_append, units.eq_def,
      Form.unit_triple]
    dsimp only
    rw [if_neg nonzero, if_neg (not_lt_of_le range.1 (by decide)),
      if_neg (not_lt_of_le range.1 (by decide)), if_neg (not_lt_of_le range.1 (by decide)),
      if_pos ((lt_iff_le rfl).mpr range.2), if_pos both]

/-- The units that bytes carry are those of the forms that they split into. -/
theorem units_eq_some {bytes : List UInt8} {carried : List UInt16} :
    units bytes = some carried ↔
      ∃ forms : List Form, forms.flatMap Form.bytes = bytes ∧ forms.map Form.unit = carried := by
  constructor
  · intro read
    fun_induction units bytes generalizing carried with
    | case1 =>
      cases read
      exact ⟨[], rfl, rfl⟩
    | case3 byte rest nonzero low inductionHypothesis =>
      rw [beq_zero_iff] at nonzero
      have range : 0x01 ≤ byte.toNat ∧ byte.toNat ≤ 0x7F :=
        ⟨Nat.pos_of_ne_zero nonzero, (lt_iff_le rfl).mp low⟩
      obtain ⟨tail, rest_read, rfl⟩ := Option.map_eq_some_iff.mp read
      obtain ⟨forms, rfl, rfl⟩ := inductionHypothesis rest_read
      exact ⟨.single byte range :: forms, rfl, by rw [List.map_cons, Form.unit_single]⟩
    | case5 first _ _ least greatest second others continues inductionHypothesis =>
      rw [isContinuation_iff] at continues
      obtain ⟨tail, rest_read, rfl⟩ := Option.map_eq_some_iff.mp read
      obtain ⟨forms, rfl, rfl⟩ := inductionHypothesis rest_read
      have range : 0xC0 ≤ first.toNat ∧ first.toNat ≤ 0xDF :=
        ⟨UInt8.le_iff_toNat_le.mp (UInt8.not_lt.mp least), (lt_iff_le rfl).mp greatest⟩
      exact ⟨.double first second range continues :: forms, rfl,
        by rw [List.map_cons, Form.unit_double]⟩
    | case8 first _ _ _ least greatest second third others continues inductionHypothesis =>
      rw [Bool.and_eq_true, isContinuation_iff, isContinuation_iff] at continues
      obtain ⟨tail, rest_read, rfl⟩ := Option.map_eq_some_iff.mp read
      obtain ⟨forms, rfl, rfl⟩ := inductionHypothesis rest_read
      have range : 0xE0 ≤ first.toNat ∧ first.toNat ≤ 0xEF :=
        ⟨UInt8.le_iff_toNat_le.mp (UInt8.not_lt.mp least), (lt_iff_le rfl).mp greatest⟩
      exact ⟨.triple first second third range continues :: forms, rfl,
        by rw [List.map_cons, Form.unit_triple]⟩
    | case2 | case4 | case6 | case7 | case9 | case10 | case11 => cases read
  · rintro ⟨forms, rfl, rfl⟩
    induction forms with
    | nil => rfl
    | cons form forms inductionHypothesis =>
      rw [List.flatMap_cons, units_append, inductionHypothesis, Option.map_some, List.map_cons]

namespace Form

/-- Where a form ends can be told from its first byte. -/
theorem append_inj {form other : Form} {rest others : List UInt8}
    (same : form.bytes ++ rest = other.bytes ++ others) : form = other ∧ rest = others := by
  cases form <;> cases other <;>
    simp only [bytes, List.cons_append, List.nil_append, List.cons.injEq] at same
  case single.single =>
    obtain ⟨rfl, rfl⟩ := same
    exact ⟨rfl, rfl⟩
  case double.double =>
    obtain ⟨rfl, rfl, rfl⟩ := same
    exact ⟨rfl, rfl⟩
  case triple.triple =>
    obtain ⟨rfl, rfl, rfl, rfl⟩ := same
    exact ⟨rfl, rfl⟩
  all_goals
    obtain ⟨rfl, -⟩ := same
    omega

theorem flatMap_bytes_injective :
    Function.Injective fun forms : List Form => forms.flatMap bytes := by
  intro forms others same
  induction forms generalizing others with
  | nil =>
    cases others with
    | nil => rfl
    | cons other others => cases other <;> cases same
  | cons form forms inductionHypothesis =>
    cases others with
    | nil => cases form <;> cases same
    | cons other others =>
      obtain ⟨rfl, tail⟩ := append_inj same
      rw [inductionHypothesis tail]

end Form

section Encoding

variable {unit places : UInt16} {tag bits : UInt8} {width above : Nat}

theorem toNat_tagged (free : 2 ^ width ∣ tag.toNat) (bits_lt : bits.toNat < 2 ^ width) :
    (tag ||| bits).toNat = tag.toNat + bits.toNat := by
  obtain ⟨tag_bits, tag_eq⟩ := free
  rw [UInt8.toNat_or, tag_eq, Nat.mul_comm, ← Nat.shiftLeft_eq,
    Nat.shiftLeft_add_eq_or_of_lt bits_lt]

theorem toNat_shiftRight (places_eq : places.toNat = above) (above_lt : above < 16) :
    (unit >>> places).toNat = unit.toNat / 2 ^ above := by
  rw [UInt16.toNat_shiftRight, places_eq, Nat.mod_eq_of_lt above_lt, Nat.shiftRight_eq_div_pow]

theorem toNat_first (free : 2 ^ width ∣ tag.toNat) (width_le : width ≤ 8)
    (places_eq : places.toNat = above) (above_lt : above < 16)
    (small : unit.toNat / 2 ^ above < 2 ^ width) :
    (tag ||| (unit >>> places).toUInt8).toNat = tag.toNat + unit.toNat / 2 ^ above := by
  have bits_eq : (unit >>> places).toUInt8.toNat = unit.toNat / 2 ^ above := by
    rw [UInt16.toNat_toUInt8, toNat_shiftRight places_eq above_lt]
    exact Nat.mod_eq_of_lt (Nat.lt_of_lt_of_le small (Nat.pow_le_pow_right (by decide) width_le))
  rw [toNat_tagged free (bits_eq ▸ small), bits_eq]

theorem toNat_continuation (unit : UInt16) :
    (continuation unit).toNat = 0x80 + unit.toNat % 2 ^ 6 := by
  have bits_eq : (unit &&& 0x3F).toUInt8.toNat = unit.toNat % 2 ^ 6 := by
    have lowest : (unit &&& 0x3F).toNat = unit.toNat % 2 ^ 6 :=
      (UInt16.toNat_and unit 0x3F).trans (Nat.and_two_pow_sub_one_eq_mod unit.toNat 6)
    rw [UInt16.toNat_toUInt8, lowest]
    omega
  have free : 2 ^ 6 ∣ (0x80 : UInt8).toNat := by decide
  rw [continuation, toNat_tagged free (by omega), bits_eq]
  rfl

theorem map_toNat_encodeUnit (unit : UInt16) :
    (encodeUnit unit).map UInt8.toNat =
      if unit.toNat ≠ 0 ∧ unit.toNat < 0x80 then [unit.toNat]
      else if unit.toNat < 0x800 then [0xC0 + unit.toNat / 2 ^ 6, 0x80 + unit.toNat % 2 ^ 6]
      else
        [0xE0 + unit.toNat / 2 ^ 12, 0x80 + unit.toNat / 2 ^ 6 % 2 ^ 6,
          0x80 + unit.toNat % 2 ^ 6] := by
  have unit_lt := unit.toNat_lt
  have is_single : unit ≠ 0 ∧ unit < 0x80 ↔ unit.toNat ≠ 0 ∧ unit.toNat < 0x80 := by
    rw [UInt16.lt_iff_toNat_lt, ne_eq, ← UInt16.toNat_inj]
    rfl
  have is_double : unit < 0x800 ↔ unit.toNat < 0x800 := UInt16.lt_iff_toNat_lt
  have six : (6 : UInt16).toNat = 6 := rfl
  have twelve : (12 : UInt16).toNat = 12 := rfl
  unfold encodeUnit
  simp only [is_single, is_double]
  split
  next single => rw [List.map_singleton, UInt16.toNat_toUInt8, Nat.mod_eq_of_lt (by omega)]
  next =>
    split
    next double =>
      have free : 2 ^ 5 ∣ (0xC0 : UInt8).toNat := by decide
      rw [List.map_cons, List.map_singleton, toNat_continuation,
        toNat_first free (by decide) six (by decide) (by omega)]
      rfl
    next =>
      have free : 2 ^ 4 ∣ (0xE0 : UInt8).toNat := by decide
      rw [List.map_cons, List.map_cons, List.map_singleton, toNat_continuation, toNat_continuation,
        toNat_first free (by decide) twelve (by decide) (by omega),
        toNat_shiftRight six (by decide)]
      rfl

end Encoding

namespace Form

theorem bytes_eq_encodeUnit_iff {form : Form} {unit : UInt16} :
    form.bytes = encodeUnit unit ↔ form.unit = unit ∧ form.IsShortest := by
  have by_numbers : form.bytes = encodeUnit unit ↔
      form.bytes.map UInt8.toNat = (encodeUnit unit).map UInt8.toNat :=
    (List.map_injective_iff.mpr fun _ _ => UInt8.toNat_inj.mp).eq_iff.symm
  rw [by_numbers, map_toNat_encodeUnit, ← UInt16.toNat_inj, toNat_unit]
  cases form with
  | single byte range =>
    simp only [bytes, number, IsShortest, List.map]
    split
    · simp only [List.cons.injEq, and_true]
      omega
    · split <;> simp only [List.cons.injEq, reduceCtorEq, and_false, false_iff] <;> omega
  | double first second range continues =>
    unfold Continues at continues
    simp only [bytes, number, IsShortest, List.map]
    split
    · simp only [List.cons.injEq, reduceCtorEq, and_false, false_iff]
      omega
    · split <;> simp only [List.cons.injEq, reduceCtorEq, and_false, and_true, false_iff] <;> omega
  | triple first second third range continues =>
    unfold Continues at continues
    simp only [bytes, number, IsShortest, List.map]
    split
    · simp only [List.cons.injEq, reduceCtorEq, and_false, false_iff]
      omega
    · split <;> simp only [List.cons.injEq, reduceCtorEq, and_false, and_true, false_iff] <;> omega

theorem exists_shortest (unit : UInt16) : ∃ form : Form, form.unit = unit ∧ form.IsShortest := by
  have unit_lt := unit.toNat_lt
  have byte_eq {number : Nat} (small : number < 2 ^ 8) : (UInt8.ofNat number).toNat = number :=
    UInt8.toNat_ofNat_of_lt' small
  simp only [← UInt16.toNat_inj, toNat_unit]
  by_cases one : unit.toNat ≠ 0 ∧ unit.toNat < 0x80
  · have byte_eq := byte_eq (show unit.toNat < 2 ^ 8 by omega)
    refine ⟨.single (UInt8.ofNat unit.toNat) ?_, ?_, trivial⟩
    · omega
    · rw [number]
      omega
  have second_eq := byte_eq (show 0x80 + unit.toNat % 2 ^ 6 < 2 ^ 8 by omega)
  by_cases two : unit.toNat < 0x800
  · have first_eq := byte_eq (show 0xC0 + unit.toNat / 2 ^ 6 < 2 ^ 8 by omega)
    refine ⟨.double (UInt8.ofNat (0xC0 + unit.toNat / 2 ^ 6))
      (UInt8.ofNat (0x80 + unit.toNat % 2 ^ 6)) ?_ ?_, ?_, ?_⟩
    · omega
    · unfold Continues
      omega
    · rw [number]
      omega
    · rw [IsShortest]
      omega
  · have first_eq := byte_eq (show 0xE0 + unit.toNat / 2 ^ 12 < 2 ^ 8 by omega)
    have middle_eq := byte_eq (show 0x80 + unit.toNat / 2 ^ 6 % 2 ^ 6 < 2 ^ 8 by omega)
    refine ⟨.triple (UInt8.ofNat (0xE0 + unit.toNat / 2 ^ 12))
      (UInt8.ofNat (0x80 + unit.toNat / 2 ^ 6 % 2 ^ 6)) (UInt8.ofNat (0x80 + unit.toNat % 2 ^ 6))
      ?_ ?_, ?_, ?_⟩
    · omega
    · unfold Continues
      omega
    · rw [number]
      omega
    · rw [IsShortest]
      omega

theorem exists_shortest_forms (carried : List UInt16) :
    ∃ forms : List Form, forms.flatMap bytes = carried.flatMap encodeUnit ∧
      forms.map unit = carried ∧ ∀ form ∈ forms, form.IsShortest := by
  induction carried with
  | nil => exact ⟨[], rfl, rfl, nofun⟩
  | cons first carried inductionHypothesis =>
    obtain ⟨form, unit_eq, shortest⟩ := exists_shortest first
    obtain ⟨forms, bytes_eq, units_eq, all_shortest⟩ := inductionHypothesis
    refine ⟨form :: forms, ?_, ?_, List.forall_mem_cons.mpr ⟨shortest, all_shortest⟩⟩
    · rw [List.flatMap_cons, List.flatMap_cons, bytes_eq,
        bytes_eq_encodeUnit_iff.mpr ⟨unit_eq, shortest⟩]
    · rw [List.map_cons, unit_eq, units_eq]

theorem flatMap_bytes_of_shortest {forms : List Form} (shortest : ∀ form ∈ forms, form.IsShortest) :
    forms.flatMap bytes = (forms.map unit).flatMap encodeUnit := by
  rw [List.flatMap_map]
  exact List.flatMap_congr fun form member =>
    bytes_eq_encodeUnit_iff.mpr ⟨rfl, shortest form member⟩

end Form

theorem decode_eq_some {bytes : List UInt8} {text : String} :
    decode bytes = some text ↔
      ∃ forms : List Form, forms.flatMap Form.bytes = bytes ∧
        forms.map Form.unit = Utf16.encode text.toList := by
  unfold decode
  rw [Option.map_eq_some_iff]
  simp only [Option.bind_eq_some_iff, units_eq_some, Utf16.decode_eq_some]
  constructor
  · rintro ⟨characters, ⟨carried, ⟨forms, bytes_eq, rfl⟩, carried_eq⟩, rfl⟩
    exact ⟨forms, bytes_eq, by rw [carried_eq, String.toList_ofList]⟩
  · rintro ⟨forms, bytes_eq, carried_eq⟩
    exact ⟨text.toList, ⟨_, ⟨forms, bytes_eq, rfl⟩, carried_eq⟩, String.ofList_toList⟩

/-- Bytes are decoded as a text exactly if they split into forms whose units are the text in UTF-16.
They split in at most one way. What a text is encoded as is decoded as this text. -/
theorem decode_iff_forms (bytes : List UInt8) (text : String) :
    (decode bytes = some text ↔
      ∃ forms : List Form, forms.flatMap Form.bytes = bytes ∧
        forms.map Form.unit = Utf16.encode text.toList) ∧
    (∀ forms others : List Form, forms.flatMap Form.bytes = bytes →
      others.flatMap Form.bytes = bytes → forms = others) ∧
    decode (encode text) = some text := by
  refine ⟨decode_eq_some, ?_, ?_⟩
  · intro forms others bytes_eq others_eq
    exact Form.flatMap_bytes_injective (bytes_eq.trans others_eq.symm)
  · obtain ⟨forms, bytes_eq, units_eq, -⟩ := Form.exists_shortest_forms (Utf16.encode text.toList)
    exact decode_eq_some.mpr ⟨forms, bytes_eq, units_eq⟩

/-- All forms of the bytes are shortest. -/
def HasShortestForms (bytes : List UInt8) : Prop :=
  ∃ forms : List Form, forms.flatMap Form.bytes = bytes ∧ ∀ form ∈ forms, form.IsShortest

/-- A text is encoded as the only bytes that have shortest forms and are decoded as the text. -/
theorem eq_encode_iff_shortest (bytes : List UInt8) (text : String) :
    bytes = encode text ↔ decode bytes = some text ∧ HasShortestForms bytes := by
  rw [decode_eq_some]
  constructor
  · rintro rfl
    obtain ⟨forms, bytes_eq, units_eq, shortest⟩ :=
      Form.exists_shortest_forms (Utf16.encode text.toList)
    exact ⟨⟨forms, bytes_eq, units_eq⟩, forms, bytes_eq, shortest⟩
  · rintro ⟨⟨forms, rfl, units_eq⟩, others, same, shortest⟩
    obtain rfl := Form.flatMap_bytes_injective same
    rw [Form.flatMap_bytes_of_shortest shortest, units_eq]
    rfl

/-- The letter A is read from a form of two bytes as well, which it is not encoded as. -/
theorem decode_overlong_letter :
    decode [0xC1, 0x81] = some "A" ∧ decode [0x41] = some "A" ∧ encode "A" ≠ [0xC1, 0x81] := by
  decide

end ClassMachine.ModifiedUtf8
