import ClassMachine.Cli.Argument
import ClassMachine.Proofs.Text.Numeral
import ClassMachine.Proofs.Text.Utf16

set_option autoImplicit false

/-!
# Values as they are written and read

A text is read as a value of the type that is asked for, or not at all. Values of the types without
floating point are told apart by how they are written, and a value that was read from some text is
read again from the text that it is written as. Half of a pair of UTF-16 units is written as an
escape, which is longer than a character and never read.
-/

namespace ClassMachine

namespace BaseType

def Carrier : BaseType → Type
  | .byte => Int8
  | .char => UInt16
  | .double => Double
  | .float => Single
  | .int => Int32
  | .long => Int64
  | .short => Int16
  | .boolean => Bool

instance (type : BaseType) : Value type.Carrier :=
  match type with
  | .byte => inferInstanceAs (Value Int8)
  | .char => inferInstanceAs (Value UInt16)
  | .double => inferInstanceAs (Value Double)
  | .float => inferInstanceAs (Value Single)
  | .int => inferInstanceAs (Value Int32)
  | .long => inferInstanceAs (Value Int64)
  | .short => inferInstanceAs (Value Int16)
  | .boolean => inferInstanceAs (Value Bool)

theorem slotCount_carrier (type : BaseType) : Value.slotCount type.Carrier = type.width := by
  cases type <;> rfl

end BaseType

theorem Value.toCell_injective {α : Type} [Value α] :
    Function.Injective (Value.toCell : α → Cell) := by
  intro first second same
  have held := Value.ofCell?_toCell first
  rw [same, Value.ofCell?_toCell] at held
  exact (Option.some.inj held).symm

namespace Cli

variable {α : Type} [Value α] {text : List Char} {cell : Cell}

theorem cellOf_eq_some {β ε : Type} {convert : β → α} {result : Except ε β} :
    cellOf convert result = some cell ↔
      ∃ found, result = .ok found ∧ Value.toCell (convert found) = cell := by
  cases result <;> simp [cellOf, Except.toOption]

theorem parseChar_eq_some :
    parseChar text = some cell ↔ ∃ character, text = [character] ∧
      character.toNat < UInt16.size ∧ Value.toCell (UInt16.ofNat character.toNat) = cell := by
  unfold parseChar
  split
  next character => simp
  next other =>
    constructor
    · nofun
    · intro single
      obtain ⟨character, rfl, -⟩ := single
      exact absurd rfl (other character)

theorem exists_value_of_parseBase {type : BaseType} (parsed : parseBase text type = some cell) :
    ∃ value : type.Carrier, Value.toCell value = cell := by
  cases type with
  | byte | int | long | short =>
    obtain ⟨number, -, cell_eq⟩ := cellOf_eq_some.mp parsed
    exact ⟨_, cell_eq⟩
  | double | float =>
    obtain ⟨word, -, cell_eq⟩ := Option.map_eq_some_iff.mp parsed
    exact ⟨_, cell_eq⟩
  | char =>
    obtain ⟨character, -, -, cell_eq⟩ := parseChar_eq_some.mp parsed
    exact ⟨_, cell_eq⟩
  | boolean =>
    change parseBoolean text = some cell at parsed
    unfold parseBoolean at parsed
    split at parsed
    next => exact ⟨true, Option.some.inj parsed⟩
    next => exact ⟨false, Option.some.inj parsed⟩
    next => cases parsed

theorem exists_reference_of_parseReference (parsed : parseReference text = some cell) :
    ∃ reference : Reference, Value.toCell reference = cell := by
  unfold parseReference at parsed
  split at parsed
  next => exact ⟨.null, Option.some.inj parsed⟩
  next =>
    obtain ⟨handle, -, cell_eq⟩ := cellOf_eq_some.mp parsed
    exact ⟨_, cell_eq⟩

theorem width_of_parseArgument {raw : String} {type : FieldType}
    (parsed : parseArgument raw type = some cell) : width cell = width type := by
  cases type with
  | base type =>
    obtain ⟨value, rfl⟩ := exists_value_of_parseBase parsed
    rw [Value.width_toCell, type.slotCount_carrier]
    rfl
  | object | array =>
    obtain ⟨reference, rfl⟩ := exists_reference_of_parseReference parsed
    exact Value.width_toCell reference

/-- Values are told apart by how they are written, and one that was read from some text is read from
what it is written as. -/
structure Legible (parse : List Char → Option Cell) (render : α → String) : Prop where
  parse_render : ∀ {text : List Char} {value : α}, parse text = some (Value.toCell value) →
    parse (render value).toList = some (Value.toCell value)
  render_injective : Function.Injective render

theorem legible_integer {toInt : α → Int} {ofInt : Int → α} {limit : Nat}
    (ofInt_toInt : ∀ value, ofInt (toInt value) = value)
    (least : ∀ value, -(limit + 1 : Int) ≤ toInt value)
    (greatest : ∀ value, toInt value < limit + 1) :
    Legible (fun text => cellOf ofInt (Decimal.readInteger limit text))
      fun value => Decimal.ofInt (toInt value) where
  parse_render {_ value} _ := by
    have read := Decimal.readInteger_ofInt (least value) (Int.le_of_lt_add_one (greatest value))
    apply cellOf_eq_some.mpr
    exact ⟨toInt value, read, congrArg _ (ofInt_toInt value)⟩
  render_injective := by
    have toInt_injective : Function.Injective toInt := Function.LeftInverse.injective ofInt_toInt
    exact Decimal.ofInt_injective.comp toInt_injective

theorem legible_boolean : Legible parseBoolean Structural.boolean where
  parse_render {_ value} _ := by cases value <;> rfl
  render_injective := by decide

theorem isSurrogate_iff {unit : UInt16} :
    0xD800 ≤ unit ∧ unit ≤ 0xDFFF ↔ Utf16.isHigh unit ∨ Utf16.isLow unit := by
  rw [Utf16.isHigh_iff, Utf16.isLow_iff, UInt16.le_iff_toNat_le, UInt16.le_iff_toNat_le]
  change 0xD800 ≤ unit.toNat ∧ unit.toNat ≤ 0xDFFF ↔ _
  omega

theorem renderChar_of_surrogate {unit : UInt16} (surrogate : Utf16.isHigh unit ∨ Utf16.isLow unit) :
    (renderChar unit).toList = '\\' :: 'u' :: Hex.digits 4 unit.toNat := by
  unfold renderChar
  rw [if_pos (isSurrogate_iff.mpr surrogate)]
  simp

theorem renderChar_of_character {unit : UInt16}
    (character : ¬(Utf16.isHigh unit ∨ Utf16.isLow unit)) :
    (renderChar unit).toList = [Char.ofNat unit.toNat] := by
  unfold renderChar
  rw [if_neg (isSurrogate_iff.not.mpr character), String.toList_ofList]

theorem renderChar_of_parseChar {unit : UInt16}
    (parsed : parseChar text = some (Value.toCell unit)) : (renderChar unit).toList = text := by
  obtain ⟨character, rfl, basic, cell_eq⟩ := parseChar_eq_some.mp parsed
  obtain rfl := Value.toCell_injective cell_eq
  have valid := Utf16.toNat_valid character
  have toNat_eq : (UInt16.ofNat character.toNat).toNat = character.toNat :=
    UInt16.toNat_ofNat_of_lt' basic
  have no_surrogate : ¬(Utf16.isHigh (UInt16.ofNat character.toNat) ∨
      Utf16.isLow (UInt16.ofNat character.toNat)) := by
    rw [Utf16.isHigh_iff, Utf16.isLow_iff, toNat_eq]
    omega
  rw [renderChar_of_character no_surrogate, toNat_eq, Char.ofNat_toNat]

theorem renderChar_injective : Function.Injective renderChar := by
  intro first second same
  have texts_eq := congrArg String.toList same
  apply UInt16.toNat_inj.mp
  by_cases first_surrogate : Utf16.isHigh first ∨ Utf16.isLow first
  · rw [renderChar_of_surrogate first_surrogate] at texts_eq
    by_cases second_surrogate : Utf16.isHigh second ∨ Utf16.isLow second
    · rw [renderChar_of_surrogate second_surrogate] at texts_eq
      have digits_eq : Hex.digits 4 first.toNat = Hex.digits 4 second.toNat := by
        simpa using texts_eq
      have first_lt : first.toNat < 16 ^ 4 := first.toNat_lt
      have second_lt : second.toNat < 16 ^ 4 := second.toNat_lt
      have numbers_eq := Hex.mod_eq_of_digits_eq digits_eq
      rwa [Nat.mod_eq_of_lt first_lt, Nat.mod_eq_of_lt second_lt] at numbers_eq
    · rw [renderChar_of_character second_surrogate] at texts_eq
      simp at texts_eq
  · rw [renderChar_of_character first_surrogate] at texts_eq
    by_cases second_surrogate : Utf16.isHigh second ∨ Utf16.isLow second
    · rw [renderChar_of_surrogate second_surrogate] at texts_eq
      simp at texts_eq
    · rw [renderChar_of_character second_surrogate] at texts_eq
      have numbers_eq := congrArg Char.toNat (List.cons.inj texts_eq).1
      obtain ⟨first_not_high, first_not_low⟩ := not_or.mp first_surrogate
      obtain ⟨second_not_high, second_not_low⟩ := not_or.mp second_surrogate
      rwa [Utf16.toNat_ofNat first_not_high first_not_low,
        Utf16.toNat_ofNat second_not_high second_not_low] at numbers_eq

theorem legible_char : Legible parseChar renderChar where
  parse_render parsed := by rwa [renderChar_of_parseChar parsed]
  render_injective := renderChar_injective

theorem exists_legible {type : BaseType} (not_float : type ≠ .float) (not_double : type ≠ .double) :
    ∃ render : type.Carrier → String, Legible (fun text => parseBase text type) render ∧
      ∀ cell, renderBase cell type = renderAs render cell := by
  cases type with
  | int =>
    exact ⟨_, legible_integer Int32.ofInt_toInt Int32.le_toInt Int32.toInt_lt, fun _ => rfl⟩
  | long =>
    exact ⟨_, legible_integer Int64.ofInt_toInt Int64.le_toInt Int64.toInt_lt, fun _ => rfl⟩
  | byte =>
    exact ⟨_, legible_integer Int8.ofInt_toInt Int8.le_toInt Int8.toInt_lt, fun _ => rfl⟩
  | short =>
    exact ⟨_, legible_integer Int16.ofInt_toInt Int16.le_toInt Int16.toInt_lt, fun _ => rfl⟩
  | boolean => exact ⟨_, legible_boolean, fun _ => rfl⟩
  | char => exact ⟨_, legible_char, fun _ => rfl⟩
  | float => exact absurd rfl not_float
  | double => exact absurd rfl not_double

theorem renderAs_of_ofCell? {render : α → String} {value : α}
    (held : Value.ofCell? cell = some value) : renderAs render cell = render value := by
  simp [renderAs, held]

/-- Unless the type is one of floating point, what is read from a text is read again from what it is
written as. A cell as wide as the type holds a value of it and is written as this value is, whatever
else its bits say, and cells that hold different values are written differently. -/
theorem values_read_back {type : BaseType} (not_float : type ≠ .float)
    (not_double : type ≠ .double) :
    (∀ raw cell, parseArgument raw (.base type) = some cell →
      parseArgument (renderValue cell (.base type)) (.base type) = some cell) ∧
    (∀ cell, width cell = type.width → ∃ value : type.Carrier, Value.ofCell? cell = some value ∧
      renderValue cell (.base type) = renderValue (Value.toCell value) (.base type)) ∧
    ∀ (first second : Cell) (value other : type.Carrier), Value.ofCell? first = some value →
      Value.ofCell? second = some other → value ≠ other →
      renderValue first (.base type) ≠ renderValue second (.base type) := by
  obtain ⟨render, legible, renders⟩ := exists_legible not_float not_double
  have written {cell : Cell} {value : type.Carrier} (held : Value.ofCell? cell = some value) :
      renderValue cell (.base type) = render value :=
    (renders cell).trans (renderAs_of_ofCell? held)
  refine ⟨?_, ?_, ?_⟩
  · intro raw cell parsed
    obtain ⟨value, rfl⟩ := exists_value_of_parseBase parsed
    rw [written (Value.ofCell?_toCell value)]
    exact legible.parse_render parsed
  · intro cell width_eq
    have readable := Value.isSome_ofCell? (α := type.Carrier) cell
    rw [type.slotCount_carrier, width_eq, beq_self_eq_true] at readable
    obtain ⟨value, held⟩ := Option.isSome_iff_exists.mp readable
    exact ⟨value, held, by rw [written held, written (Value.ofCell?_toCell value)]⟩
  · intro first second value other held other_held different same
    rw [written held, written other_held] at same
    exact different (legible.render_injective same)

/-- The least byte is read from its text and written as it, and so is a cell with other bits above
its lowest eight. -/
theorem values_read_back_least_byte :
    BaseType.byte ≠ .float ∧ BaseType.byte ≠ .double ∧
      parseArgument "-128" (.base .byte) = some (.narrow 0xFFFFFF80) ∧
      parseArgument (renderValue (.narrow 0xFFFFFF80) (.base .byte)) (.base .byte) =
        some (.narrow 0xFFFFFF80) ∧
      renderValue (.narrow 0x12345680) (.base .byte) =
        renderValue (.narrow 0xFFFFFF80) (.base .byte) := by
  have not_float : BaseType.byte ≠ .float := by decide
  have not_double : BaseType.byte ≠ .double := by decide
  have parsed : parseArgument "-128" (.base .byte) = some (.narrow 0xFFFFFF80) := by cbv
  obtain ⟨read_back, kept, -⟩ := values_read_back not_float not_double
  obtain ⟨value, held, written⟩ := kept (.narrow 0x12345680) rfl
  obtain rfl : value = (-128 : Int8) := (Option.some.inj held).symm
  exact ⟨not_float, not_double, parsed, read_back "-128" _ parsed, written⟩

end Cli

end ClassMachine
