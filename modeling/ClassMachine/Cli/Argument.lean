import ClassMachine.Descriptor.Basic
import ClassMachine.FloatingPoint.Text
import ClassMachine.Value.Basic

set_option autoImplicit false

/-!
Values on the command line. An argument is read as the type of its parameter; a returned cell is
written as the type of the result, and bit by bit if it is no value of that type.
-/

namespace ClassMachine.Cli

open Decimal

/-- The cell of what was read, if it could be read. -/
def cellOf {α β ε : Type} [Value β] (convert : α → β) (result : Except ε α) : Option Cell :=
  result.toOption.map fun value => Value.toCell (convert value)

def parseBoolean : List Char → Option Cell
  | ['t', 'r', 'u', 'e'] => some (Value.toCell true)
  | ['f', 'a', 'l', 's', 'e'] => some (Value.toCell false)
  | _ => none

/-- A single character that is one UTF-16 unit. -/
def parseChar : List Char → Option Cell
  | [character] =>
    if character.toNat < UInt16.size then some (Value.toCell (UInt16.ofNat character.toNat)) else none
  | _ => none

def parseReference : List Char → Option Cell
  | ['n', 'u', 'l', 'l'] => some (Value.toCell Reference.null)
  | text =>
    cellOf (fun handle => Reference.mk (UInt32.ofNat handle)) (readNatural (UInt32.size - 1) text)

def parseBase (text : List Char) : BaseType → Option Cell
  | .int => cellOf Int32.ofInt (readInteger (1 <<< 31 - 1) text)
  | .long => cellOf Int64.ofInt (readInteger (1 <<< 63 - 1) text)
  | .byte => cellOf Int8.ofInt (readInteger (1 <<< 7 - 1) text)
  | .short => cellOf Int16.ofInt (readInteger (1 <<< 15 - 1) text)
  | .float =>
    (FloatFormat.single.read? text).map fun word => Value.toCell (Single.mk (UInt32.ofNat word))
  | .double =>
    (FloatFormat.double.read? text).map fun word => Value.toCell (Double.mk (UInt64.ofNat word))
  | .boolean => parseBoolean text
  | .char => parseChar text

def parseArgument (text : String) : FieldType → Option Cell
  | .base type => parseBase text.toList type
  | .object _ | .array _ => parseReference text.toList

/-- The text of the value that a cell holds, or of the cell itself if it has another width. -/
def renderAs {α : Type} [Value α] (render : α → String) (cell : Cell) : String :=
  match Value.ofCell? cell with
  | some value => render value
  | none => cell.text

/-- A UTF-16 unit as the character that it is, or as an escape if it is half of one. -/
def renderChar (unit : UInt16) : String :=
  if 0xD800 ≤ unit ∧ unit ≤ 0xDFFF then "\\u" ++ String.ofList (Hex.digits 4 unit.toNat)
  else String.ofList [Char.ofNat unit.toNat]

def renderReference (reference : Reference) : String :=
  if reference.isNull then "null" else "@" ++ Decimal.ofInt reference.handle.toNat

def renderBase (cell : Cell) : BaseType → String
  | .int => renderAs (fun value : Int32 => Decimal.ofInt value.toInt) cell
  | .long => renderAs (fun value : Int64 => Decimal.ofInt value.toInt) cell
  | .byte => renderAs (fun value : Int8 => Decimal.ofInt value.toInt) cell
  | .short => renderAs (fun value : Int16 => Decimal.ofInt value.toInt) cell
  | .float => renderAs (fun value : Single => FloatFormat.single.text value.bits.toNat) cell
  | .double => renderAs (fun value : Double => FloatFormat.double.text value.bits.toNat) cell
  | .boolean => renderAs Structural.boolean cell
  | .char => renderAs renderChar cell

def renderValue (cell : Cell) : FieldType → String
  | .base type => renderBase cell type
  | .object _ | .array _ => renderAs renderReference cell

end ClassMachine.Cli
