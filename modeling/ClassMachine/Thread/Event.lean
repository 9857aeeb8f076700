import ClassMachine.ClassFile.Codec
import ClassMachine.Instruction.Inspect
import ClassMachine.Instruction.Opcode

set_option autoImplicit false

/-!
What a log tells: the outline of a class file that is decoded, frames that are entered and left,
exception handlers that are not looked at, and every instruction that is executed.
-/

namespace ClassMachine

inductive Event where
  | decodedPreamble (version : Version) (constants : Nat)
  | decodedMembers (fields methods : Nat)
  /-- A frame was pushed; `depth` counts it. -/
  | entering (method : String) (depth : Nat)
  | leaving (method : String)
  | ignoringHandlers (count : Nat) (method : String)
  | executing (depth pc : Nat) (opcode : Option UInt8) (instruction : Instruction)
  deriving DecidableEq

namespace Event

def level : Event → String
  | .ignoringHandlers .. => "WARN"
  | .executing .. => "TRACE"
  | _ => "DEBUG"

/-- Blanks before a text that is shorter than a column. -/
def alignRight (column : Nat) (text : String) : String :=
  String.ofList (List.replicate (column - text.length) ' ') ++ text

/-- Blanks after a text that is shorter than a column. -/
def alignLeft (column : Nat) (text : String) : String :=
  text ++ String.ofList (List.replicate (column - text.length) ' ')

def mnemonic (opcode : Option UInt8) : String :=
  match opcode.bind OpcodeInfo.ofOpcode? with
  | some info => info.mnemonic
  | none => "?"

def text : Event → String
  | .decodedPreamble version constants =>
    "Class file version " ++ version.text ++ s!" with {constants} constants"
  | .decodedMembers fields methods => s!"Decoded {fields} fields, {methods} methods"
  | .entering method depth => s!"Entering {method} (depth {depth})"
  | .leaving method => s!"Leaving {method}"
  | .ignoringHandlers count method => s!"Ignoring {count} exception handlers in {method}"
  | .executing depth pc opcode instruction =>
    s!"[{depth}] " ++ alignRight 5 (toString pc) ++ ": " ++ alignLeft 14 (mnemonic opcode) ++ " " ++
      instruction.inspect

def line (event : Event) : String := event.level ++ " " ++ event.text

end Event

namespace ClassFile

def parseEvents (bytes : List UInt8) : List Event :=
  match Preamble.read (Cursor.ofBytes bytes) with
  | .error .. => []
  | .ok preamble cursor =>
    .decodedPreamble preamble.version preamble.constants.size ::
      match preamble.readRest cursor with
      | .error .. => []
      | .ok classFile _ => [.decodedMembers classFile.fields.length classFile.methods.length]

end ClassFile

end ClassMachine
