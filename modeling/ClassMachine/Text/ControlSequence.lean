set_option autoImplicit false

/-!
Terminal control sequences in a text. A sequence starts with an escape character and goes on to the
character that ends it. `visible` is what remains of a text where no sequence has an effect.
-/

namespace ClassMachine.ControlSequence

def bold : String := "\x1b[1m"

def underlined : String := "\x1b[4m"

def red : String := "\x1b[31m"

def yellow : String := "\x1b[33m"

def plain : String := "\x1b[0m"

inductive Position where
  /-- Outside of every sequence. -/
  | ground
  /-- Right after an escape character. -/
  | escape
  | escapeIntermediate
  /-- Among the parameters of a sequence that a bracket opened. -/
  | parameters
  /-- In a command to the system that runs the terminal; a bell ends it. -/
  | systemCommand
  | deviceEntry
  | deviceParameters
  | deviceIntermediate
  /-- In a string that only the terminator of strings ends. -/
  | string
  deriving DecidableEq

/-- The byte that ends a string; it counts also as a part of a longer character. -/
def stringTerminator : UInt8 := 0x9C

def terminates (character : Char) : Bool :=
  (String.utf8EncodeChar character).contains stringTerminator

namespace Position

/-- The position after a character that is not shown. Escape, cancel and substitute have the same
effect everywhere; a character that means nothing at its position changes nothing. -/
def after (position : Position) (character : Char) : Position :=
  if character = '\x18' ∨ character = '\x1a' then .ground
  else if character = '\x1b' then .escape
  else
    let within (first last : Char) : Bool := first ≤ character && character ≤ last
    match position with
    | .ground => .ground
    | .escape =>
      if character = '[' then .parameters
      else if character = ']' then .systemCommand
      else if character = 'P' then .deviceEntry
      else if character = 'X' ∨ character = '^' ∨ character = '_' then .string
      else if within ' ' '/' then .escapeIntermediate
      else if within '0' '~' then .ground
      else .escape
    | .escapeIntermediate => if within '0' '~' then .ground else .escapeIntermediate
    | .parameters => if within '@' '~' then .ground else .parameters
    | .systemCommand => if character = '\x07' then .ground else .systemCommand
    | .deviceEntry =>
      if within ' ' '/' then .deviceIntermediate
      else if within '0' '?' then .deviceParameters
      else if within '@' '~' then .string
      else .deviceEntry
    | .deviceParameters =>
      if within ' ' '/' then .deviceIntermediate
      else if within '<' '~' then .string
      else .deviceParameters
    | .deviceIntermediate => if within '0' '~' then .string else .deviceIntermediate
    | .string => if terminates character then .ground else .string

end Position

def isSpace (character : Char) : Bool :=
  character = ' ' || character = '\t' || character = '\n' || character = '\x0c' || character = '\r'

def isAscii (character : Char) : Bool := character.toNat < 128

def isShown : Position → Char → Bool
  | .ground, character => isSpace character || (' ' ≤ character && character ≠ '\x7f')
  | .escape, character | .escapeIntermediate, character | .parameters, character =>
    isSpace character && character ≠ ' '
  | _, _ => false

/-- The shown characters. White space inside a sequence suspends the sequence: what follows is
shown as on the ground, up to the next character that is not, and there the sequence goes on. -/
def shown : (showing : Bool) → Position → List Char → List Char
  | _, _, [] => []
  | showing, position, character :: rest =>
    if isShown (if showing then .ground else position) character then
      character :: shown true (if isAscii character then position else .ground) rest
    else shown false (position.after character) rest

def visible (text : String) : String :=
  String.ofList (shown false .ground text.toList)

example : visible "a\x1b[1mb\x1b]0;c\x07d\x01" = "abd" := by cbv

end ClassMachine.ControlSequence
