import ClassMachine.Text.Decimal
import ClassMachine.Text.Structural

set_option autoImplicit false

/-!
Why a class file, or a part of one, cannot be decoded. Errors are causes; `message` words each one
for a reader, and `inspect` writes its structure.
-/

namespace ClassMachine

inductive DescriptorError where
  | leftoverInput (next : Char) (source : String)
  | invalidBaseType (found : Char)
  | missingBaseType
  | missingFieldType
  | emptyClassName
  | unterminatedClassName
  | tooManyDimensions
  | invalidFieldType (found : Char)
  | missingParenthesis
  deriving DecidableEq

namespace DescriptorError

def quoted (character : Char) : String :=
  String.ofList ['\'', character, '\'']

def message : DescriptorError → String
  | .leftoverInput next source =>
    "Unexpected leftover input " ++ quoted next ++ " in '" ++ source ++ "'"
  | .invalidBaseType found => "Invalid base type character " ++ quoted found
  | .missingBaseType => "Missing base type character"
  | .missingFieldType => "Missing field type"
  | .emptyClassName => "Empty class name"
  | .unterminatedClassName => "Unterminated class name"
  | .tooManyDimensions => "Array type has more than 255 dimensions"
  | .invalidFieldType found => "Invalid field type character " ++ quoted found
  | .missingParenthesis => "Expected '(' for method"

end DescriptorError

/-- The kinds of constant that a lookup can insist on. -/
inductive ExpectedConstant where
  | utf8
  | classRef
  | nameAndType
  | methodRef
  deriving DecidableEq

namespace ExpectedConstant

def name : ExpectedConstant → String
  | .utf8 => "Utf8"
  | .classRef => "Class"
  | .nameAndType => "NameAndType"
  | .methodRef => "Methodref"

end ExpectedConstant

inductive DecodeError where
  | notRecognizedFormat
  /-- A read needed more bytes than were left. -/
  | unexpectedEndOfInput (needed remaining : Nat)
  | undefinedConstantTag (tag : UInt8)
  /-- Bytes were left after the last attribute of the class. -/
  | trailingBytes (count : Nat)
  /-- The count is zero, or an eight-byte constant overruns it. -/
  | invalidConstantPoolCount (count : UInt16)
  /-- The index is zero, out of range, or the second one of an eight-byte constant. -/
  | invalidConstantIndex (index : UInt16)
  | unexpectedConstant (index : UInt16) (expected : ExpectedConstant)
  | invalidHandleKind (kind : UInt8)
  /-- The bytes of the constant at this index are no modified UTF-8. -/
  | malformedUtf8 (index : UInt16)
  | badDescriptor (reason : DescriptorError)
  /-- The contents of a known attribute do not use exactly its declared length. -/
  | attributeLengthMismatch (name : String) (declared used : Nat)
  deriving DecidableEq

namespace DecodeError

def message : DecodeError → String
  | .notRecognizedFormat => "not a recognized class format"
  | .unexpectedEndOfInput needed remaining =>
    s!"unexpected end of input (needed {needed} bytes, {remaining} remaining)"
  | .undefinedConstantTag tag => s!"undefined constant tag {tag}"
  | .trailingBytes count => s!"{count} trailing bytes after class file"
  | .invalidConstantPoolCount count => s!"invalid constant pool count {count}"
  | .invalidConstantIndex index => s!"invalid constant pool index #{index}"
  | .unexpectedConstant index expected => s!"constant #{index} is not a " ++ expected.name
  | .invalidHandleKind kind => s!"invalid method handle reference kind {kind}"
  | .malformedUtf8 index => s!"constant #{index} is not valid modified UTF-8"
  | .badDescriptor reason => "bad descriptor: " ++ reason.message
  | .attributeLengthMismatch name declared used =>
    s!"{name} attribute declares {declared} bytes but its contents use {used}"

def kind : DecodeError → String
  | .notRecognizedFormat => "NotRecognizedFormat"
  | .unexpectedEndOfInput .. => "UnexpectedEndOfInput"
  | .undefinedConstantTag _ => "UndefinedConstantTag"
  | .trailingBytes _ => "TrailingBytes"
  | .invalidConstantPoolCount _ => "InvalidConstantPoolCount"
  | .invalidConstantIndex _ => "InvalidConstantIndex"
  | .unexpectedConstant .. => "UnexpectedConstant"
  | .invalidHandleKind _ => "InvalidHandleKind"
  | .malformedUtf8 _ => "MalformedUtf8"
  | .badDescriptor _ => "BadDescriptor"
  | .attributeLengthMismatch .. => "AttributeLengthMismatch"

open Structural in
def inspect (error : DecodeError) : String :=
  match error with
  | .notRecognizedFormat => error.kind
  | .unexpectedEndOfInput needed remaining =>
    record error.kind [("needed", toString needed), ("remaining", toString remaining)]
  | .undefinedConstantTag tag => apply error.kind [toString tag]
  | .trailingBytes count => apply error.kind [toString count]
  | .invalidConstantPoolCount count => apply error.kind [toString count]
  | .invalidConstantIndex index => apply error.kind [toString index]
  | .unexpectedConstant index expected =>
    record error.kind [("index", toString index), ("expected", Quoted.text expected.name)]
  | .invalidHandleKind kind => apply error.kind [toString kind]
  | .malformedUtf8 index => apply error.kind [toString index]
  | .badDescriptor reason => apply error.kind [Quoted.text reason.message]
  | .attributeLengthMismatch name declared used =>
    record error.kind
      [("name", Quoted.text name), ("declared", toString declared), ("used", toString used)]

end DecodeError

end ClassMachine
