import ClassMachine.DecodeError
import ClassMachine.Descriptor.Basic

set_option autoImplicit false

/-!
Reading descriptors. Each reader takes a type from the front of a text and leaves the rest, which
is shorter; a whole descriptor must leave no rest.
-/

namespace ClassMachine

/-- Takes something from the front of a text. -/
abbrev DescriptorReader (α : Type) := StateT (List Char) (Except DescriptorError) α

namespace DescriptorReader

/-- Reads a whole text, of which nothing may be left. -/
def parse {α : Type} (reader : DescriptorReader α) (source : String) : Except DecodeError α :=
  match reader source.toList with
  | .ok (result, []) => .ok result
  | .ok (_, next :: _) => .error (.badDescriptor (.leftoverInput next source))
  | .error reason => .error (.badDescriptor reason)

end DescriptorReader

namespace BaseType

def reader : DescriptorReader BaseType
  | [] => .error .missingBaseType
  | letter :: rest =>
    match ofLetter? letter with
    | some type => .ok (type, rest)
    | none => .error (.invalidBaseType letter)

def parse : String → Except DecodeError BaseType := reader.parse

end BaseType

namespace FieldType

def classReader : DescriptorReader FieldType := fun text =>
  match text.dropWhile (· ≠ ';') with
  | [] => .error .unterminatedClassName
  | _ :: rest =>
    match text.takeWhile (· ≠ ';') with
    | [] => .error .emptyClassName
    | name => .ok (.object (String.ofList name), rest)

def innermostReader : DescriptorReader FieldType
  | [] => .error .missingFieldType
  | 'L' :: rest => classReader rest
  | letter :: rest =>
    match BaseType.ofLetter? letter with
    | some type => .ok (.base type, rest)
    | none => .error (.invalidFieldType letter)

/-- Counts the brackets at the front of a text, after `count` earlier ones. -/
def dimensionsReader (count : Nat) : DescriptorReader Nat
  | '[' :: rest =>
    if count < maxDimensions then dimensionsReader (count + 1) rest else .error .tooManyDimensions
  | rest => .ok (count, rest)

def reader : DescriptorReader FieldType := do
  let dimensions ← dimensionsReader 0
  let type ← innermostReader
  pure (arrayOf dimensions type)

def parse : String → Except DecodeError FieldType := reader.parse

theorem length_classReader {text rest : List Char} {type : FieldType}
    (read : classReader text = .ok (type, rest)) : rest.length < text.length := by
  unfold classReader at read
  split at read
  · cases read
  · next letter others split =>
    have total := congrArg List.length (List.takeWhile_append_dropWhile (p := (· ≠ ';')) (l := text))
    rw [split, List.length_append, List.length_cons] at total
    split at read <;> cases read
    omega

theorem length_innermostReader {text rest : List Char} {type : FieldType}
    (read : innermostReader text = .ok (type, rest)) : rest.length < text.length := by
  unfold innermostReader at read
  split at read
  · cases read
  · have shorter := length_classReader read
    simp only [List.length_cons]
    omega
  · split at read <;> cases read
    simp

theorem length_dimensionsReader {text rest : List Char} {start count : Nat}
    (read : dimensionsReader start text = .ok (count, rest)) : rest.length ≤ text.length := by
  induction text generalizing start with
  | nil => simp_all [dimensionsReader]
  | cons letter text inductionHypothesis =>
    unfold dimensionsReader at read
    split at read
    · next others equal =>
      cases equal
      split at read
      · have shorter := inductionHypothesis read
        simp only [List.length_cons]
        omega
      · cases read
    · cases read
      exact Nat.le_refl _

theorem length_reader {text rest : List Char} {type : FieldType}
    (read : reader text = .ok (type, rest)) : rest.length < text.length := by
  simp only [reader, bind, StateT.bind, Except.bind] at read
  split at read
  · cases read
  · next counted dimensions =>
    have shorter := length_dimensionsReader dimensions
    split at read
    · cases read
    · next inner innermost =>
      have strictlyShorter := length_innermostReader innermost
      cases read
      omega

end FieldType

namespace MethodDescriptor

/-- Parameter types up to the closing parenthesis, which is taken too. -/
def parametersReader : DescriptorReader (List FieldType)
  | ')' :: rest => .ok ([], rest)
  | text =>
    match _read : FieldType.reader text with
    | .error reason => .error reason
    | .ok (type, rest) =>
      match parametersReader rest with
      | .error reason => .error reason
      | .ok (others, rest) => .ok (type :: others, rest)
termination_by text => text.length
decreasing_by exact FieldType.length_reader _read

def resultReader : DescriptorReader (Option FieldType)
  | 'V' :: rest => .ok (none, rest)
  | text => (some <$> FieldType.reader) text

def openingReader : DescriptorReader Unit
  | '(' :: rest => .ok ((), rest)
  | _ => .error .missingParenthesis

def reader : DescriptorReader MethodDescriptor := do
  openingReader
  let parameters ← parametersReader
  let result ← resultReader
  pure ⟨parameters, result⟩

def parse : String → Except DecodeError MethodDescriptor := reader.parse

end MethodDescriptor

end ClassMachine
