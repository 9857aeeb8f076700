import ClassMachine.Cli.Run

set_option autoImplicit false

/-!
The words of the command line: options that each take a value, and the path of a class file.
-/

namespace ClassMachine.Cli

structure Options where
  path : Option String
  request : Request
  deriving DecidableEq

namespace Options

def empty : Options := ⟨none, ⟨none, [], none⟩⟩

def unexpected (word : String) : String :=
  "unexpected argument '" ++ word ++ "' found"

def repeated (option : String) : String :=
  "the argument '" ++ option ++ "' cannot be used multiple times"

def missing (option : String) : String :=
  "a value is required for '" ++ option ++ "' but none was supplied"

def missingPath : String := "the following required arguments were not provided:\n  <INPUT>"

/-- Sets the option of a name. Only arguments may be given more than once, and keep their order. -/
def set (options : Options) (name value : String) : Except String Options :=
  match name with
  | "--invoke" =>
    match options.request.invoke with
    | some _ => .error (repeated "--invoke <NAME:DESCRIPTOR>")
    | none => .ok { options with request.invoke := some value }
  | "--arg" =>
    .ok { options with request.arguments := options.request.arguments ++ [value] }
  | "--max-call-depth" =>
    match options.request.maxCallDepth with
    | some _ => .error (repeated "--max-call-depth <N>")
    | none => .ok { options with request.maxCallDepth := some value }
  | _ => .error (unexpected name)

def setPath (options : Options) (path : String) : Except String Options :=
  match options.path with
  | some _ => .error (unexpected path)
  | none => .ok { options with path := some path }

/-- The name of an option, and the value after the equals sign if there is one. A word that does
not start with two hyphens is no option. -/
def option? (word : String) : Option (String × Option String) :=
  match word.toList with
  | '-' :: '-' :: _ =>
    let name := word.toList.takeWhile (· ≠ '=')
    some (String.ofList name,
      (word.toList.drop name.length).tail?.map String.ofList)
  | _ => none

/-- Reads words in their order; an option without an equals sign takes the next word. -/
def read (options : Options) : List String → Except String Options
  | [] => .ok options
  | word :: words =>
    match option? word with
    | none => do (← options.setPath word).read words
    | some (name, some value) => do (← options.set name value).read words
    | some (name, none) =>
      match words with
      | [] => .error (missing name)
      | value :: words => do (← options.set name value).read words

example : empty.read ["--invoke=f:(I)I", "--arg", "-3", "A.class"] =
    .ok ⟨some "A.class", ⟨some "f:(I)I", ["-3"], none⟩⟩ := by cbv

end Options

end ClassMachine.Cli
