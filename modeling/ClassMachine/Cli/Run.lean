import ClassMachine.Cli.Argument
import ClassMachine.Cli.Complaint
import ClassMachine.Cli.Summary
import ClassMachine.Failure
import ClassMachine.Thread.Basic

set_option autoImplicit false

/-!
The command line: the outline of a class file, or the result of running one of its static methods.
Everything but reading the file is a function from a request to a response.
-/

namespace ClassMachine

namespace ClassFile

/-- Runs a method of a class on a thread of its own, for at most `steps` instructions. -/
def runMethod (classFile : ClassFile) (settings : Settings) (steps : Nat)
    (name descriptor : String) (arguments : List Cell) :
    Except ExecutionError (Option (Option Cell)) :=
  match Thread.invokeAndRunFor steps name descriptor arguments (.new classFile settings) with
  | .ok result _ => .ok result
  | .error error _ => .error error

end ClassFile

namespace Cli

structure Request where
  /-- The name and descriptor of the method to run; the outline is shown if there is none. -/
  invoke : Option String
  arguments : List String
  maxCallDepth : Option String
  deriving DecidableEq

structure Response where
  exitCode : Nat
  output : String
  complaint : String
  deriving DecidableEq

namespace Response

def lines (output : List String) : String :=
  String.join (output.map (· ++ "\n"))

def success (output : List String) : Response := ⟨0, lines output, ""⟩

def failed (output : List String) (failure : Failure) : Response :=
  ⟨1, lines output, lines ["Error: " ++ failure.inspect]⟩

def misused (complaint : String) : Response := ⟨2, "", complaint⟩

/-- The steps that were allowed have run out. -/
def unfinished : Response := ⟨3, "", lines ["Error: out of steps"]⟩

end Response

/-- Splits a text before the first parenthesis that follows a colon, and leaves out the colon. -/
def splitMethod : List Char → Option (List Char × List Char)
  | ':' :: '(' :: rest => some ([], '(' :: rest)
  | character :: rest =>
    (splitMethod rest).map fun (name, descriptor) => (character :: name, descriptor)
  | [] => none

/-- Reads arguments as the types of their parameters; of a text that is no value of its type, the
complaint is the result. -/
def parseArguments : List String → List FieldType → Except String (List Cell)
  | text :: texts, type :: types =>
    match parseArgument text type with
    | none => .error ("`" ++ text ++ "` is not a valid " ++ type.inspect)
    | some cell => (parseArguments texts types).map (cell :: ·)
  | _, _ => .ok []

structure Invocation where
  name : String
  descriptor : String
  type : MethodDescriptor
  arguments : List Cell

namespace Invocation

/-- Understands a request for a method; a complaint is the result if that is not possible. -/
def ofRequest (method : String) (arguments : List String) : Except String Invocation :=
  match splitMethod method.toList with
  | none => .error ("expected `NAME:DESCRIPTOR`, got `" ++ method ++ "`")
  | some (name, descriptor) =>
    let descriptor := String.ofList descriptor
    match MethodDescriptor.parse descriptor with
    | .error error => .error error.message
    | .ok type =>
      if arguments.length ≠ type.parameters.length then
        .error ("`" ++ method ++ "` takes " ++ toString type.parameters.length ++
          " arguments but " ++ toString arguments.length ++ " were given")
      else
        (parseArguments arguments type.parameters).map fun arguments =>
          { name := String.ofList name, descriptor, type, arguments }

end Invocation

/-- The text of what a method returned. -/
def renderResult : Option Cell → Option FieldType → String
  | some cell, some type => renderValue cell type
  | _, _ => "void"

/-- The log is not shown, so it is not told of instructions. -/
def settings (maxCallDepth : Nat) : Settings := ⟨maxCallDepth, false⟩

def runInvocation (classFile : ClassFile) (maxCallDepth steps : Nat) (invocation : Invocation) :
    Response :=
  match classFile.runMethod (settings maxCallDepth) steps invocation.name invocation.descriptor
    invocation.arguments with
  | .error error => .failed [] (.execution error)
  | .ok none => .unfinished
  | .ok (some result) => .success [renderResult result invocation.type.result]

def showOutline (classFile : ClassFile) : Response :=
  match describe classFile [] with
  | .ok _ output => .success output.reverse
  | .error error output => .failed output.reverse (.decode error)

/-- The call depth that a request asks for, which is a machine word, or a complaint. -/
def readMaxCallDepth : Option String → Except String Nat
  | none => .ok Settings.standard.maxCallDepth
  | some text =>
    (Decimal.readNatural (UInt64.size - 1) text.toList).mapError fun reason =>
      Complaint.invalidValue text "--max-call-depth <N>" reason.message

/-- Answers a request about a file; runs no more than `steps` instructions. -/
def respond (file : Except FileError (List UInt8)) (steps : Nat) (request : Request) : Response :=
  match readMaxCallDepth request.maxCallDepth with
  | .error complaint => .misused complaint
  | .ok maxCallDepth =>
    match file with
    | .error error => .failed [] (.file error)
    | .ok bytes =>
      match ClassFile.parse bytes with
      | .error error => .failed [] (.decode error)
      | .ok classFile =>
        match request.invoke with
        | none => showOutline classFile
        | some method =>
          match Invocation.ofRequest method request.arguments with
          | .error message => .misused (Complaint.misuse message)
          | .ok invocation => runInvocation classFile maxCallDepth steps invocation

end Cli

end ClassMachine
