import ClassMachine.Cli.Options

set_option autoImplicit false

/-!
The program: reads a class file, answers the request about it, and prints the answer.
-/

namespace ClassMachine.Cli

def fileError : IO.Error → FileError
  | .noFileOrDirectory .. => .notFound
  | .permissionDenied .. => .permissionDenied
  | .inappropriateType .. => .isDirectory
  | error => .other (toString error)

def readFile (path : String) : IO (Except FileError (List UInt8)) := do
  match ← (IO.FS.readBinFile path).toBaseIO with
  | .ok content => return .ok content.toList
  | .error error => return .error (fileError error)

/-- More instructions than any run gets through. -/
def stepLimit : Nat := 1 <<< 62

def answer (words : List String) : IO Response := do
  match Options.empty.read words with
  | .error message => return .misused (Complaint.misuse message)
  | .ok ⟨none, _⟩ => return .misused (Complaint.misuse Options.missingPath)
  | .ok ⟨some path, request⟩ => return respond (← readFile path) stepLimit request

end ClassMachine.Cli

def main (words : List String) : IO UInt32 := do
  let response ← ClassMachine.Cli.answer words
  IO.print response.output
  IO.eprint response.complaint
  return response.exitCode.toUInt32
