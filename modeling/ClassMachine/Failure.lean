import ClassMachine.Fault

set_option autoImplicit false

/-!
Everything that can keep a class file from being read and run.
-/

namespace ClassMachine

structure FileError where
  code : Nat
  kind : String
  reason : String
  deriving DecidableEq

namespace FileError

def notFound : FileError := ⟨2, "NotFound", "No such file or directory"⟩

def permissionDenied : FileError := ⟨13, "PermissionDenied", "Permission denied"⟩

def isDirectory : FileError := ⟨21, "IsADirectory", "Is a directory"⟩

/-- Any other reason, under the number of an input or output error. -/
def other (reason : String) : FileError := ⟨5, "Uncategorized", reason⟩

def message (error : FileError) : String :=
  error.reason ++ " (os error " ++ toString error.code ++ ")"

open Structural in
def inspect (error : FileError) : String :=
  record "Os"
    [("code", toString error.code), ("kind", error.kind), ("message", Quoted.text error.reason)]

end FileError

inductive Failure where
  | decode (error : DecodeError)
  | execution (error : ExecutionError)
  | file (error : FileError)
  deriving DecidableEq

namespace Failure

def kind : Failure → String
  | .decode _ => "Decode"
  | .execution _ => "Execution"
  | .file _ => "IoError"

def causeMessage : Failure → String
  | .decode error => error.message
  | .execution error => error.message
  | .file error => error.message

def message : Failure → String
  | .decode error => "malformed class file: " ++ error.message
  | .execution error => "execution failed in " ++ error.message
  | .file error => error.message

def inspect (failure : Failure) : String :=
  Structural.apply failure.kind
    [match failure with
      | .decode error => error.inspect
      | .execution error => error.inspect
      | .file error => error.inspect]

end Failure

end ClassMachine
