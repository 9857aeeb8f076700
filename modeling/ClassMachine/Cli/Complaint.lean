import ClassMachine.Text.ControlSequence

set_option autoImplicit false

/-!
What is said about a request that makes no sense. Parts of the text have a style; where it is shown
no styles are, and control sequences in a quoted part of the request have no effect either.
-/

namespace ClassMachine.Cli.Complaint

open ControlSequence

def title : String := bold ++ red ++ "error:" ++ plain ++ " "

def usage : String :=
  "\n\n" ++ bold ++ underlined ++ "Usage:" ++ plain ++ " " ++ bold ++ "classrun" ++ plain ++
    " [OPTIONS] <INPUT>"

def hint : String :=
  "\n\nFor more information, try '" ++ bold ++ "--help" ++ plain ++ "'.\n"

def misuse (message : String) : String :=
  visible (title ++ message ++ usage ++ hint)

def invalidValue (value option reason : String) : String :=
  visible (title ++ "invalid value '" ++ yellow ++ value ++ plain ++ "' for '" ++ bold ++ option ++
    plain ++ "': " ++ reason ++ hint)

end ClassMachine.Cli.Complaint
