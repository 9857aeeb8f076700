import ClassMachine.Text.Quoted

set_option autoImplicit false

/-!
One-line texts of structured values: a constructor applied to its arguments, a record with named
fields, a list, an optional value. Each takes the texts of its parts.
-/

namespace ClassMachine.Structural

def commaSeparated (parts : List String) : String :=
  ", ".intercalate parts

/-- `Name(first, second)`, or the bare name if there are no arguments. -/
def apply (name : String) : List String → String
  | [] => name
  | arguments => name ++ "(" ++ commaSeparated arguments ++ ")"

/-- The name and then `field: value` pairs between braces. -/
def record (name : String) (fields : List (String × String)) : String :=
  name ++ " \x7b " ++ commaSeparated (fields.map fun field => field.1 ++ ": " ++ field.2) ++ " \x7d"

def list (items : List String) : String :=
  "[" ++ commaSeparated items ++ "]"

def pair (first second : String) : String :=
  "(" ++ first ++ ", " ++ second ++ ")"

def option : Option String → String
  | none => "None"
  | some value => apply "Some" [value]

def boolean (value : Bool) : String :=
  if value then "true" else "false"

end ClassMachine.Structural
