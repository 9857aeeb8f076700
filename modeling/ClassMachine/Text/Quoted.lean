import ClassMachine.Text.Hex
import ClassMachine.Text.Unprintable

set_option autoImplicit false

/-!
Quoted text: a string between double quotes, in which a quote, a backslash and every character that
cannot be shown are written as escapes.
-/

namespace ClassMachine.Quoted

def character (c : Char) : List Char :=
  if c = '"' then ['\\', '"']
  else if c = '\\' then ['\\', '\\']
  else if c = '\n' then ['\\', 'n']
  else if c = '\t' then ['\\', 't']
  else if c = '\r' then ['\\', 'r']
  else if c = '\x00' then ['\\', '0']
  else if ' ' ≤ c ∧ c ≤ '~' then [c]
  else if Unprintable.contains c then '\\' :: 'u' :: '\x7b' :: Hex.shortest c.toNat ++ ['\x7d']
  else [c]

def text (content : String) : String :=
  String.ofList ('"' :: content.toList.flatMap character ++ ['"'])

end ClassMachine.Quoted
