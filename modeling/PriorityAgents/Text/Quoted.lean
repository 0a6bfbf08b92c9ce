import PriorityAgents.Text.Printable

/-!
Quoted text: a string between double quotes, with every character that could not be read back
from the page written as an escape.
-/

set_option autoImplicit false

namespace PriorityAgents.Text

def hexadecimal (value : Nat) : List Char := Nat.toDigits 16 value

def escaped (character : Char) : List Char :=
  if character = '"' then ['\\', '"']
  else if character = '\\' then ['\\', '\\']
  else if character = '\n' then ['\\', 'n']
  else if character = '\r' then ['\\', 'r']
  else if character = '\t' then ['\\', 't']
  else if character.toNat = 0 then ['\\', '0']
  else if isPrintable character then [character]
  else ['\\', 'u', '\x7b'] ++ hexadecimal character.toNat ++ ['\x7d']

def quoted (text : String) : String :=
  "\"" ++ String.ofList (text.toList.flatMap escaped) ++ "\""

end PriorityAgents.Text
