import PriorityAgents.Json.Basic

/-!
Writing JSON on one line, without blanks.
-/

set_option autoImplicit false

namespace PriorityAgents

namespace Numeral

/-- The text of a number: its digits, and the power of ten unless it is plain. -/
def text (numeral : Numeral) : String :=
  let digits := (if numeral.negative then "-" else "") ++ toString numeral.digits
  if numeral.plain then digits
  else if numeral.exponent < 0 then digits ++ "e-" ++ toString numeral.exponent.natAbs
  else digits ++ "e+" ++ toString numeral.exponent.natAbs

end Numeral

namespace Json

def hexDigit (value : Nat) : Char :=
  if value < 10 then Char.ofNat ('0'.toNat + value) else Char.ofNat ('a'.toNat + (value - 10))

/-- A character as it is written between quotes: quotes and backslashes behind a backslash,
control characters by their codes. -/
def escaped (character : Char) : List Char :=
  if character = '"' then ['\\', '"']
  else if character = '\\' then ['\\', '\\']
  else if character.toNat < 0x20 then
    ['\\', 'u', '0', '0', hexDigit (character.toNat / 16), hexDigit (character.toNat % 16)]
  else [character]

def quoted : Option String → String
  | some content => "\"" ++ String.ofList (content.toList.flatMap escaped) ++ "\""
  | none => "\"\\ud800\""

mutual

def compact : Json → String
  | .null => "null"
  | .bool true => "true"
  | .bool false => "false"
  | .number value => value.text
  | .text content => quoted content
  | .array [] => "[]"
  | .array (item :: items) => "[" ++ compact item ++ compactItems items ++ "]"
  | .object [] => "\x7b\x7d"
  | .object (member :: members) =>
      "\x7b" ++ quoted member.1 ++ ":" ++ compact member.2 ++ compactMembers members ++ "\x7d"

def compactItems : List Json → String
  | [] => ""
  | item :: items => "," ++ compact item ++ compactItems items

def compactMembers : List (Option String × Json) → String
  | [] => ""
  | (name, value) :: members =>
      "," ++ quoted name ++ ":" ++ compact value ++ compactMembers members

end

end Json

end PriorityAgents
