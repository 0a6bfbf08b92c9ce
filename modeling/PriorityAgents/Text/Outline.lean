import PriorityAgents.Text.Quoted

/-!
Outlines: the shape in which a value is shown to a developer, apart from how it is laid out.
An outline has two layouts, one on a single line and one with an item to a line.
-/

set_option autoImplicit false

namespace PriorityAgents.Text

inductive Outline where
  | word (text : String)
  | record (name : String) (fields : List (String × Outline))
  | variant (name : String) (parts : List Outline)
  /-- Values in order. -/
  | sequence (items : List Outline)
  /-- Values without order or repetition. -/
  | collection (items : List Outline)
deriving Inhabited

namespace Outline

def text (content : String) : Outline := .word (quoted content)

def number (value : Nat) : Outline := .word (toString value)

def truth (value : Bool) : Outline := .word (if value then "true" else "false")

def optional : Option Outline → Outline
  | none => .word "None"
  | some present => .variant "Some" [present]

mutual

def inline : Outline → String
  | .word text => text
  | .record name [] => name
  | .record name (field :: fields) =>
      name ++ " \x7b " ++ field.1 ++ ": " ++ inline field.2 ++ inlineFields fields ++ " \x7d"
  | .variant name [] => name
  | .variant name (part :: parts) => name ++ "(" ++ inline part ++ inlineRest parts ++ ")"
  | .sequence [] => "[]"
  | .sequence (item :: items) => "[" ++ inline item ++ inlineRest items ++ "]"
  | .collection [] => "\x7b\x7d"
  | .collection (item :: items) => "\x7b" ++ inline item ++ inlineRest items ++ "\x7d"

def inlineFields : List (String × Outline) → String
  | [] => ""
  | (name, value) :: fields => ", " ++ name ++ ": " ++ inline value ++ inlineFields fields

def inlineRest : List Outline → String
  | [] => ""
  | item :: items => ", " ++ inline item ++ inlineRest items

end

def margin (depth : Nat) : String := String.ofList (List.replicate (4 * depth) ' ')

mutual

/-- Each part on a line of its own, four columns deeper than the value it belongs to. -/
def indented (depth : Nat) : Outline → String
  | .word text => text
  | .record name [] => name
  | .record name (field :: fields) =>
      name ++ " \x7b\n" ++ indentedFields (depth + 1) (field :: fields) ++ margin depth ++ "\x7d"
  | .variant name [] => name
  | .variant name (part :: parts) =>
      name ++ "(\n" ++ indentedItems (depth + 1) (part :: parts) ++ margin depth ++ ")"
  | .sequence [] => "[]"
  | .sequence (item :: items) =>
      "[\n" ++ indentedItems (depth + 1) (item :: items) ++ margin depth ++ "]"
  | .collection [] => "\x7b\x7d"
  | .collection (item :: items) =>
      "\x7b\n" ++ indentedItems (depth + 1) (item :: items) ++ margin depth ++ "\x7d"

def indentedFields (depth : Nat) : List (String × Outline) → String
  | [] => ""
  | (name, value) :: fields =>
      margin depth ++ name ++ ": " ++ indented depth value ++ ",\n" ++ indentedFields depth fields

def indentedItems (depth : Nat) : List Outline → String
  | [] => ""
  | item :: items =>
      margin depth ++ indented depth item ++ ",\n" ++ indentedItems depth items

end

end Outline

end PriorityAgents.Text
