import PriorityAgents.Number.Binary

/-!
JSON values as they are written: a number keeps its spelling apart from its value, an object keeps
the order and the repetitions of its members, and a text that cannot be decoded is still a text.
-/

set_option autoImplicit false

namespace PriorityAgents

/-- A number as it is written: a sign, the digits without the point, and the power of ten that
the last digit stands for. -/
structure Numeral where
  negative : Bool
  digits : Nat
  exponent : Int
  /-- Whether it is written without a point and without an exponent. -/
  plain : Bool
deriving DecidableEq, Repr, Inhabited

namespace Numeral

def ofNat (value : Nat) : Numeral := ⟨false, value, 0, true⟩

def ofInt (value : Int) : Numeral := ⟨decide (value < 0), value.natAbs, 0, true⟩

def natural? (numeral : Numeral) : Option Nat :=
  if numeral.plain && !numeral.negative then some numeral.digits else none

def integer? (numeral : Numeral) : Option Int :=
  if numeral.plain then
    some (if numeral.negative then -(numeral.digits : Int) else numeral.digits)
  else none

def toFloat (numeral : Numeral) : Float :=
  let magnitude := Float.ofScientific numeral.digits (numeral.exponent < 0) numeral.exponent.natAbs
  if numeral.negative then -magnitude else magnitude

/-- Whether a 64-bit word, signed if need be, has the integer of these digits. Words have no
negative zero. -/
def fitsWord (numeral : Numeral) : Bool :=
  if numeral.negative then 0 < numeral.digits && numeral.digits ≤ 2 ^ 63
  else numeral.digits < 2 ^ 64

/-- A number as it is kept: an integer that no word has becomes the floating-point number nearest
to it, which is an integer too, and is no longer plain. -/
def kept (numeral : Numeral) : Numeral :=
  if numeral.plain && !numeral.fitsWord && numeral.toFloat.isFinite then
    { numeral with digits := (Number.magnitude numeral.toFloat).numerator, plain := false }
  else numeral

end Numeral

/-- A JSON value. A text is absent where an escape in it names half a character only. -/
inductive Json where
  | null
  | bool (value : Bool)
  | number (value : Numeral)
  | text (content : Option String)
  | array (items : List Json)
  | object (members : List (Option String × Json))
deriving Inhabited

namespace Json

def ofString (content : String) : Json := .text (some content)

def ofNat (value : Nat) : Json := .number (.ofNat value)

def ofInt (value : Int) : Json := .number (.ofInt value)

def ofOption : Option Json → Json
  | none => .null
  | some present => present

def ofMembers (members : List (String × Json)) : Json :=
  .object (members.map (fun member => (some member.1, member.2)))

def member? (json : Json) (name : String) : Option Json :=
  match json with
  | .object members => (members.findRev? (·.1 = some name)).map (·.2)
  | _ => none

def string? : Json → Option String
  | .text content => content
  | _ => none

def items? : Json → Option (List Json)
  | .array items => some items
  | _ => none

def truth? : Json → Option Bool
  | .bool value => some value
  | _ => none

/-- A natural number below a bound, written plainly. -/
def naturalBelow? (bound : Nat) : Json → Option Nat
  | .number numeral => numeral.natural?.filter (· < bound)
  | _ => none

def integer? : Json → Option Int
  | .number numeral => numeral.integer?
  | _ => none

end Json

end PriorityAgents
