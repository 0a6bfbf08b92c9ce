import PriorityAgents.Json.Basic

/-!
Reading JSON: characters into tokens, tokens into a value.

Nothing may follow the value but blanks. Texts hold no raw control characters, numbers have no
leading zeros and no bare points, and integers too large for a word are kept as floating-point
numbers. Half a character named by an escape makes its text undecodable but leaves the rest of the
value readable.
-/

set_option autoImplicit false

namespace PriorityAgents.Json

inductive Token where
  | openObject
  | closeObject
  | openArray
  | closeArray
  | comma
  | colon
  | null
  | bool (value : Bool)
  | number (value : Numeral)
  | text (content : Option String)

namespace Token

def hexDigit? (character : Char) : Option Nat :=
  let code := character.toNat
  if '0'.toNat ≤ code && code ≤ '9'.toNat then some (code - '0'.toNat)
  else if 'a'.toNat ≤ code && code ≤ 'f'.toNat then some (code - 'a'.toNat + 10)
  else if 'A'.toNat ≤ code && code ≤ 'F'.toNat then some (code - 'A'.toNat + 10)
  else none

def hexQuad? (first second third fourth : Char) : Option Nat := do
  let first ← hexDigit? first
  let second ← hexDigit? second
  let third ← hexDigit? third
  let fourth ← hexDigit? fourth
  pure (((first * 16 + second) * 16 + third) * 16 + fourth)

def shortEscape? : Char → Option Char
  | '"' => some '"'
  | '\\' => some '\\'
  | '/' => some '/'
  | 'b' => some '\x08'
  | 'f' => some '\x0c'
  | 'n' => some '\n'
  | 'r' => some '\r'
  | 't' => some '\t'
  | _ => none

/-- The codes of a text up to its closing quote, and what follows the quote. A code is that of a
character, or half of one where an escape says so. -/
def textCodes : List Char → Option (List Nat × List Char)
  | [] => none
  | '"' :: rest => some ([], rest)
  | '\\' :: 'u' :: first :: second :: third :: fourth :: rest => do
      let code ← hexQuad? first second third fourth
      let (codes, rest) ← textCodes rest
      pure (code :: codes, rest)
  | '\\' :: letter :: rest => do
      let character ← shortEscape? letter
      let (codes, rest) ← textCodes rest
      pure (character.toNat :: codes, rest)
  | character :: rest =>
      if character = '\\' || character.toNat < 0x20 then none
      else do
        let (codes, rest) ← textCodes rest
        pure (character.toNat :: codes, rest)

/-- The characters of a sequence of codes: a high half joins the low half behind it, and a half
without its other one stands for nothing. -/
def ofCodes : List Nat → Option (List Char)
  | [] => some []
  | high :: low :: rest =>
      if 0xd800 ≤ high && high < 0xdc00 then
        if 0xdc00 ≤ low && low < 0xe000 then
          (ofCodes rest).map
            (Char.ofNat (0x10000 + (high - 0xd800) * 0x400 + (low - 0xdc00)) :: ·)
        else none
      else if 0xdc00 ≤ high && high < 0xe000 then none
      else (ofCodes (low :: rest)).map (Char.ofNat high :: ·)
  | [last] =>
      if 0xd800 ≤ last && last < 0xe000 then none else some [Char.ofNat last]

def digitsFrom (value : Nat) (digits : List Char) : Nat :=
  digits.foldl (fun value digit => value * 10 + (digit.toNat - '0'.toNat)) value

def fraction : List Char → Option (List Char × List Char)
  | '.' :: rest =>
      let digits := rest.takeWhile Char.isDigit
      if digits.isEmpty then none else some (digits, rest.dropWhile Char.isDigit)
  | rest => some ([], rest)

def exponent : List Char → Option (Option Int × List Char)
  | mark :: rest =>
      if mark = 'e' || mark = 'E' then
        let (negative, unsigned) :=
          match rest with
          | '-' :: unsigned => (true, unsigned)
          | '+' :: unsigned => (false, unsigned)
          | unsigned => (false, unsigned)
        let digits := unsigned.takeWhile Char.isDigit
        let size : Int := digitsFrom 0 digits
        if digits.isEmpty then none
        else some (some (if negative then -size else size), unsigned.dropWhile Char.isDigit)
      else some (none, mark :: rest)
  | [] => some (none, [])

/-- The whole part of a number: a zero alone, or digits of which the first is no zero. -/
def wholePart : List Char → Option (List Char × List Char)
  | '0' :: rest => some (['0'], rest)
  | first :: rest =>
      if first.isDigit then
        some (first :: rest.takeWhile Char.isDigit, rest.dropWhile Char.isDigit)
      else none
  | [] => none

def numeral (negative : Bool) (chars : List Char) : Option (Numeral × List Char) := do
  let (whole, rest) ← wholePart chars
  let (places, rest) ← fraction rest
  let (power, rest) ← exponent rest
  pure ({ negative
          digits := digitsFrom (digitsFrom 0 whole) places
          exponent := power.getD 0 - places.length
          plain := places.isEmpty && power.isNone }, rest)

def after? : List Char → List Char → Option (List Char)
  | [], rest => some rest
  | expected :: word, character :: rest =>
      if expected = character then after? word rest else none
  | _ :: _, [] => none

/-- The first token of a text that opens with no blank, and what follows. -/
def first? : List Char → Option (Token × List Char)
  | [] => none
  | '\x7b' :: rest => some (openObject, rest)
  | '\x7d' :: rest => some (closeObject, rest)
  | '[' :: rest => some (openArray, rest)
  | ']' :: rest => some (closeArray, rest)
  | ',' :: rest => some (comma, rest)
  | ':' :: rest => some (colon, rest)
  | 'n' :: rest => (after? ['u', 'l', 'l'] rest).map (null, ·)
  | 't' :: rest => (after? ['r', 'u', 'e'] rest).map (bool true, ·)
  | 'f' :: rest => (after? ['a', 'l', 's', 'e'] rest).map (bool false, ·)
  | '"' :: rest => (textCodes rest).map fun (codes, rest) =>
      (text ((ofCodes codes).map String.ofList), rest)
  | '-' :: rest => (numeral true rest).map fun (value, rest) => (number value.kept, rest)
  | chars => (numeral false chars).map fun (value, rest) => (number value.kept, rest)

def isBlank (character : Char) : Bool :=
  character = ' ' || character = '\n' || character = '\r' || character = '\t'

/-- The tokens of a text. Each token takes at least one character, so as many steps as there are
characters are enough. -/
def sequence : Nat → List Char → Option (List Token)
  | 0, chars => if (chars.dropWhile isBlank).isEmpty then some [] else none
  | steps + 1, chars =>
      match chars.dropWhile isBlank with
      | [] => some []
      | chars => do
          let (token, rest) ← first? chars
          let tokens ← sequence steps rest
          pure (token :: tokens)

end Token

/-- A container whose end has not been read, with its parts in reverse. -/
inductive Frame where
  | array (items : List Json)
  | object (members : List (Option String × Json)) (name : Option String)

inductive Expectation where
  | value
  | itemOrEnd
  | nameOrEnd
  | name
  | colon
  | separator

/-- Where a reading stands: the open containers, innermost first, and what may come next. -/
inductive Reading where
  | within (frames : List Frame) (next : Expectation)
  | complete (json : Json)

namespace Reading

def place (json : Json) : List Frame → Reading
  | [] => .complete json
  | .array items :: frames => .within (.array (json :: items) :: frames) .separator
  | .object members name :: frames =>
      .within (.object ((name, json) :: members) none :: frames) .separator

def begin? (frames : List Frame) : Token → Option Reading
  | .openArray => some (.within (.array [] :: frames) .itemOrEnd)
  | .openObject => some (.within (.object [] none :: frames) .nameOrEnd)
  | .null => some (place .null frames)
  | .bool value => some (place (.bool value) frames)
  | .number value => some (place (.number value) frames)
  | .text content => some (place (.text content) frames)
  | _ => none

def close : List Frame → Option Reading
  | .array items :: frames => some (place (.array items.reverse) frames)
  | .object members _ :: frames => some (place (.object members.reverse) frames)
  | [] => none

def named (frames : List Frame) (token : Token) : Option Reading :=
  match frames, token with
  | .object members _ :: frames, .text name =>
      some (.within (.object members name :: frames) .colon)
  | _, _ => none

def step (reading : Reading) (token : Token) : Option Reading :=
  match reading, token with
  | .complete _, _ => none
  | .within frames .value, token => begin? frames token
  | .within frames .itemOrEnd, .closeArray => close frames
  | .within frames .itemOrEnd, token => begin? frames token
  | .within frames .nameOrEnd, .closeObject => close frames
  | .within frames .nameOrEnd, token => named frames token
  | .within frames .name, token => named frames token
  | .within frames .colon, .colon => some (.within frames .value)
  | .within _ .colon, _ => none
  | .within (.array items :: frames) .separator, .comma =>
      some (.within (.array items :: frames) .value)
  | .within (.object members name :: frames) .separator, .comma =>
      some (.within (.object members name :: frames) .name)
  | .within (.array items :: frames) .separator, .closeArray => close (.array items :: frames)
  | .within (.object members name :: frames) .separator, .closeObject =>
      close (.object members name :: frames)
  | .within _ .separator, _ => none

end Reading

def ofTokens? (tokens : List Token) : Option Json :=
  match tokens.foldlM Reading.step (.within [] .value) with
  | some (.complete json) => some json
  | _ => none

def parse? (text : String) : Option Json :=
  (Token.sequence text.length text.toList).bind ofTokens?

end PriorityAgents.Json
