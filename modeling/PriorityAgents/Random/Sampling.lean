import PriorityAgents.Fault
import PriorityAgents.Random.Generator

/-!
Samples: chances, numbers in a range and elements of a list, drawn from a generator.

A number in a range is taken from the high part of the product of a word and the size of the
range; words whose product has too large a low part are rejected, which makes every number of the
range equally likely. Rejections have no fixed bound, so a sample has a budget of draws that no
run can use up; a sample that used it up would be a fault.
-/

set_option autoImplicit false

namespace PriorityAgents

abbrev Draw (α : Type) : Type := StateT Generator (Except Fault) α

namespace Draw

/-- How many words may be rejected for one sample. -/
def budget : Nat := 2 ^ 64

def word : Draw UInt64 := modifyGet Generator.word

def halfWord : Draw UInt64 := modifyGet Generator.halfWord

/-- True with a given probability. Probabilities below zero and above one count as zero and one;
a certainty draws nothing. -/
def chance (probability : Float) : Draw Bool :=
  if probability.isNaN then throw .invalidProbability
  else if 1.0 ≤ probability then pure true
  else do
    let drawn ← word
    if probability < 0.0 then pure false
    else pure (drawn < (probability * 18446744073709551616.0).toUInt64)

inductive Width where
  | half
  | full
deriving DecidableEq, Repr

def Width.count : Width → Nat
  | .half => 2 ^ 32
  | .full => 2 ^ 64

def ofWidth : Width → Draw Nat
  | .half => do
      let drawn ← halfWord
      pure drawn.toNat
  | .full => do
      let drawn ← word
      pure drawn.toNat

/-- A number below `size` from the first word whose product with `size` has a low part of at most
`zone`. -/
def scaled (width : Width) (size zone : Nat) : Nat → Draw Nat
  | 0 => throw .drawsRejected
  | budget + 1 => do
      let drawn ← ofWidth width
      let product := drawn * size
      if product % width.count ≤ zone then pure (product / width.count)
      else scaled width size zone budget

inductive IntegerKind where
  | byte
  | half
  | full
  | signedHalf
  | signedFull
deriving DecidableEq, Repr

namespace IntegerKind

def width : IntegerKind → Width
  | .byte | .half | .signedHalf => .half
  | .full | .signedFull => .full

def count : IntegerKind → Nat
  | .byte => 2 ^ 8
  | .half | .signedHalf => 2 ^ 32
  | .full | .signedFull => 2 ^ 64

def signed : IntegerKind → Bool
  | .byte | .half | .full => false
  | .signedHalf | .signedFull => true

def least (kind : IntegerKind) : Int := if kind.signed then -(kind.count / 2 : Nat) else 0

def greatest (kind : IntegerKind) : Int := kind.least + kind.count - 1

/-- The value of a kind with the same low bits as a word. -/
def ofWord (kind : IntegerKind) (drawn : Nat) : Int :=
  if kind.signed then Int.bmod drawn kind.count else drawn % kind.count

/-- The greatest low part with which a product is accepted. Kinds narrower than their words leave
out no more words than they must; the others take the greatest multiple of the size by a power of
two. -/
def zone (kind : IntegerKind) (size : Nat) : Nat :=
  let words := kind.width.count
  match kind with
  | .byte => words - 1 - (words - size) % size
  | _ => size * 2 ^ (Nat.log2 words - 1 - Nat.log2 size) - 1

end IntegerKind

/-- A number from `low` to `high`, both included. A range that holds every value of its kind takes
the word as it comes. -/
def between (kind : IntegerKind) (low high : Int) : Draw Int :=
  if high < low then throw .emptyRange
  else
    let size := (high - low + 1).toNat
    if size = kind.count then do
      let drawn ← ofWidth kind.width
      pure (kind.ofWord drawn)
    else do
      let chosen ← scaled kind.width size (kind.zone size) budget
      pure (low + chosen)

def below (kind : IntegerKind) (low high : Int) : Draw Int :=
  if low < high then between kind low (high - 1) else throw .emptyRange

/-- A floating-point number between one and two, less one: the high 52 bits of a word are its
fraction. -/
def unit : Draw Float := do
  let drawn ← word
  pure (Float.ofBits ((drawn >>> 12) ||| 0x3ff0000000000000) - 1.0)

/-- The first of a sequence of numbers spread over a range that lies below its upper end. -/
def stretched (low high width : Float) : Nat → Draw Float
  | 0 => throw .drawsRejected
  | budget + 1 => do
      let part ← unit
      let candidate := part * width + low
      if candidate < high then pure candidate else stretched low high width budget

/-- A floating-point number below `high` and not below `low`. The ends of the range and its width
have to be finite; of two infinite ends the lower one is blamed. -/
def belowReal (low high : Float) : Draw Float :=
  if low < high then
    if !low.isFinite then throw .infiniteLow
    else if !high.isFinite then throw .infiniteHigh
    else if (high - low).isFinite then stretched low high (high - low) budget
    else throw .rangeOverflow
  else throw .emptyRange

def choose {α : Type} (items : List α) : Draw (Option α) :=
  if items.isEmpty then pure none
  else do
    let index ← below .half 0 items.length
    pure items[index.toNat]?

end Draw

end PriorityAgents
