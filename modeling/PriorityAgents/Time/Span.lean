import PriorityAgents.Fault
import PriorityAgents.Number.Binary
import PriorityAgents.Number.Rounding

/-!
Spans of time: a whole number of nanoseconds, fewer than 2^64 seconds in all.
-/

set_option autoImplicit false

namespace PriorityAgents

@[ext] structure Span where
  nanoseconds : Nat
  bounded : nanoseconds < 2 ^ 64 * 10 ^ 9
deriving DecidableEq, Repr

namespace Span

def zero : Span := ⟨0, by decide⟩

instance : Inhabited Span := ⟨zero⟩

def ofMilliseconds (milliseconds : Nat) (fits : milliseconds < 2 ^ 64) : Span :=
  ⟨milliseconds * 10 ^ 6, by omega⟩

def ofNanoseconds? (nanoseconds : Nat) : Option Span :=
  if bounded : nanoseconds < 2 ^ 64 * 10 ^ 9 then some ⟨nanoseconds, bounded⟩ else none

/-- A number of seconds, to the nearest nanosecond of its exact value; a half goes to the even
neighbour. Negative zero is no time at all. -/
def ofSeconds (seconds : Float) : Except Fault Span :=
  if seconds < 0.0 then .error .negativeSeconds
  else if seconds < 18446744073709551616.0 then
    let exact := Number.magnitude seconds
    let nanoseconds := Number.nearestEven (exact.numerator * 10 ^ 9) exact.denominator
    if bounded : nanoseconds < 2 ^ 64 * 10 ^ 9 then .ok ⟨nanoseconds, bounded⟩
    else .error .secondsOutOfRange
  else .error .secondsOutOfRange

def seconds (span : Span) : Nat := span.nanoseconds / 10 ^ 9

def subsecond (span : Span) : Nat := span.nanoseconds % 10 ^ 9

/-- The number of seconds nearest to the span that a floating-point sum of its whole seconds and
its fraction of a second gives. -/
def toSeconds (span : Span) : Float :=
  (UInt64.ofNat span.seconds).toFloat + (UInt64.ofNat span.subsecond).toFloat / 1000000000.0

/-- The unit a span is written in: the largest one that the span fills at least once. -/
structure Measure where
  /-- The length of the unit in nanoseconds, as a power of ten. -/
  power : Nat
  symbol : String

def Measure.of (nanoseconds : Nat) : Measure :=
  if 10 ^ 9 ≤ nanoseconds then ⟨9, "s"⟩
  else if 10 ^ 6 ≤ nanoseconds then ⟨6, "ms"⟩
  else if 10 ^ 3 ≤ nanoseconds then ⟨3, "µs"⟩
  else ⟨0, "ns"⟩

/-- A span in its unit, with all decimals and no zeros at the end. -/
def text (span : Span) : String :=
  let measure := Measure.of span.nanoseconds
  let whole := toString (span.nanoseconds / 10 ^ measure.power)
  let fraction := Number.padded measure.power (span.nanoseconds % 10 ^ measure.power)
  let kept := (fraction.reverse.dropWhile (· = '0')).reverse
  if measure.power = 0 || kept.isEmpty then whole ++ measure.symbol
  else whole ++ "." ++ String.ofList kept ++ measure.symbol

/-- A span in its unit, rounded to one decimal. -/
def brief (span : Span) : String :=
  let measure := Measure.of span.nanoseconds
  Number.fixedPlaces 1 span.nanoseconds (10 ^ measure.power) ++ measure.symbol

end Span

end PriorityAgents
