import PriorityAgents.Time.Span
import PriorityAgents.Time.Tick

/-!
The clock of a world: where it stands, in ticks, and how long a tick is.

Delays are counted in whole ticks and always upward, so what is asked for after a delay never
comes before the delay has passed.
-/

set_option autoImplicit false

namespace PriorityAgents

/-- A setting that no world can run with. -/
inductive ConfigError where
  | invalid (reason : String)
deriving DecidableEq, Repr, Inhabited

namespace ConfigError

def zeroTick : ConfigError := .invalid "tick_millis must be greater than zero"

def message : ConfigError → String
  | .invalid reason => "configuration error: " ++ reason

def outline : ConfigError → Text.Outline
  | .invalid reason => .variant "Config" [.text reason]

end ConfigError

/-- A count of ticks and the length of a tick, a positive number of milliseconds in 32 bits. -/
@[ext] structure Clock where
  tickMillis : Nat
  positive : 0 < tickMillis
  bounded : tickMillis < UInt32.size
  now : Tick
deriving DecidableEq, Repr

namespace Clock

def start (tickMillis : UInt32) : Except ConfigError Clock :=
  if positive : 0 < tickMillis.toNat then
    .ok ⟨tickMillis.toNat, positive, tickMillis.toNat_lt_size, Tick.zero⟩
  else .error .zeroTick

def advance (clock : Clock) : Except Fault Clock := do
  let now ← clock.now.offset 1
  pure { clock with now }

def elapsed (clock : Clock) : Except Fault Span :=
  if fits : clock.now.index * clock.tickMillis < 2 ^ 64 then
    .ok (Span.ofMilliseconds (clock.now.index * clock.tickMillis) fits)
  else .error .mulOverflow

def tickNanoseconds (clock : Clock) : Nat := clock.tickMillis * 10 ^ 6

/-- The number of ticks that a delay takes: the least one that covers it, or the largest 64-bit
number if that is less. -/
def ticksFor (clock : Clock) (delay : Span) : Nat :=
  min ((delay.nanoseconds + clock.tickNanoseconds - 1) / clock.tickNanoseconds) (2 ^ 64 - 1)

/-- The text of a clock: the tick, and the elapsed seconds to two decimals. -/
def text (clock : Clock) : Except Fault String := do
  let elapsed ← clock.elapsed
  let seconds := Number.magnitude elapsed.toSeconds
  pure (clock.now.text ++ " (+" ++ Number.fixedPlaces 2 seconds.numerator seconds.denominator
    ++ "s)")

def outline (clock : Clock) : Text.Outline :=
  .record "SimClock" [("tick_millis", .number clock.tickMillis),
    ("current_tick", clock.now.outline)]

end Clock

end PriorityAgents
