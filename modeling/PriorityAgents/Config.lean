import PriorityAgents.Time.Clock

/-!
The settings of a run: how long a tick is, how many ticks to run, the seed of every random
choice, and the delay of a reconsideration asked for at once.
-/

set_option autoImplicit false

namespace PriorityAgents

structure Config where
  tickMillis : UInt32
  totalTicks : UInt64
  seed : UInt64
  reconsiderNowMillis : UInt64
deriving DecidableEq, Repr

namespace Config

/-- Four ticks to the second, one minute long. -/
def standard : Config where
  tickMillis := 250
  totalTicks := 240
  seed := 0
  reconsiderNowMillis := 250

instance : Inhabited Config := ⟨standard⟩

/-- The tick at which the run ends; it is not run itself. -/
def endTick (config : Config) : Tick := .ofWord config.totalTicks

def clock (config : Config) : Except ConfigError Clock := Clock.start config.tickMillis

def reconsiderNow (config : Config) : Span :=
  Span.ofMilliseconds config.reconsiderNowMillis.toNat config.reconsiderNowMillis.toNat_lt

def outline (config : Config) : Text.Outline :=
  .record "SimConfig" [("tick_millis", .number config.tickMillis.toNat),
    ("total_ticks", .number config.totalTicks.toNat), ("seed", .number config.seed.toNat),
    ("reconsider_now_millis", .number config.reconsiderNowMillis.toNat)]

end Config

end PriorityAgents
