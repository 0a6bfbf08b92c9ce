import PriorityAgents.Identity
import PriorityAgents.Time.Tick

/-!
Timers: a handle, the agent to be told, and the tick at which it is.
-/

set_option autoImplicit false

namespace PriorityAgents

@[ext] structure Timer where
  handle : TimerHandle
  owner : AgentId
  due : Tick
deriving DecidableEq, Repr

def Timer.outline (timer : Timer) : Text.Outline :=
  .record "Timer" [("handle", timer.handle.outline), ("owner", timer.owner.outline),
    ("due", timer.due.outline)]

end PriorityAgents
