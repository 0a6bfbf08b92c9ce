import PriorityAgents.Event.Name
import PriorityAgents.Identity
import PriorityAgents.Time.Tick

/-!
Notices: what an observer of a world is told about its ticks, its events and its timers.
-/

set_option autoImplicit false

namespace PriorityAgents

inductive Reconsideration where
  /-- The timer was not the pending one. -/
  | stale
  /-- The agent is not in the world any more. -/
  | agentGone
  /-- No rule chose a behaviour. -/
  | noMatch
  /-- A behaviour was chosen and has run. -/
  | selected
deriving DecidableEq, Repr, Inhabited

def Reconsideration.label : Reconsideration → String
  | .stale => "Stale"
  | .agentGone => "AgentGone"
  | .noMatch => "NoMatch"
  | .selected => "Selected"

inductive Notice where
  | tickStart (tick : Tick)
  /-- An event was offered to an agent, which had a handler for it or had none. -/
  | event (tick : Tick) (agent : AgentId) (name : EventName) (handled : Bool)
  | reconsider (tick : Tick) (agent : AgentId) (outcome : Reconsideration)
  /-- A tick ends, in which that many timers fired. -/
  | tickEnd (tick : Tick) (fired : Nat)
  | runEnd (tick : Tick)
deriving DecidableEq, Repr

end PriorityAgents
