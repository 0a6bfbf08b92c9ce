import PriorityAgents.Timer.Queue

/-!
Errors that a world answers its host with. An error leaves the world as it was.
-/

set_option autoImplicit false

namespace PriorityAgents

inductive WorldError where
  | config (reason : String)
  | agentNotFound (agent : AgentId)
  | tooManyAgents (slot : Nat)
  | clock (cause : ConfigError)
  | timer (cause : TimerError)
deriving DecidableEq, Repr, Inhabited

namespace WorldError

def message : WorldError → String
  | .config reason => "simulation configuration error: " ++ reason
  | .agentNotFound agent => "no live agent with id " ++ agent.text
  | .tooManyAgents slot => "agent table full: slot " ++ toString slot ++ " has no valid AgentId"
  | .clock cause => cause.message
  | .timer cause => "timer error: " ++ cause.message

def outline : WorldError → Text.Outline
  | .config reason => .variant "Config" [.text reason]
  | .agentNotFound agent => .variant "AgentNotFound" [agent.outline]
  | .tooManyAgents slot => .variant "TooManyAgents" [.number slot]
  | .clock cause => .variant "Core" [cause.outline]
  | .timer cause => .variant "Timer" [cause.outline]

end WorldError

end PriorityAgents
