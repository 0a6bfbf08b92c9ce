import PriorityAgents.Notice
import PriorityAgents.Record
import PriorityAgents.Time.Span
import PriorityAgents.Timer.Basic

/-!
Journals: what happened in an operation, one entry after another.

What becomes of timers and of reconsiderations is entered as a fact, and the words in which it is
told are made from the fact. Everything else is entered in the words in which it is told.
-/

set_option autoImplicit false

namespace PriorityAgents

inductive Entry where
  | told (record : Record)
  | armed (timer : Timer)
  | disarmed (handle : TimerHandle) (due : Tick)
  /-- The timers due by a tick were taken out of their queue, to be handed to their owners. -/
  | drained (tick : Tick)
  /-- An agent's reconsideration was put off to the end of a delay, which a timer measures. -/
  | scheduled (agent : AgentId) (handle : TimerHandle) (delay : Span)
  | withdrawn (agent : AgentId)
  | destroyed (agent : AgentId) (name : String)
  | noticed (notice : Notice)
deriving DecidableEq, Repr

namespace Entry

/-- An entry in words. Notices have an observer of their own, and draining a queue goes untold. -/
def record? : Entry → Option Record
  | .told record => some record
  | .armed timer => some
      { severity := .trace
        message := "timer armed"
        fields := [("owner", timer.owner.text), ("handle", timer.handle.text),
          ("due", timer.due.text)] }
  | .disarmed handle due => some
      { severity := .trace
        message := "timer cancelled"
        fields := [("handle", handle.text), ("due", due.text)] }
  | .scheduled agent handle delay => some
      { severity := .debug
        message := "reconsideration scheduled"
        fields := [("agent", agent.text), ("handle", handle.text), ("delay", delay.text)] }
  | .withdrawn agent => some
      { severity := .debug
        message := "reconsideration cancelled"
        fields := [("agent", agent.text)] }
  | .destroyed agent name => some
      { severity := .debug
        message := "agent destroyed"
        fields := [("agent", agent.text), ("ai", name)] }
  | .drained _ | .noticed _ => none

def notice? : Entry → Option Notice
  | .noticed notice => some notice
  | _ => none

def isArming : Entry → Bool
  | .armed _ => true
  | _ => false

end Entry

end PriorityAgents
