import PriorityAgents.Timer.Queue

/-!
The single slot for the timer of an agent's next reconsideration.

Scheduling replaces: the timer in the slot is cancelled before another one is armed. A timer that
has fired is taken out of the slot before anything else happens, and a timer that is not in the
slot any more is stale.
-/

set_option autoImplicit false

namespace PriorityAgents

/-- The pending reconsideration of an agent, if there is one. -/
@[ext] structure Scheduler where
  slot : Option TimerHandle
deriving DecidableEq, Repr, Inhabited

namespace Scheduler

def idle : Scheduler := ⟨none⟩

def pending (scheduler : Scheduler) : Option TimerHandle := scheduler.slot

def isPending (scheduler : Scheduler) : Bool := scheduler.slot.isSome

def cancel (scheduler : Scheduler) (timers : TimerQueue) :
    Logged (Bool × Scheduler × TimerQueue) := do
  match scheduler.slot with
  | some handle =>
      let timers ← timers.cancel handle
      pure (true, idle, timers)
  | none => pure (false, scheduler, timers)

def schedule (scheduler : Scheduler) (timers : TimerQueue) (owner : AgentId) (delay : Span) :
    Logged (TimerHandle × Scheduler × TimerQueue) := do
  let (_, _, timers) ← scheduler.cancel timers
  let (handle, timers) ← timers.create owner delay
  Journaled.enter (.scheduled owner handle delay)
  pure (handle, ⟨some handle⟩, timers)

/-- The slot after a timer has fired that was in it; nothing if another one, or none, was. -/
def detach? (scheduler : Scheduler) (fired : TimerHandle) : Option Scheduler :=
  if scheduler.slot = some fired then some idle else none

def outline (scheduler : Scheduler) : Text.Outline :=
  .record "Scheduler" [("slot", .optional (scheduler.slot.map TimerHandle.outline))]

end Scheduler

end PriorityAgents
