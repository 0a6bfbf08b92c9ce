import PriorityAgents.Controller.Delivery

/-!
The roster of a world: the controllers of its agents, each in the slot of its identity, and the
timers that they share. Events and fired timers reach the agents one at a time.
-/

set_option autoImplicit false

namespace PriorityAgents

structure PendingEvent (vocabulary : Vocabulary) where
  agent : AgentId
  name : EventName
  payload : vocabulary.Payload

/-- Controllers by slot, and their timers. A slot stays empty once its agent is gone. -/
structure Roster (vocabulary : Vocabulary) where
  controllers : Array (Option (Controller vocabulary))
  timers : TimerQueue

namespace Roster

variable {vocabulary : Vocabulary}

def controller? (roster : Roster vocabulary) (agent : AgentId) :
    Option (Controller vocabulary) :=
  roster.controllers[agent.index]?.join

def context? (roster : Roster vocabulary) (agent : AgentId) : Option (Context vocabulary) :=
  (roster.controller? agent).map fun controller => { controller, timers := roster.timers }

def keep (roster : Roster vocabulary) (agent : AgentId) (context : Context vocabulary) :
    Roster vocabulary where
  controllers := roster.controllers.setIfInBounds agent.index (some context.controller)
  timers := context.timers

def enlist (roster : Roster vocabulary) (context : Context vocabulary) : Roster vocabulary where
  controllers := roster.controllers.push (some context.controller)
  timers := context.timers

/-- Empty a slot. The timers are those that its controller leaves behind. -/
def discharge (roster : Roster vocabulary) (agent : AgentId) (timers : TimerQueue) :
    Roster vocabulary where
  controllers := roster.controllers.setIfInBounds agent.index none
  timers

def mapController (roster : Roster vocabulary) (agent : AgentId)
    (change : Controller vocabulary → Controller vocabulary) : Roster vocabulary :=
  { roster with controllers := roster.controllers.modify agent.index (Option.map change) }

def liveAgents (roster : Roster vocabulary) : List AgentId :=
  roster.controllers.toList.filterMap (Option.map Controller.id)

def advanceTo (roster : Roster vocabulary) (tick : Tick) : Roster vocabulary :=
  { roster with timers := roster.timers.advanceTo tick }

def deliver (repertoire : Repertoire vocabulary) (now : Tick) (roster : Roster vocabulary)
    (event : PendingEvent vocabulary) : Logged (Roster vocabulary) := do
  let (handled, roster) ←
    match roster.context? event.agent with
    | none => pure (false, roster)
    | some context => do
        let (handled, context) ← context.handleEvent repertoire event.name event.payload
        pure (handled, roster.keep event.agent context)
  if !handled then
    Logged.report
      { severity := .debug
        message := "event not handled"
        fields := [("agent", event.agent.text), ("event", event.name.text)] }
  Logged.notify (.event now event.agent event.name handled)
  pure roster

/-- Offer events to their agents, first come, first served. -/
def deliverAll (repertoire : Repertoire vocabulary) (now : Tick) (roster : Roster vocabulary) :
    List (PendingEvent vocabulary) → Logged (Roster vocabulary)
  | [] => pure roster
  | event :: events => do
      let roster ← roster.deliver repertoire now event
      roster.deliverAll repertoire now events

/-- Hand fired timers to their owners, and count them. Timers of agents that are gone are
dropped. -/
def routeAll (repertoire : Repertoire vocabulary) (now : Tick) (roster : Roster vocabulary) :
    List Timer → Logged (Nat × Roster vocabulary)
  | [] => pure (0, roster)
  | timer :: timers =>
      match roster.context? timer.owner with
      | none => roster.routeAll repertoire now timers
      | some context => do
          let (outcome, context) ← context.onTimer repertoire timer.handle
          Logged.notify (.reconsider now timer.owner outcome)
          let (fired, roster) ←
            (roster.keep timer.owner context).routeAll repertoire now timers
          pure (fired + 1, roster)

def fire (repertoire : Repertoire vocabulary) (now : Tick) (roster : Roster vocabulary) :
    Logged (Nat × Roster vocabulary) := do
  let (due, timers) ← roster.timers.drain now
  Journaled.enter (.drained now)
  { roster with timers }.routeAll repertoire now due

end Roster

end PriorityAgents
