import PriorityAgents.Controller.Context

/-!
What a host delivers to a controller: timers that have fired, and events; and how a controller is
taken out of service.
-/

set_option autoImplicit false

namespace PriorityAgents

namespace Context

variable {vocabulary : Vocabulary}

/-- Choose a behaviour by the tree in use and run it. The tree is read once, so a walk ends on the
tree that it began on. -/
def reconsider (repertoire : Repertoire vocabulary) (context : Context vocabulary) :
    Logged (Reconsideration × Context vocabulary) := do
  let (chosen, context) ←
    context.run repertoire (repertoire.evaluate context.controller.tree.rules)
  match chosen with
  | some behaviour =>
      context.report .debug "behaviour selected" [("ai", context.controller.name)]
      let ((), context) ← context.run repertoire (repertoire.action behaviour)
      pure (.selected, context)
  | none =>
      context.report .warn
        "all priorities failed; priority trees should end with an unconditional entry"
        [("ai", context.controller.name)]
      pure (.noMatch, context)

/-- A timer of the agent has fired. The slot is cleared before anything else, so the walk and the
behaviour may schedule as they like. -/
def onTimer (repertoire : Repertoire vocabulary) (context : Context vocabulary)
    (fired : TimerHandle) : Logged (Reconsideration × Context vocabulary) := do
  match context.controller.scheduler.detach? fired with
  | none =>
      context.report .debug "ignoring stale reconsideration timer" [("fired", fired.text)]
      pure (.stale, context)
  | some scheduler =>
      let context := { context with controller := { context.controller with scheduler } }
      if repertoire.isPresent context.controller.agent then context.reconsider repertoire
      else pure (.agentGone, context)

/-- An event has arrived: whatever is bound to its name at this moment runs. Tells whether
anything was. -/
def handleEvent (repertoire : Repertoire vocabulary) (context : Context vocabulary)
    (name : EventName) (payload : vocabulary.Payload) : Logged (Bool × Context vocabulary) := do
  match context.controller.surface.handler? name with
  | none => pure (false, context)
  | some handler =>
      let ((), context) ← context.run repertoire (repertoire.handle handler payload)
      pure (true, context)

/-- Give back the pending timer and every binding of the current set of handlers. -/
def teardown (context : Context vocabulary) : Logged (Context vocabulary) := do
  let context ← context.cancel
  pure (context.mapSurface EventSurface.uninstall)

end Context

end PriorityAgents
