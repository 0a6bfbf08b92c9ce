import PriorityAgents.Config
import PriorityAgents.World.Error
import PriorityAgents.World.Roster

/-!
Worlds: agents with a common clock, common timers and a common queue of events, and what a host
may do with them between two ticks.

Whenever an agent's code runs, the timers have been moved to the tick in which it runs, so every
delay is measured from there.
-/

set_option autoImplicit false

namespace PriorityAgents

structure World (vocabulary : Vocabulary) where
  config : Config
  clock : Clock
  /-- The delay of a reconsideration asked for at once, for agents that are still to come. -/
  reconsiderNow : Span
  roster : Roster vocabulary
  /-- Events posted and not yet delivered, oldest first. -/
  events : List (PendingEvent vocabulary)

namespace World

variable {vocabulary : Vocabulary} {α : Type}

/-- A world without agents, at tick zero. The settings give the delay of a reconsideration asked
for at once, unless another one is given. -/
def create (config : Config) (reconsiderNow : Option Span) :
    Except WorldError (World vocabulary) := do
  if config.tickMillis = 0 then
    throw (.config "tick_millis must be greater than zero")
  let timers ← (TimerQueue.start config.tickMillis).mapError WorldError.timer
  let clock ← config.clock.mapError WorldError.clock
  pure
    { config
      clock
      reconsiderNow := reconsiderNow.getD config.reconsiderNow
      roster := { controllers := #[], timers }
      events := [] }

def controller? (world : World vocabulary) (agent : AgentId) : Option (Controller vocabulary) :=
  world.roster.controller? agent

def mapController (world : World vocabulary) (agent : AgentId)
    (change : Controller vocabulary → Controller vocabulary) : World vocabulary :=
  { world with roster := world.roster.mapController agent change }

def liveAgents (world : World vocabulary) : List AgentId := world.roster.liveAgents

/-- The identity of the agent in a slot. Slots without an identity of their own are refused. -/
def agentIdFor (slot : Nat) : Except WorldError AgentId :=
  match AgentId.ofIndex? slot with
  | some agent => if agent.isValid then .ok agent else .error (.tooManyAgents slot)
  | none => .error (.tooManyAgents slot)

def spawn (repertoire : Repertoire vocabulary) (world : World vocabulary)
    (agent : vocabulary.State) (name : String) (setup : Program vocabulary Unit) :
    Logged (Except WorldError (AgentId × World vocabulary)) := do
  match agentIdFor world.roster.controllers.size with
  | .error cause => pure (.error cause)
  | .ok id =>
      let roster := world.roster.advanceTo world.clock.now
      let controller := Controller.start id name agent world.config.seed world.reconsiderNow
      let context : Context vocabulary := { controller, timers := roster.timers }
      let ((), context) ← context.run repertoire setup
      context.report .debug "agent spawned" [("ai", context.controller.name)]
      pure (.ok (id, { world with roster := roster.enlist context }))

def spawnWithTree (repertoire : Repertoire vocabulary) (world : World vocabulary)
    (agent : vocabulary.State) (name : String) (tree : PriorityTree vocabulary) :
    Logged (Except WorldError (AgentId × World vocabulary)) :=
  world.spawn repertoire agent name (Program.request (.setPriorities tree))

def withAgent (repertoire : Repertoire vocabulary) (world : World vocabulary) (agent : AgentId)
    (program : Program vocabulary α) : Logged (Except WorldError (α × World vocabulary)) := do
  match (world.roster.advanceTo world.clock.now).context? agent with
  | none => pure (.error (.agentNotFound agent))
  | some context =>
      let (answer, context) ← context.run repertoire program
      pure (.ok (answer, { world with roster := world.roster.keep agent context }))

/-- Post an event for a live agent. It is delivered at the start of the next tick. -/
def post (world : World vocabulary) (agent : AgentId) (name : EventName)
    (payload : vocabulary.Payload) : Except WorldError (World vocabulary) :=
  match world.controller? agent with
  | none => .error (.agentNotFound agent)
  | some _ => .ok { world with events := world.events ++ [{ agent, name, payload }] }

/-- Take a live agent out of the world. It is told so, and gives back what it holds. Its events
and timers are dropped when their time comes. -/
def destroy (repertoire : Repertoire vocabulary) (world : World vocabulary) (agent : AgentId)
    (payload : vocabulary.Payload) :
    Logged (Except WorldError (Controller vocabulary × World vocabulary)) := do
  match world.roster.context? agent with
  | none => pure (.error (.agentNotFound agent))
  | some context =>
      let (_, context) ← context.handleEvent repertoire .entityDestroyed payload
      let context ← context.teardown
      Journaled.enter (.destroyed agent context.controller.name)
      pure (.ok (context.controller,
        { world with roster := world.roster.discharge agent context.timers }))

end World

end PriorityAgents
