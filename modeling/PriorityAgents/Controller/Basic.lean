import PriorityAgents.Event.Surface
import PriorityAgents.Phrasebook
import PriorityAgents.Random.Generator
import PriorityAgents.Rule.Basic
import PriorityAgents.Scheduler

/-!
Controllers: an agent together with everything by which it is driven. Nothing in a controller is
shared with another one.
-/

set_option autoImplicit false

namespace PriorityAgents

/-- What belongs to an agent alone and is read and written at will by its rules. -/
structure Mind (vocabulary : Vocabulary) where
  agent : vocabulary.State
  parameters : Parameters vocabulary.kinds
  phrases : Phrasebook
  generator : Generator

/-- An agent, its tree, its handlers and its pending reconsideration. -/
structure Controller (vocabulary : Vocabulary) where
  id : AgentId
  name : String
  /-- The delay of a reconsideration asked for at once. -/
  reconsiderNow : Span
  mind : Mind vocabulary
  tree : PriorityTree vocabulary
  surface : EventSurface vocabulary
  scheduler : Scheduler

namespace Controller

variable {vocabulary : Vocabulary}

def start (id : AgentId) (name : String) (agent : vocabulary.State) (seed : UInt64)
    (reconsiderNow : Span) : Controller vocabulary where
  id
  name
  reconsiderNow
  mind :=
    { agent
      parameters := .empty
      phrases := .empty
      generator := .forAgent seed id }
  tree := .empty
  surface := .empty
  scheduler := .idle

def agent (controller : Controller vocabulary) : vocabulary.State := controller.mind.agent

def mapAgent (controller : Controller vocabulary)
    (change : vocabulary.State → vocabulary.State) : Controller vocabulary :=
  { controller with mind := { controller.mind with agent := change controller.mind.agent } }

def pending (controller : Controller vocabulary) : Option TimerHandle :=
  controller.scheduler.pending

def outline (agentOutline : vocabulary.State → Text.Outline)
    (controller : Controller vocabulary) : Text.Outline :=
  .record "Controller" [("id", controller.id.outline), ("name", .text controller.name),
    ("agent", agentOutline controller.agent), ("params", controller.mind.parameters.outline),
    ("active_handlers", controller.surface.activeOutline),
    ("pending", .optional (controller.pending.map TimerHandle.outline))]

end Controller

end PriorityAgents
