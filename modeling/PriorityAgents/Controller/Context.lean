import PriorityAgents.Controller.Repertoire

/-!
Controllers at work: a controller together with the timers of its host, and how the requests of a
program are carried out on the two.
-/

set_option autoImplicit false

namespace PriorityAgents

/-- A controller and the timers that its host lends it. -/
structure Context (vocabulary : Vocabulary) where
  controller : Controller vocabulary
  timers : TimerQueue

namespace Context

variable {vocabulary : Vocabulary} {α : Type}

def report (context : Context vocabulary) (severity : Severity) (message : String)
    (fields : List (String × String)) : Logged Unit :=
  Logged.report { severity, message, fields := ("agent", context.controller.id.text) :: fields }

def schedule (context : Context vocabulary) (delay : Span) : Logged (Context vocabulary) := do
  let (_, scheduler, timers) ←
    context.controller.scheduler.schedule context.timers context.controller.id delay
  pure { controller := { context.controller with scheduler }, timers }

def reconsiderNow (context : Context vocabulary) : Logged (Context vocabulary) :=
  context.schedule context.controller.reconsiderNow

def cancel (context : Context vocabulary) : Logged (Context vocabulary) := do
  let (wasPending, scheduler, timers) ← context.controller.scheduler.cancel context.timers
  if wasPending then Journaled.enter (.withdrawn context.controller.id)
  pure { controller := { context.controller with scheduler }, timers }

/-- Use another tree, and reconsider shortly. A tree that may leave the agent without an answer is
reported and used all the same. -/
def setPriorities (context : Context vocabulary) (tree : PriorityTree vocabulary) :
    Logged (Context vocabulary) := do
  match tree.checkFallback with
  | .ok () => pure ()
  | .error cause => context.report .warn cause.message [("ai", context.controller.name)]
  reconsiderNow { context with controller := { context.controller with tree } }

/-- Hand the phrase of an occasion to the agent; without a phrase nothing is said. -/
def communicate (repertoire : Repertoire vocabulary) (context : Context vocabulary)
    (key substitution : String) : Logged (Context vocabulary) := do
  match context.controller.mind.phrases.render? key substitution with
  | none => pure context
  | some message =>
      let agent ← (repertoire.receive message context.controller.agent).logged
      pure { context with controller := context.controller.mapAgent fun _ => agent }

def mapSurface (context : Context vocabulary)
    (change : EventSurface vocabulary → EventSurface vocabulary) : Context vocabulary :=
  { context with
    controller := { context.controller with surface := change context.controller.surface } }

def withMind (context : Context vocabulary) (mind : Mind vocabulary) : Context vocabulary :=
  { context with controller := { context.controller with mind } }

def standing (context : Context vocabulary) : Standing where
  id := context.controller.id
  name := context.controller.name
  reconsiderNow := context.controller.reconsiderNow

def effect (outcome : Logged (Context vocabulary)) : Logged (Unit × Context vocabulary) := do
  let context ← outcome
  pure ((), context)

def perform (repertoire : Repertoire vocabulary) (context : Context vocabulary) :
    (request : Request vocabulary) → Logged (request.Answer × Context vocabulary)
  | .standing => pure (context.standing, context)
  | .tree => pure (context.controller.tree, context)
  | .mind => pure (context.controller.mind, context)
  | .setMind mind => pure ((), context.withMind mind)
  | .communicate key substitution => effect (context.communicate repertoire key substitution)
  | .surface => pure (context.controller.surface, context)
  | .bind name handler => pure ((), context.mapSurface (·.bind name handler))
  | .unbind name => pure ((), context.mapSurface (·.unbind name))
  | .install set => pure ((), context.mapSurface (·.install set))
  | .pending => pure (context.controller.pending, context)
  | .reconsiderNow => effect context.reconsiderNow
  | .schedule delay => effect (context.schedule delay)
  | .cancel => effect context.cancel
  | .setPriorities tree => effect (context.setPriorities tree)
  | .note record => do
      Logged.report record
      pure ((), context)
  | .fail fault => Journaled.fail fault

def run (repertoire : Repertoire vocabulary) (context : Context vocabulary) :
    Program vocabulary α → Logged (α × Context vocabulary)
  | .pure answer => pure (answer, context)
  | .ask request next => do
      let (answer, context) ← context.perform repertoire request
      context.run repertoire (next answer)

@[simp] theorem run_pure (repertoire : Repertoire vocabulary) (context : Context vocabulary)
    (answer : α) :
    context.run repertoire (pure answer) = pure (answer, context) := rfl

theorem run_bind {β : Type} (repertoire : Repertoire vocabulary) (context : Context vocabulary)
    (program : Program vocabulary α) (next : α → Program vocabulary β) :
    context.run repertoire (program >>= next) =
      context.run repertoire program >>= fun (answer, context) =>
        context.run repertoire (next answer) := by
  induction program generalizing context with
  | pure answer =>
      change context.run repertoire (next answer) =
        (pure (answer, context) : Logged (α × Context vocabulary)) >>= fun (answer, context) =>
          context.run repertoire (next answer)
      rw [pure_bind]
  | ask request rest ih =>
      simp only [Program.ask_bind, run, bind_assoc]
      congr 1
      funext reached
      exact ih reached.1 reached.2

end Context

end PriorityAgents
