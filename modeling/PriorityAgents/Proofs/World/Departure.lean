import PriorityAgents.Proofs.World.Absence
import PriorityAgents.Proofs.World.Settlement

/-!
How an agent leaves a world.

The agent hears of it once, by whatever is bound to that event at this moment, and may do there
what it likes: ask for a reconsideration, change its tree or put another set of handlers in place.
What it holds after that is given back, so nothing of its own is left behind, and nothing of the
others is touched.
-/

set_option autoImplicit false

namespace PriorityAgents

variable {vocabulary : Vocabulary} {repertoire : Repertoire vocabulary} {journal : List Entry}

namespace Context

variable {context told later : Context vocabulary} {name : EventName}
  {payload : vocabulary.Payload}

/-- What an event does to its agent: whatever is bound to its name runs once, on the payload of the
event, and nothing else does. -/
inductive Hears (repertoire : Repertoire vocabulary) (name : EventName)
    (payload : vocabulary.Payload) (context : Context vocabulary) :
    Context vocabulary → List Entry → Prop
  | deaf (unbound : context.controller.surface.handler? name = none) :
      Hears repertoire name payload context context []
  | answering {handler : Handler vocabulary} {told : Context vocabulary} {work : List Entry}
      (bound : context.controller.surface.handler? name = some handler)
      (ran : (context.run repertoire (repertoire.handle handler payload)).Gives ((), told) work) :
      Hears repertoire name payload context told work

private theorem Hears.works (hears : Hears repertoire name payload context told journal) :
    context.Works told journal := by
  cases hears with
  | deaf unbound => exact .refl context
  | answering bound ran => exact .run ran

private theorem handleEvent_cases (repertoire : Repertoire vocabulary) (name : EventName)
    (payload : vocabulary.Payload) (context : Context vocabulary) :
    (∃ handler fault, context.controller.surface.handler? name = some handler ∧
        (context.run repertoire (repertoire.handle handler payload)).outcome = .error fault ∧
        (context.handleEvent repertoire name payload).outcome = .error fault) ∨
      ∃ handled told work, Hears repertoire name payload context told work ∧
        (context.handleEvent repertoire name payload).Gives (handled, told) work := by
  unfold handleEvent
  cases bound : context.controller.surface.handler? name with
  | none => exact .inr ⟨false, context, [], .deaf bound, Journaled.gives_pure.mpr ⟨rfl, rfl⟩⟩
  | some handler =>
      cases ended : (context.run repertoire (repertoire.handle handler payload)).outcome with
      | error fault =>
          refine .inl ⟨handler, fault, rfl, ended, ?_⟩
          rw [Journaled.outcome_bind, ended]
          rfl
      | ok reached =>
          have ran := Journaled.gives_of_outcome ended
          exact .inr ⟨true, reached.2, _, .answering bound ran,
            Journaled.gives_bind.mpr ⟨reached, _, [], ran, Journaled.gives_pure.mpr ⟨rfl, rfl⟩,
              (List.append_nil _).symm⟩⟩

/-- A context that has given back its pending timer and the bindings of its current set. -/
def released (context : Context vocabulary) : Context vocabulary where
  controller :=
    { context.controller with
      surface := context.controller.surface.uninstall
      scheduler := .idle }
  timers := context.controller.scheduler.release context.timers

def releaseEntries (context : Context vocabulary) : List Entry :=
  context.controller.scheduler.disarmings context.timers ++
    if context.controller.scheduler.isPending then [.withdrawn context.controller.id] else []

theorem gives_teardown :
    context.teardown.Gives later journal ↔
      later = context.released ∧ journal = context.releaseEntries := by
  simp only [teardown, Journaled.gives_bind, gives_cancel, Journaled.gives_pure]
  constructor
  · intro given
    rcases given with ⟨_, _, _, ⟨rfl, rfl⟩, ⟨rfl, rfl⟩, rfl⟩
    exact ⟨rfl, List.append_nil _⟩
  · intro given
    rcases given with ⟨rfl, rfl⟩
    exact ⟨_, _, [], ⟨rfl, rfl⟩, ⟨rfl, rfl⟩, (List.append_nil _).symm⟩

end Context

namespace World

variable {world later : World vocabulary} {agent : AgentId} {context told : Context vocabulary}
  {payload : vocabulary.Payload} {returned : Controller vocabulary} {issued : Nat}
  {docket : Docket} {work : List Entry}

def farewell (agent : AgentId) (told : Context vocabulary) : List Entry :=
  told.releaseEntries ++ [.destroyed agent told.controller.name]

private theorem destroy_cases (repertoire : Repertoire vocabulary) (payload : vocabulary.Payload)
    (found : world.roster.context? agent = some context) :
    (∃ handler fault, context.controller.surface.handler? .entityDestroyed = some handler ∧
        (context.run repertoire (repertoire.handle handler payload)).outcome = .error fault ∧
        (world.destroy repertoire agent payload).outcome = .error fault) ∨
      ∃ told work, context.Hears repertoire .entityDestroyed payload told work ∧
        (world.destroy repertoire agent payload).Gives
          (.ok (told.released.controller,
            { world with roster := world.roster.discharge agent told.released.timers }))
          (work ++ farewell agent told) := by
  rcases context.handleEvent_cases repertoire .entityDestroyed payload with
    ⟨handler, fault, bound, failed, abandoned⟩ | ⟨handled, told, work, hears, ran⟩
  · refine .inl ⟨handler, fault, bound, failed, ?_⟩
    unfold destroy
    rw [found, Journaled.outcome_bind, abandoned]
    rfl
  · refine .inr ⟨told, work, hears, gives_destroy.mpr ?_⟩
    rw [found]
    exact ⟨handled, told, told.released, work, told.releaseEntries, ran,
      Context.gives_teardown.mpr ⟨rfl, rfl⟩, rfl, (List.append_assoc _ _ _).symm⟩

/-- An agent has been taken out of a world: what its controller comes back as, after what it was
told, and what the world is without it. -/
structure Departed (agent : AgentId) (world : World vocabulary) (told : Context vocabulary)
    (returned : Controller vocabulary) (later : World vocabulary) : Prop where
  idle : returned.pending = none
  inactive : ∀ name, returned.surface.isActive name = false
  /-- Names that were active are unbound, and all others are bound as they were. -/
  bindings : ∀ name, returned.surface.handler? name =
    if told.controller.surface.isActive name then none else told.controller.surface.handler? name
  gone : later.controller? agent = none
  others : ∀ other, other ≠ agent → later.controller? other = world.controller? other
  /-- The armed timers are those there were, but the agent's own, in the same order. -/
  armed : later.armed = world.armed.filter (·.owner ≠ agent)
  indexed : ∀ handle due, later.roster.timers.dueTick? handle = some due ↔
    ∃ timer ∈ later.armed, timer.handle = handle ∧ timer.due = due
  standing : later.timersNow = world.timersNow ∧ later.clock = world.clock
  events : later.events = world.events

private theorem Keeps.departed (keeps : world.Keeps issued docket)
    (found : world.roster.context? agent = some context)
    (hears : context.Hears repertoire .entityDestroyed payload told work)
    (left : (world.destroy repertoire agent payload).Gives (.ok (returned, later))
      (work ++ farewell agent told))
    (same : returned = told.released.controller ∧
      later = { world with roster := world.roster.discharge agent told.released.timers })
    (room : issued + (work ++ farewell agent told).countP Entry.isArming ≤ 2 ^ 32 - 1) :
    Departed agent world told returned later := by
  obtain ⟨rfl, rfl⟩ := same
  have works : context.Works told.released (work ++ told.releaseEntries) :=
    hears.works.trans (.teardown (Context.gives_teardown.mpr ⟨rfl, rfl⟩))
  obtain ⟨occupied, sameTimers⟩ := Roster.context?_eq_some.mp found
  have id : context.controller.id = agent :=
    AgentId.ext (keeps.slots (Roster.controller?_eq_some.mp occupied))
  have struck : (docket.read (work ++ farewell agent told)).timers = docket.others agent := by
    have others := (docket.read_own works.own).2
    rw [id] at others
    rw [farewell, ← List.append_assoc, Docket.read_append]
    exact others
  have before := keeps.roster.holds.of_advanceTo
  have after := (keeps.destroy left room).1.roster.holds.of_advanceTo
  rw [struck] at after
  refine
    { idle := rfl
      inactive := told.controller.surface.isActive_uninstall
      bindings := told.controller.surface.handler?_uninstall
      gone := ?_
      others := ?_
      armed := ?_
      indexed := ?_
      standing := ⟨?_, rfl⟩
      events := rfl }
  · exact (world.roster.controller?_discharge ..).trans (if_pos rfl)
  · intro other foreign
    exact (world.roster.controller?_discharge ..).trans (if_neg foreign)
  · exact after.timers_eq.trans ((Timer.inDueOrder_filter _ _).trans
      (congrArg (List.filter _) before.timers_eq.symm))
  · intro handle due
    refine after.dueTick?_eq_some.trans (exists_congr fun timer => and_congr_left fun _ => ?_)
    exact after.mem_timers.symm
  · exact congrArg Clock.now (works.clock.trans (congrArg TimerQueue.clock sameTimers))

/-- However a world was reached and whatever the agent's handler does, to take a live agent out
fails only if that handler fails. Otherwise the handler that is bound, if any, runs once, all that
the agent holds is given back, nothing of the others changes, and the agent never comes back. -/
theorem departed_of_play {config : Config} {reconsiderNow : Option Span} {start : World vocabulary}
    {calls : List (Call vocabulary)} {controller : Controller vocabulary}
    (created : World.create config reconsiderNow = .ok start)
    (played : (start.play repertoire calls).outcome = .ok world)
    (live : world.controller? agent = some controller)
    (few : (start.play repertoire calls).armings +
      (world.destroy repertoire agent payload).armings ≤ 2 ^ 32 - 1) :
    let context : Context vocabulary := { controller, timers := world.roster.timers }
    (∃ handler fault, controller.surface.handler? .entityDestroyed = some handler ∧
        (context.run repertoire (repertoire.handle handler payload)).outcome = .error fault ∧
        (world.destroy repertoire agent payload).outcome = .error fault) ∨
      ∃ told work returned later, context.Hears repertoire .entityDestroyed payload told work ∧
        (world.destroy repertoire agent payload).Gives (.ok (returned, later))
          (work ++ farewell agent told) ∧
        Departed agent world told returned later ∧
        ∀ acts final journal, (later.undergoAll repertoire acts).Gives final journal →
          final.controller? agent = none ∧
            ∀ tick outcome, .noticed (.reconsider tick agent outcome) ∉ journal := by
  intro context
  have found : world.roster.context? agent = some context :=
    Roster.context?_eq_some.mpr ⟨live, rfl⟩
  rcases destroy_cases repertoire payload found with failed | ⟨told, work, hears, left⟩
  · exact .inl failed
  · have begun := (keeps_of_create created).1
    have keeps := (begun.play (Journaled.gives_of_outcome played) (by
      unfold Logged.armings at few
      omega)).1
    have departed := keeps.departed found hears left ⟨rfl, rfl⟩ (by
      unfold Logged.armings at few
      rw [left.journal_eq] at few
      omega)
    refine .inr ⟨told, work, _, _, hears, left, departed, ?_⟩
    intro acts final journal underwent
    have vacant : (world.roster.discharge agent told.released.timers).Vacant agent :=
      (Roster.vacant_discharge live _).mpr (.inr rfl)
    have absent := absent_of_undergoAll vacant underwent
    refine ⟨Roster.controller?_of_vacant absent.vacant, ?_⟩
    intro tick outcome member
    exact absent.quiet _ member rfl

/-- Two ships patrol, and one of them is attacked and fights back. It is taken out while its next
reconsideration is pending and the handlers of the fight are in place; the other one sails on. -/
theorem departed_of_play_patrol :
    let ada : AgentId := ⟨0, by decide⟩
    let grace : AgentId := ⟨1, by decide⟩
    let calls : List (Call Patrol.ships) :=
      [.spawn (.fresh "Ada") "patrol" Patrol.start, .spawn (.fresh "Grace") "patrol" Patrol.start,
        .runTicks 2, .post ada Patrol.shipBeingAttacked ⟨"Krait", 45⟩, .runTicks 1]
    ∃ start world returned later, World.create .standard none = .ok start ∧
      (start.play Patrol.repertoire calls).outcome = .ok world ∧
      world.armed.map (·.owner) = [ada, grace] ∧
      (world.destroy Patrol.repertoire ada ⟨"Krait", 100⟩).outcome = .ok (.ok (returned, later)) ∧
      returned.pending = none ∧ later.armed = world.armed.filter (·.owner ≠ ada) := by
  intro ada grace calls
  obtain ⟨start, created, rest⟩ : ∃ start, World.create .standard none = .ok start ∧
      ((start.play Patrol.repertoire calls).outcome.toOption.any fun world =>
        decide ((start.play Patrol.repertoire calls).armings +
            (world.destroy Patrol.repertoire ada ⟨"Krait", 100⟩).armings ≤ 2 ^ 32 - 1 ∧
          world.armed.map (·.owner) = [ada, grace]) &&
        (world.controller? ada).isSome &&
        (world.destroy Patrol.repertoire ada ⟨"Krait", 100⟩).outcome.toOption.isSome) = true :=
    exists_ok (by decide +kernel)
  obtain ⟨world, played, facts⟩ := exists_ok rest
  simp only [Bool.and_eq_true, decide_eq_true_eq] at facts
  obtain ⟨⟨⟨few, owners⟩, occupied⟩, ends⟩ := facts
  obtain ⟨controller, live⟩ := Option.isSome_iff_exists.mp occupied
  rcases departed_of_play created played live few with
    ⟨_, fault, _, _, failed⟩ | ⟨told, work, returned, later, _, left, departed, _⟩
  · rw [failed] at ends
    cases ends
  · exact ⟨start, world, returned, later, created, played, owners, left.outcome, departed.idle,
      departed.armed⟩

end World

end PriorityAgents
