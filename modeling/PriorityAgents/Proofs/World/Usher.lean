import PriorityAgents.Proofs.Controller.Usher
import PriorityAgents.Proofs.World.Watch

/-!
Worlds with an usher: a whole play in which every turn of an agent is taken as the usher has it.

The play that is left once the rest of the account is passed over is the play without an usher. And
whatever agents keep up from turn to turn they keep up in every play, wherever it is abandoned, for
nothing but its own turns has a hand in an agent.
-/

set_option autoImplicit false

namespace PriorityAgents

variable {vocabulary : Vocabulary} {ε α : Type}

namespace Roster

def conclusion (now : Tick) (event : PendingEvent vocabulary) (handled : Bool) : Logged Unit :=
  ⟨.ok (), (unheard event handled).map Entry.told ++
    [.noticed (.event now event.agent event.name handled)]⟩

variable (usher : Usher vocabulary ε) (now : Tick)

def deliverBy (roster : Roster vocabulary) (event : PendingEvent vocabulary) :
    Journaled ε (Roster vocabulary) :=
  match roster.context? event.agent with
  | none => do
      usher.carry (conclusion now event false)
      pure roster
  | some context => do
      let (handled, context) ← usher.event event.name event.payload context
      usher.carry (conclusion now event handled)
      pure (roster.keep event.agent context)

def deliverAllBy (roster : Roster vocabulary) :
    List (PendingEvent vocabulary) → Journaled ε (Roster vocabulary)
  | [] => pure roster
  | event :: events => do
      let roster ← roster.deliverBy usher now event
      roster.deliverAllBy events

def routeAllBy (roster : Roster vocabulary) :
    List Timer → Journaled ε (Nat × Roster vocabulary)
  | [] => pure (0, roster)
  | timer :: timers =>
      match roster.context? timer.owner with
      | none => roster.routeAllBy timers
      | some context => do
          let (outcome, context) ← usher.timer timer.handle context
          usher.carry (Logged.notify (.reconsider now timer.owner outcome))
          let (fired, roster) ← (roster.keep timer.owner context).routeAllBy timers
          pure (fired + 1, roster)

def fireBy (roster : Roster vocabulary) : Journaled ε (Nat × Roster vocabulary) := do
  let (due, timers) ← roster.timers.drain now
  usher.carry (Journaled.enter (.drained now))
  { roster with timers }.routeAllBy usher now due

end Roster

namespace World

variable (usher : Usher vocabulary ε)

def tickBy (world : World vocabulary) : Journaled ε (World vocabulary) := do
  let now := world.clock.now
  usher.carry (Logged.notify (.tickStart now))
  let roster ← (world.roster.advanceTo now).deliverAllBy usher now world.events
  let (fired, roster) ← roster.fireBy usher now
  usher.carry (Logged.notify (.tickEnd now fired))
  let clock ← world.clock.advance
  pure { world with roster, clock, events := [] }

def ticksBy (world : World vocabulary) : Nat → Journaled ε (World vocabulary)
  | 0 => pure world
  | count + 1 => do
      let world ← world.tickBy usher
      world.ticksBy count

def toEndBy (world : World vocabulary) : Journaled ε (World vocabulary) := do
  let later ← world.ticksBy usher (world.config.endTick.index - world.clock.now.index)
  usher.carry (Logged.notify (.runEnd later.clock.now))
  pure later

def spawnBy (world : World vocabulary) (agent : vocabulary.State) (name : String)
    (setup : Program vocabulary Unit) : Journaled ε (World vocabulary) :=
  match agentIdFor world.roster.controllers.size with
  | .error _ => pure world
  | .ok id => do
      let ((), context) ← usher.call setup (world.newcomer id agent name)
      usher.carry (context.report .debug "agent spawned" [("ai", context.controller.name)])
      pure { world with roster := (world.roster.advanceTo world.clock.now).enlist context }

def withAgentBy (world : World vocabulary) (agent : AgentId) (program : Program vocabulary α) :
    Journaled ε (World vocabulary) :=
  match (world.roster.advanceTo world.clock.now).context? agent with
  | none => pure world
  | some context => do
      let (_, context) ← usher.call program context
      pure { world with roster := world.roster.keep agent context }

def destroyBy (world : World vocabulary) (agent : AgentId) (payload : vocabulary.Payload) :
    Journaled ε (World vocabulary) :=
  match world.roster.context? agent with
  | none => pure world
  | some context => do
      let (_, context) ← usher.event .entityDestroyed payload context
      let context ← usher.teardown context
      usher.carry (Journaled.enter (.destroyed agent context.controller.name))
      pure { world with roster := world.roster.discharge agent context.timers }

def obeyBy (world : World vocabulary) : Call vocabulary → Journaled ε (World vocabulary)
  | .spawn agent name setup => world.spawnBy usher agent name setup
  | .spawnWithTree agent name tree =>
      world.spawnBy usher agent name (Program.request (.setPriorities tree))
  | .withAgent agent program => world.withAgentBy usher agent program
  | .post agent name payload =>
      pure (world.after ((world.post agent name payload).map fun later => ((), later)))
  | .destroy agent payload => world.destroyBy usher agent payload
  | .run => world.toEndBy usher
  | .runTicks count => world.ticksBy usher count

def playBy (world : World vocabulary) : List (Call vocabulary) → Journaled ε (World vocabulary)
  | [] => pure world
  | call :: calls => do
      let later ← world.obeyBy usher call
      later.playBy calls

end World

/-! ### What is left without the usher -/

namespace Usher.Follows

open Journaled

variable {usher : Usher vocabulary ε} {repertoire : Repertoire vocabulary}
  {select : ε → Option Entry}

private theorem reading_pure (answer : α) :
    (pure answer : Journaled ε α).reading select = pure answer := rfl

private theorem reading_lift (outcome : Except Fault α) :
    (liftM outcome : Journaled ε α).reading select = liftM outcome := rfl

private theorem deliver (follows : usher.Follows repertoire select) (now : Tick)
    (roster : Roster vocabulary) (event : PendingEvent vocabulary) :
    (roster.deliverBy usher now event).reading select = roster.deliver repertoire now event := by
  unfold Roster.deliverBy Roster.deliver
  cases roster.context? event.agent with
  | none =>
      dsimp only
      rw [reading_bind, follows.carry]
      rfl
  | some context =>
      dsimp only
      rw [reading_bind, follows.event]
      refine congrArg _ (funext fun reached => ?_)
      rw [reading_bind, follows.carry]
      obtain ⟨handled, later⟩ := reached
      cases handled <;> rfl

private theorem deliverAll (follows : usher.Follows repertoire select) (now : Tick)
    (roster : Roster vocabulary) (events : List (PendingEvent vocabulary)) :
    (roster.deliverAllBy usher now events).reading select =
      roster.deliverAll repertoire now events := by
  induction events generalizing roster with
  | nil => rfl
  | cons event events ih =>
      unfold Roster.deliverAllBy Roster.deliverAll
      rw [reading_bind, follows.deliver]
      exact congrArg _ (funext ih)

private theorem routeAll (follows : usher.Follows repertoire select) (now : Tick)
    (roster : Roster vocabulary) (timers : List Timer) :
    (roster.routeAllBy usher now timers).reading select =
      roster.routeAll repertoire now timers := by
  induction timers generalizing roster with
  | nil => rfl
  | cons timer timers ih =>
      unfold Roster.routeAllBy Roster.routeAll
      cases roster.context? timer.owner with
      | none => exact ih roster
      | some context =>
          simp only [reading_bind, reading_pure, follows.carry, follows.timer, ih]

private theorem fire (follows : usher.Follows repertoire select) (now : Tick)
    (roster : Roster vocabulary) :
    (roster.fireBy usher now).reading select = roster.fire repertoire now := by
  unfold Roster.fireBy Roster.fire
  simp only [reading_bind, reading_lift, follows.carry, follows.routeAll]

private theorem tick (follows : usher.Follows repertoire select) (world : World vocabulary) :
    (world.tickBy usher).reading select = world.tick repertoire := by
  unfold World.tickBy World.tick
  simp only [reading_bind, reading_pure, reading_lift, follows.carry, follows.deliverAll,
    follows.fire]

theorem ticks (follows : usher.Follows repertoire select) (world : World vocabulary)
    (count : Nat) : (world.ticksBy usher count).reading select = world.ticks repertoire count := by
  induction count generalizing world with
  | zero => rfl
  | succ count ih =>
      unfold World.ticksBy World.ticks
      rw [reading_bind, follows.tick]
      exact congrArg _ (funext ih)

private theorem toEnd (follows : usher.Follows repertoire select) (world : World vocabulary) :
    (world.toEndBy usher).reading select = world.toEnd repertoire := by
  rw [World.toEnd_eq_ticks]
  unfold World.toEndBy
  simp only [reading_bind, reading_pure, follows.carry, follows.ticks]

private theorem spawn (follows : usher.Follows repertoire select) (world : World vocabulary)
    (agent : vocabulary.State) (name : String) (setup : Program vocabulary Unit) :
    (world.spawnBy usher agent name setup).reading select =
      world.after <$> world.spawn repertoire agent name setup := by
  unfold World.spawnBy World.spawn
  cases World.agentIdFor world.roster.controllers.size with
  | error cause => rfl
  | ok id =>
      simp only [reading_bind, reading_pure, follows.carry, follows.call, map_bind, map_pure]
      rfl

private theorem withAgent (follows : usher.Follows repertoire select) (world : World vocabulary)
    (agent : AgentId) (program : Program vocabulary α) :
    (world.withAgentBy usher agent program).reading select =
      world.after <$> world.withAgent repertoire agent program := by
  unfold World.withAgentBy World.withAgent
  cases (world.roster.advanceTo world.clock.now).context? agent with
  | none => rfl
  | some context =>
      simp only [reading_bind, reading_pure, follows.call, map_bind, map_pure]
      rfl

private theorem destroy (follows : usher.Follows repertoire select) (world : World vocabulary)
    (agent : AgentId) (payload : vocabulary.Payload) :
    (world.destroyBy usher agent payload).reading select =
      world.after <$> world.destroy repertoire agent payload := by
  unfold World.destroyBy World.destroy
  cases world.roster.context? agent with
  | none => rfl
  | some context =>
      simp only [reading_bind, reading_pure, follows.carry, follows.event, follows.teardown,
        map_bind, map_pure]
      rfl

theorem obey (follows : usher.Follows repertoire select) (world : World vocabulary)
    (call : Call vocabulary) :
    (world.obeyBy usher call).reading select = world.obey repertoire call := by
  cases call with
  | spawn agent name setup => exact follows.spawn world agent name setup
  | spawnWithTree agent name tree => exact follows.spawn world agent name _
  | withAgent agent program => exact follows.withAgent world agent program
  | post agent name payload => rfl
  | destroy agent payload => exact follows.destroy world agent payload
  | run =>
      change (world.toEndBy usher).reading select =
        Prod.snd <$> (world.toEnd repertoire).observed
      rw [follows.toEnd, World.snd_observed]
  | runTicks count =>
      change (world.ticksBy usher count).reading select =
        Prod.snd <$> (world.ticks repertoire count).observed
      rw [follows.ticks, World.snd_observed]

/-- A play with an usher is the play, once the rest of the account is passed over. -/
theorem play (follows : usher.Follows repertoire select) (world : World vocabulary)
    (calls : List (Call vocabulary)) :
    (world.playBy usher calls).reading select = world.play repertoire calls := by
  induction calls generalizing world with
  | nil => rfl
  | cons call calls ih =>
      unfold World.playBy World.play
      rw [reading_bind, follows.obey]
      exact congrArg _ (funext ih)

end Usher.Follows

end PriorityAgents
