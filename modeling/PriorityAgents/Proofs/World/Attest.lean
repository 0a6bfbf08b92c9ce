import PriorityAgents.Proofs.Controller.Attest
import PriorityAgents.Proofs.World.Watch

/-!
Worlds under attestation: a whole play with what agents' own code asks for at each moment of it,
and with a mark where a fired timer is handed to its owner.

Every agent's turn is attested, wherever in a play it comes: in its setup, at the hands of its
host, for an event, in a walk, at its destruction.
-/

set_option autoImplicit false

namespace PriorityAgents

variable {vocabulary : Vocabulary} {α β : Type}

/-- A run of a world under attestation. -/
abbrev Testimony (vocabulary : Vocabulary) (α : Type) : Type := Journaled (Incident vocabulary) α

namespace Testimony

def carry (logged : Logged α) : Testimony vocabulary α :=
  ⟨logged.outcome, logged.journal.map .entered⟩

def unattested (testimony : Testimony vocabulary α) : Logged α :=
  testimony.reading Incident.entry?

theorem unattested_bind (first : Testimony vocabulary α) (next : α → Testimony vocabulary β) :
    (first >>= next).unattested = first.unattested >>= fun answer => (next answer).unattested :=
  Journaled.reading_bind Incident.entry? first next

@[simp] theorem unattested_pure (answer : α) :
    (pure answer : Testimony vocabulary α).unattested = pure answer := rfl

@[simp] theorem unattested_lift (outcome : Except Fault α) :
    (liftM outcome : Testimony vocabulary α).unattested = liftM outcome := rfl

@[simp] theorem unattested_carry (logged : Logged α) :
    (carry logged : Testimony vocabulary α).unattested = logged :=
  Journaled.ext rfl (plain_entered logged.journal)

private theorem unattested_enter (incident : Incident vocabulary)
    (silent : incident.entry? = none) : unattested (Journaled.enter incident) = pure () :=
  Journaled.ext rfl (List.filterMap_cons_none silent)

@[simp] theorem gives_carry {logged : Logged α} {answer : α}
    {history : List (Incident vocabulary)} :
    (carry logged : Testimony vocabulary α).Gives answer history ↔
      ∃ entries, logged.Gives answer entries ∧ history = entries.map .entered := by
  obtain ⟨outcome, journal⟩ := logged
  constructor
  · intro given
    cases given
    exact ⟨journal, rfl, rfl⟩
  · rintro ⟨entries, given, rfl⟩
    cases given
    rfl

end Testimony

namespace Roster

variable (repertoire : Repertoire vocabulary) (now : Tick)

def concluded (event : PendingEvent vocabulary) (handled : Bool) :
    Testimony vocabulary Unit :=
  Testimony.carry ⟨.ok (), (unheard event handled).map Entry.told ++
    [.noticed (.event now event.agent event.name handled)]⟩

def attestedDeliver (roster : Roster vocabulary) (event : PendingEvent vocabulary) :
    Testimony vocabulary (Roster vocabulary) :=
  match roster.context? event.agent with
  | none => do
      concluded now event false
      pure roster
  | some context => do
      let (handled, context) ← repertoire.attestedHandleEvent event.name event.payload context
      concluded now event handled
      pure (roster.keep event.agent context)

theorem unattested_deliver (roster : Roster vocabulary) (event : PendingEvent vocabulary) :
    (roster.attestedDeliver repertoire now event).unattested =
      roster.deliver repertoire now event := by
  unfold attestedDeliver deliver
  cases roster.context? event.agent with
  | none => rfl
  | some context =>
      have heard : Testimony.unattested
          (repertoire.attestedHandleEvent event.name event.payload context) =
            context.handleEvent repertoire event.name event.payload :=
        repertoire.unattested_handleEvent event.name event.payload context
      dsimp only
      rw [Testimony.unattested_bind, heard]
      refine congrArg _ (funext fun reached => ?_)
      obtain ⟨handled, later⟩ := reached
      cases handled <;> rfl

def attestedDeliverAll (roster : Roster vocabulary) :
    List (PendingEvent vocabulary) → Testimony vocabulary (Roster vocabulary)
  | [] => pure roster
  | event :: events => do
      let roster ← roster.attestedDeliver repertoire now event
      roster.attestedDeliverAll events

theorem unattested_deliverAll (roster : Roster vocabulary)
    (events : List (PendingEvent vocabulary)) :
    (roster.attestedDeliverAll repertoire now events).unattested =
      roster.deliverAll repertoire now events := by
  induction events generalizing roster with
  | nil => rfl
  | cons event events ih =>
      unfold attestedDeliverAll deliverAll
      rw [Testimony.unattested_bind, unattested_deliver]
      exact congrArg _ (funext ih)

def attestedRouteAll (roster : Roster vocabulary) :
    List Timer → Testimony vocabulary (Nat × Roster vocabulary)
  | [] => pure (0, roster)
  | timer :: timers =>
      match roster.context? timer.owner with
      | none => roster.attestedRouteAll timers
      | some context => do
          Journaled.enter (.handed context timer)
          let (outcome, context) ← repertoire.attestedOnTimer timer.handle context
          Testimony.carry (Logged.notify (.reconsider now timer.owner outcome))
          let (fired, roster) ← (roster.keep timer.owner context).attestedRouteAll timers
          pure (fired + 1, roster)

private theorem unattested_routeAll (roster : Roster vocabulary) (timers : List Timer) :
    (roster.attestedRouteAll repertoire now timers).unattested =
      roster.routeAll repertoire now timers := by
  induction timers generalizing roster with
  | nil => rfl
  | cons timer timers ih =>
      unfold attestedRouteAll routeAll
      cases roster.context? timer.owner with
      | none => exact ih roster
      | some context =>
          have fired : Testimony.unattested (repertoire.attestedOnTimer timer.handle context) =
              context.onTimer repertoire timer.handle :=
            repertoire.unattested_onTimer timer.handle context
          simp only [Testimony.unattested_bind, Testimony.unattested_carry,
            Testimony.unattested_pure, Testimony.unattested_enter (.handed context timer) rfl,
            pure_bind, fired, ih]

def attestedFire (roster : Roster vocabulary) :
    Testimony vocabulary (Nat × Roster vocabulary) := do
  let (due, timers) ← roster.timers.drain now
  Testimony.carry (Journaled.enter (.drained now))
  { roster with timers }.attestedRouteAll repertoire now due

theorem unattested_fire (roster : Roster vocabulary) :
    (roster.attestedFire repertoire now).unattested = roster.fire repertoire now := by
  unfold attestedFire fire
  simp only [Testimony.unattested_bind, Testimony.unattested_lift, Testimony.unattested_carry,
    unattested_routeAll]

end Roster

namespace World

variable (repertoire : Repertoire vocabulary)

def attestedTick (world : World vocabulary) : Testimony vocabulary (World vocabulary) := do
  let now := world.clock.now
  Testimony.carry (Logged.notify (.tickStart now))
  let roster ← (world.roster.advanceTo now).attestedDeliverAll repertoire now world.events
  let (fired, roster) ← roster.attestedFire repertoire now
  Testimony.carry (Logged.notify (.tickEnd now fired))
  let clock ← world.clock.advance
  pure { world with roster, clock, events := [] }

theorem unattested_tick (world : World vocabulary) :
    (world.attestedTick repertoire).unattested = world.tick repertoire := by
  unfold attestedTick tick
  simp only [Testimony.unattested_bind, Testimony.unattested_carry, Testimony.unattested_pure,
    Testimony.unattested_lift, Roster.unattested_deliverAll, Roster.unattested_fire]

def attestedTicks (world : World vocabulary) : Nat → Testimony vocabulary (World vocabulary)
  | 0 => pure world
  | count + 1 => do
      let world ← world.attestedTick repertoire
      world.attestedTicks count

private theorem unattested_ticks (world : World vocabulary) (count : Nat) :
    (world.attestedTicks repertoire count).unattested = world.ticks repertoire count := by
  induction count generalizing world with
  | zero => rfl
  | succ count ih =>
      unfold attestedTicks ticks
      rw [Testimony.unattested_bind, unattested_tick]
      exact congrArg _ (funext ih)

def attestedToEnd (world : World vocabulary) : Testimony vocabulary (World vocabulary) := do
  let later ← world.attestedTicks repertoire (world.config.endTick.index - world.clock.now.index)
  Testimony.carry (Logged.notify (.runEnd later.clock.now))
  pure later

theorem unattested_toEnd (world : World vocabulary) :
    (world.attestedToEnd repertoire).unattested = world.toEnd repertoire := by
  rw [toEnd_eq_ticks]
  unfold attestedToEnd
  simp only [Testimony.unattested_bind, Testimony.unattested_carry, Testimony.unattested_pure,
    unattested_ticks]

def attestedSpawn (world : World vocabulary) (agent : vocabulary.State) (name : String)
    (setup : Program vocabulary Unit) : Testimony vocabulary (World vocabulary) :=
  match agentIdFor world.roster.controllers.size with
  | .error _ => pure world
  | .ok id => do
      let ((), context) ← repertoire.attest .call setup (world.newcomer id agent name)
      Testimony.carry (context.report .debug "agent spawned" [("ai", context.controller.name)])
      pure { world with roster := (world.roster.advanceTo world.clock.now).enlist context }

theorem unattested_spawn (world : World vocabulary) (agent : vocabulary.State) (name : String)
    (setup : Program vocabulary Unit) :
    (world.attestedSpawn repertoire agent name setup).unattested =
      world.after <$> world.spawn repertoire agent name setup := by
  unfold attestedSpawn spawn
  cases agentIdFor world.roster.controllers.size with
  | error cause => rfl
  | ok id =>
      have set : Testimony.unattested
          (repertoire.attest .call setup (world.newcomer id agent name)) =
            (world.newcomer id agent name).run repertoire setup :=
        repertoire.unattested_attest .call setup _
      simp only [Testimony.unattested_bind, Testimony.unattested_carry,
        Testimony.unattested_pure, set, map_bind, map_pure]
      rfl

def attestedWithAgent (world : World vocabulary) (agent : AgentId)
    (program : Program vocabulary α) : Testimony vocabulary (World vocabulary) :=
  match (world.roster.advanceTo world.clock.now).context? agent with
  | none => pure world
  | some context => do
      let (_, context) ← repertoire.attest .call program context
      pure { world with roster := world.roster.keep agent context }

theorem unattested_withAgent (world : World vocabulary) (agent : AgentId)
    (program : Program vocabulary α) :
    (world.attestedWithAgent repertoire agent program).unattested =
      world.after <$> world.withAgent repertoire agent program := by
  unfold attestedWithAgent withAgent
  cases (world.roster.advanceTo world.clock.now).context? agent with
  | none => rfl
  | some context =>
      have ran : Testimony.unattested (repertoire.attest .call program context) =
          context.run repertoire program := repertoire.unattested_attest .call program context
      simp only [Testimony.unattested_bind, Testimony.unattested_pure, ran, map_bind, map_pure]
      rfl

def attestedDestroy (world : World vocabulary) (agent : AgentId) (payload : vocabulary.Payload) :
    Testimony vocabulary (World vocabulary) :=
  match world.roster.context? agent with
  | none => pure world
  | some context => do
      let (_, context) ← repertoire.attestedHandleEvent .entityDestroyed payload context
      let ((), context) ← Attested.teardown context
      Testimony.carry (Journaled.enter (.destroyed agent context.controller.name))
      pure { world with roster := world.roster.discharge agent context.timers }

theorem unattested_destroy (world : World vocabulary) (agent : AgentId)
    (payload : vocabulary.Payload) :
    (world.attestedDestroy repertoire agent payload).unattested =
      world.after <$> world.destroy repertoire agent payload := by
  unfold attestedDestroy destroy
  cases world.roster.context? agent with
  | none => rfl
  | some context =>
      have told : Testimony.unattested
          (repertoire.attestedHandleEvent .entityDestroyed payload context) =
            context.handleEvent repertoire .entityDestroyed payload :=
        repertoire.unattested_handleEvent .entityDestroyed payload context
      have torn (context : Context vocabulary) : Testimony.unattested
          (Attested.teardown context) = context.teardown >>= fun later => pure ((), later) :=
        Attested.unattested_teardown context
      simp only [Testimony.unattested_bind, Testimony.unattested_carry,
        Testimony.unattested_pure, told, torn, bind_assoc, pure_bind, map_bind, map_pure]
      rfl

def attestedObey (world : World vocabulary) :
    Call vocabulary → Testimony vocabulary (World vocabulary)
  | .spawn agent name setup => world.attestedSpawn repertoire agent name setup
  | .spawnWithTree agent name tree =>
      world.attestedSpawn repertoire agent name (Program.request (.setPriorities tree))
  | .withAgent agent program => world.attestedWithAgent repertoire agent program
  | .post agent name payload =>
      pure (world.after ((world.post agent name payload).map fun later => ((), later)))
  | .destroy agent payload => world.attestedDestroy repertoire agent payload
  | .run => world.attestedToEnd repertoire
  | .runTicks count => world.attestedTicks repertoire count

theorem unattested_obey (world : World vocabulary) (call : Call vocabulary) :
    (world.attestedObey repertoire call).unattested = world.obey repertoire call := by
  cases call with
  | spawn agent name setup => exact unattested_spawn repertoire world agent name setup
  | spawnWithTree agent name tree => exact unattested_spawn repertoire world agent name _
  | withAgent agent program => exact unattested_withAgent repertoire world agent program
  | post agent name payload => rfl
  | destroy agent payload => exact unattested_destroy repertoire world agent payload
  | run =>
      change (world.attestedToEnd repertoire).unattested =
        Prod.snd <$> (world.toEnd repertoire).observed
      rw [unattested_toEnd, snd_observed]
  | runTicks count =>
      change (world.attestedTicks repertoire count).unattested =
        Prod.snd <$> (world.ticks repertoire count).observed
      rw [unattested_ticks, snd_observed]

def attestedPlay (world : World vocabulary) :
    List (Call vocabulary) → Testimony vocabulary (World vocabulary)
  | [] => pure world
  | call :: calls => do
      let later ← world.attestedObey repertoire call
      later.attestedPlay calls

theorem unattested_play (world : World vocabulary) (calls : List (Call vocabulary)) :
    (world.attestedPlay repertoire calls).unattested = world.play repertoire calls := by
  induction calls generalizing world with
  | nil => rfl
  | cons call calls ih =>
      unfold attestedPlay play
      rw [Testimony.unattested_bind, unattested_obey]
      exact congrArg _ (funext ih)

end World

end PriorityAgents
