import PriorityAgents.Proofs.Controller.Watch
import PriorityAgents.Proofs.World.Calls

/-!
Worlds under watch: what a host does with a world, with marks where an event is accepted, where a
tick begins and where a fired timer is handed to its owner.

Besides its calls a host has its hands on some of what makes up a world: the settings, the clock,
the timers and the controllers of live agents. It can put other ones in their places, but it has
no way to the queue of events, and an empty slot stays empty.

Marks change nothing: whoever passes them over reads the journal of the world that is not watched.
-/

set_option autoImplicit false

namespace PriorityAgents

variable {vocabulary : Vocabulary} {α : Type}

/-- What a host does with a world between two ticks. -/
inductive HostAct (vocabulary : Vocabulary) : Type 1 where
  | call (call : Call vocabulary)
  | rearrange (config : Config) (clock : Clock) (timers : TimerQueue)
      (change : Nat → Controller vocabulary → Controller vocabulary)

inductive Happening (vocabulary : Vocabulary) where
  | entered (entry : Entry)
  | posted (event : PendingEvent vocabulary)
  | began (world : World vocabulary)
  | handed (context : Context vocabulary) (timer : Timer)

namespace Happening

def entry? : Happening vocabulary → Option Entry
  | .entered entry => some entry
  | _ => none

end Happening

/-- A run of a world under watch. -/
abbrev Witnessed (vocabulary : Vocabulary) (α : Type) : Type := Journaled (Happening vocabulary) α

namespace Witnessed

def carry (logged : Logged α) : Witnessed vocabulary α :=
  ⟨logged.outcome, logged.journal.map .entered⟩

def unwatched (witnessed : Witnessed vocabulary α) : Logged α :=
  witnessed.reading Happening.entry?

theorem unwatched_bind {β : Type} (first : Witnessed vocabulary α)
    (next : α → Witnessed vocabulary β) :
    (first >>= next).unwatched = first.unwatched >>= fun answer => (next answer).unwatched :=
  Journaled.reading_bind Happening.entry? first next

@[simp] theorem unwatched_pure (answer : α) :
    (pure answer : Witnessed vocabulary α).unwatched = pure answer := rfl

@[simp] theorem unwatched_lift (outcome : Except Fault α) :
    (liftM outcome : Witnessed vocabulary α).unwatched = liftM outcome := rfl

private theorem filterMap_entered (entries : List Entry) :
    (entries.map (Happening.entered : Entry → Happening vocabulary)).filterMap
      Happening.entry? = entries := by
  rw [List.filterMap_map]
  exact List.filterMap_some

@[simp] theorem unwatched_carry (logged : Logged α) :
    (carry logged : Witnessed vocabulary α).unwatched = logged :=
  Journaled.ext rfl (filterMap_entered logged.journal)

private theorem unwatched_enter (mark : Happening vocabulary) (silent : mark.entry? = none) :
    unwatched (Journaled.enter mark) = pure () :=
  Journaled.ext rfl (List.filterMap_cons_none silent)

@[simp] theorem gives_carry {logged : Logged α} {answer : α}
    {history : List (Happening vocabulary)} :
    (carry logged : Witnessed vocabulary α).Gives answer history ↔
      ∃ entries, logged.Gives answer entries ∧ history = entries.map .entered := by
  obtain ⟨outcome, journal⟩ := logged
  constructor
  · intro given
    cases given
    exact ⟨journal, rfl, rfl⟩
  · intro given
    rcases given with ⟨entries, given, rfl⟩
    cases given
    rfl

end Witnessed

namespace Happening

def armings (history : List (Happening vocabulary)) : Nat :=
  (history.filterMap Happening.entry?).countP Entry.isArming

theorem armings_append (first second : List (Happening vocabulary)) :
    armings (first ++ second) = armings first + armings second := by
  unfold armings
  rw [List.filterMap_append, List.countP_append]

theorem armings_entries (entries : List Entry) :
    armings (entries.map (Happening.entered : Entry → Happening vocabulary)) =
      entries.countP Entry.isArming := by
  unfold armings
  rw [Witnessed.filterMap_entered]

theorem armings_cons_idle {happening : Happening vocabulary}
    (idle : happening.entry?.any Entry.isArming = false) (history : List (Happening vocabulary)) :
    armings (happening :: history) = armings history := by
  unfold armings
  cases entered : happening.entry? with
  | none => rw [List.filterMap_cons_none entered]
  | some entry =>
      rw [entered] at idle
      have passed : ¬entry.isArming = true := Bool.eq_false_iff.mp idle
      rw [List.filterMap_cons_some entered, List.countP_cons_of_neg passed]

end Happening

namespace Roster

def watchedRouteAll (repertoire : Repertoire vocabulary) (now : Tick)
    (roster : Roster vocabulary) : List Timer → Witnessed vocabulary (Nat × Roster vocabulary)
  | [] => pure (0, roster)
  | timer :: timers =>
      match roster.context? timer.owner with
      | none => roster.watchedRouteAll repertoire now timers
      | some context => do
          Journaled.enter (.handed context timer)
          let (outcome, context) ← Witnessed.carry (context.onTimer repertoire timer.handle)
          Witnessed.carry (Logged.notify (.reconsider now timer.owner outcome))
          let (fired, roster) ←
            (roster.keep timer.owner context).watchedRouteAll repertoire now timers
          pure (fired + 1, roster)

private theorem unwatched_routeAll (repertoire : Repertoire vocabulary) (now : Tick)
    (roster : Roster vocabulary) (timers : List Timer) :
    (roster.watchedRouteAll repertoire now timers).unwatched =
      roster.routeAll repertoire now timers := by
  induction timers generalizing roster with
  | nil => rfl
  | cons timer timers ih =>
      unfold watchedRouteAll routeAll
      cases roster.context? timer.owner with
      | none => exact ih roster
      | some context =>
          simp only [Witnessed.unwatched_bind, Witnessed.unwatched_carry, Witnessed.unwatched_pure,
            Witnessed.unwatched_enter (.handed context timer) rfl, pure_bind, ih]

theorem gives_watchedRouteAll_cons {repertoire : Repertoire vocabulary} {now : Tick}
    {roster later : Roster vocabulary} {timer : Timer} {timers : List Timer} {fired : Nat}
    {context : Context vocabulary} {history : List (Happening vocabulary)}
    (found : roster.context? timer.owner = some context) :
    (roster.watchedRouteAll repertoire now (timer :: timers)).Gives (fired, later) history ↔
      ∃ outcome done entries others rest,
        (context.onTimer repertoire timer.handle).Gives (outcome, done) entries ∧
        ((roster.keep timer.owner done).watchedRouteAll repertoire now timers).Gives
          (others, later) rest ∧
        fired = others + 1 ∧
        history = .handed context timer :: (entries.map .entered ++
          .entered (.noticed (.reconsider now timer.owner outcome)) :: rest) := by
  simp only [watchedRouteAll, found, Journaled.gives_bind, Journaled.gives_enter,
    Witnessed.gives_carry, Logged.gives_notify, Journaled.gives_pure, Prod.exists, Prod.mk.injEq]
  constructor
  · intro given
    rcases given with ⟨_, _, _, rfl, ⟨outcome, done, _, _, ⟨entries, ran, rfl⟩, ⟨_, _, _,
      ⟨_, rfl, rfl⟩, ⟨others, _, rest, _, routed, ⟨⟨rfl, rfl⟩, rfl⟩, rfl⟩, rfl⟩, rfl⟩, rfl⟩
    refine ⟨outcome, done, entries, others, rest, ran, routed, rfl, ?_⟩
    rw [List.append_nil]
    rfl
  · intro given
    rcases given with ⟨outcome, done, entries, others, rest, ran, routed, rfl, rfl⟩
    refine ⟨(), _, _, rfl, ⟨outcome, done, _, _, ⟨entries, ran, rfl⟩, ⟨(), _, _, ⟨_, rfl, rfl⟩,
      ⟨others, later, rest, _, routed, ⟨⟨rfl, rfl⟩, rfl⟩, rfl⟩, rfl⟩, rfl⟩, ?_⟩
    rw [List.append_nil]
    rfl

def watchedFire (repertoire : Repertoire vocabulary) (now : Tick) (roster : Roster vocabulary) :
    Witnessed vocabulary (Nat × Roster vocabulary) := do
  let (due, timers) ← roster.timers.drain now
  Witnessed.carry (Journaled.enter (.drained now))
  { roster with timers }.watchedRouteAll repertoire now due

private theorem unwatched_fire (repertoire : Repertoire vocabulary) (now : Tick)
    (roster : Roster vocabulary) :
    (roster.watchedFire repertoire now).unwatched = roster.fire repertoire now := by
  unfold watchedFire fire
  simp only [Witnessed.unwatched_bind, Witnessed.unwatched_lift, Witnessed.unwatched_carry,
    unwatched_routeAll]

theorem gives_watchedFire {repertoire : Repertoire vocabulary} {now : Tick}
    {roster later : Roster vocabulary} {fired : Nat} {history : List (Happening vocabulary)} :
    (roster.watchedFire repertoire now).Gives (fired, later) history ↔
      ∃ due timers routing, roster.timers.drain now = .ok (due, timers) ∧
        (watchedRouteAll repertoire now { roster with timers } due).Gives (fired, later) routing ∧
        history = .entered (.drained now) :: routing := by
  simp only [watchedFire, Journaled.gives_bind, Journaled.gives_lift, Witnessed.gives_carry,
    Journaled.gives_enter, Prod.exists]
  constructor
  · intro given
    rcases given with ⟨due, timers, _, _, ⟨drained, rfl⟩, ⟨_, _, routing, ⟨_, rfl, rfl⟩, routed,
      rfl⟩, rfl⟩
    exact ⟨due, timers, routing, drained, routed, rfl⟩
  · intro given
    rcases given with ⟨due, timers, routing, drained, routed, rfl⟩
    exact ⟨due, timers, _, _, ⟨drained, rfl⟩, ⟨(), _, routing, ⟨_, rfl, rfl⟩, routed, rfl⟩, rfl⟩

end Roster

namespace World

variable {repertoire : Repertoire vocabulary} {world later : World vocabulary}
  {history : List (Happening vocabulary)}

def watchedTick (repertoire : Repertoire vocabulary) (world : World vocabulary) :
    Witnessed vocabulary (World vocabulary) := do
  let now := world.clock.now
  Journaled.enter (.began world)
  Witnessed.carry (Logged.notify (.tickStart now))
  let roster ← Witnessed.carry
    ((world.roster.advanceTo now).deliverAll repertoire now world.events)
  let (fired, roster) ← roster.watchedFire repertoire now
  Witnessed.carry (Logged.notify (.tickEnd now fired))
  let clock ← world.clock.advance
  pure { world with roster, clock, events := [] }

theorem unwatched_tick (repertoire : Repertoire vocabulary) (world : World vocabulary) :
    (world.watchedTick repertoire).unwatched = world.tick repertoire := by
  unfold watchedTick tick
  simp only [Witnessed.unwatched_bind, Witnessed.unwatched_carry, Witnessed.unwatched_pure,
    Witnessed.unwatched_lift, Witnessed.unwatched_enter (.began world) rfl, pure_bind,
    Roster.unwatched_fire]

def watchedTicks (repertoire : Repertoire vocabulary) (world : World vocabulary) :
    Nat → Witnessed vocabulary (World vocabulary)
  | 0 => pure world
  | count + 1 => do
      let world ← world.watchedTick repertoire
      world.watchedTicks repertoire count

private theorem unwatched_ticks (repertoire : Repertoire vocabulary) (world : World vocabulary)
    (count : Nat) : (world.watchedTicks repertoire count).unwatched =
      world.ticks repertoire count := by
  induction count generalizing world with
  | zero => rfl
  | succ count ih =>
      unfold watchedTicks ticks
      simp only [Witnessed.unwatched_bind, unwatched_tick, ih]

def watchedToEnd (repertoire : Repertoire vocabulary) (world : World vocabulary) :
    Witnessed vocabulary (World vocabulary) := do
  let later ← world.watchedTicks repertoire (world.config.endTick.index - world.clock.now.index)
  Witnessed.carry (Logged.notify (.runEnd later.clock.now))
  pure later

private theorem unwatched_toEnd (repertoire : Repertoire vocabulary) (world : World vocabulary) :
    (world.watchedToEnd repertoire).unwatched = world.toEnd repertoire := by
  rw [toEnd_eq_ticks]
  unfold watchedToEnd
  simp only [Witnessed.unwatched_bind, Witnessed.unwatched_carry, Witnessed.unwatched_pure,
    unwatched_ticks]

def watchedObey (repertoire : Repertoire vocabulary) (world : World vocabulary) :
    Call vocabulary → Witnessed vocabulary (World vocabulary)
  | .post agent name payload =>
      match world.post agent name payload with
      | .error _ => pure world
      | .ok later => do
          Journaled.enter (.posted { agent, name, payload })
          pure later
  | .run => world.watchedToEnd repertoire
  | .runTicks count => world.watchedTicks repertoire count
  | call => Witnessed.carry (world.obey repertoire call)

theorem snd_observed (logged : Logged α) : Prod.snd <$> logged.observed = logged := by
  obtain ⟨outcome, journal⟩ := logged
  cases outcome with
  | error fault => rfl
  | ok answer => rfl

private theorem unwatched_obey (repertoire : Repertoire vocabulary) (world : World vocabulary)
    (call : Call vocabulary) :
    (world.watchedObey repertoire call).unwatched = world.obey repertoire call := by
  cases call with
  | post agent name payload =>
      cases answer : world.post agent name payload with
      | error cause =>
          simp only [watchedObey, obey, answer]
          rfl
      | ok later =>
          simp only [watchedObey, obey, answer]
          rfl
  | run =>
      change (world.watchedToEnd repertoire).unwatched =
        Prod.snd <$> (world.toEnd repertoire).observed
      rw [unwatched_toEnd, snd_observed]
  | runTicks count =>
      change (world.watchedTicks repertoire count).unwatched =
        Prod.snd <$> (world.ticks repertoire count).observed
      rw [unwatched_ticks, snd_observed]
  | spawn agent name setup => exact Witnessed.unwatched_carry _
  | spawnWithTree agent name tree => exact Witnessed.unwatched_carry _
  | withAgent agent program => exact Witnessed.unwatched_carry _
  | destroy agent payload => exact Witnessed.unwatched_carry _

/-- A world in which other things stand in the places that a host has its hands on. -/
def rearranged (world : World vocabulary) (config : Config) (clock : Clock) (timers : TimerQueue)
    (change : Nat → Controller vocabulary → Controller vocabulary) : World vocabulary :=
  { world with
    config
    clock
    roster :=
      { controllers := world.roster.controllers.mapIdx fun slot => Option.map (change slot)
        timers } }

def undergo (repertoire : Repertoire vocabulary) (world : World vocabulary) :
    HostAct vocabulary → Logged (World vocabulary)
  | .call call => world.obey repertoire call
  | .rearrange config clock timers change => pure (world.rearranged config clock timers change)

def undergoAll (repertoire : Repertoire vocabulary) (world : World vocabulary) :
    List (HostAct vocabulary) → Logged (World vocabulary)
  | [] => pure world
  | act :: acts => do
      let later ← world.undergo repertoire act
      later.undergoAll repertoire acts

theorem undergoAll_calls (repertoire : Repertoire vocabulary) (world : World vocabulary)
    (calls : List (Call vocabulary)) :
    world.undergoAll repertoire (calls.map .call) = world.play repertoire calls := by
  induction calls generalizing world with
  | nil => rfl
  | cons call calls ih =>
      rw [List.map_cons, undergoAll, play]
      simp only [undergo, ih]

def watchedUndergo (repertoire : Repertoire vocabulary) (world : World vocabulary) :
    HostAct vocabulary → Witnessed vocabulary (World vocabulary)
  | .call call => world.watchedObey repertoire call
  | .rearrange config clock timers change => pure (world.rearranged config clock timers change)

def watchedUndergoAll (repertoire : Repertoire vocabulary) (world : World vocabulary) :
    List (HostAct vocabulary) → Witnessed vocabulary (World vocabulary)
  | [] => pure world
  | act :: acts => do
      let later ← world.watchedUndergo repertoire act
      later.watchedUndergoAll repertoire acts

theorem unwatched_undergoAll (repertoire : Repertoire vocabulary) (world : World vocabulary)
    (acts : List (HostAct vocabulary)) :
    (world.watchedUndergoAll repertoire acts).unwatched = world.undergoAll repertoire acts := by
  induction acts generalizing world with
  | nil => rfl
  | cons act acts ih =>
      unfold watchedUndergoAll undergoAll
      rw [Witnessed.unwatched_bind]
      cases act with
      | call call => simp only [watchedUndergo, undergo, unwatched_obey, ih]
      | rearrange config clock timers change =>
          simp only [watchedUndergo, undergo, Witnessed.unwatched_pure, ih]

theorem gives_watchedTick :
    (world.watchedTick repertoire).Gives later history ↔
      ∃ delivering firing fired middle roster clock,
        ((world.roster.advanceTo world.clock.now).deliverAll repertoire world.clock.now
          world.events).Gives middle delivering ∧
        (middle.watchedFire repertoire world.clock.now).Gives (fired, roster) firing ∧
        world.clock.advance = .ok clock ∧
        later = { world with roster, clock, events := [] } ∧
        history = .began world :: .entered (.noticed (.tickStart world.clock.now)) ::
          (delivering.map .entered ++
            (firing ++ [.entered (.noticed (.tickEnd world.clock.now fired))])) := by
  simp only [watchedTick, Journaled.gives_bind, Journaled.gives_enter, Witnessed.gives_carry,
    Logged.gives_notify, Journaled.gives_lift, Journaled.gives_pure, Prod.exists]
  constructor
  · intro given
    rcases given with ⟨_, _, _, rfl, ⟨_, _, _, ⟨_, rfl, rfl⟩, ⟨middle, _, _,
      ⟨delivering, delivered, rfl⟩, ⟨fired, roster, firing, _, fires, ⟨_, _, _, ⟨_, rfl, rfl⟩,
      ⟨clock, _, _, ⟨advanced, rfl⟩, ⟨rfl, rfl⟩, rfl⟩, rfl⟩, rfl⟩, rfl⟩, rfl⟩, rfl⟩
    exact ⟨delivering, firing, fired, middle, roster, clock, delivered, fires, advanced, rfl, rfl⟩
  · intro given
    rcases given with ⟨delivering, firing, fired, middle, roster, clock, delivered, fires,
      advanced, rfl, rfl⟩
    exact ⟨(), _, _, rfl, ⟨(), _, _, ⟨_, rfl, rfl⟩, ⟨middle, _, _, ⟨delivering, delivered, rfl⟩,
      ⟨fired, roster, firing, _, fires, ⟨(), _, _, ⟨_, rfl, rfl⟩, ⟨clock, _, _, ⟨advanced, rfl⟩,
      ⟨rfl, rfl⟩, rfl⟩, rfl⟩, rfl⟩, rfl⟩, rfl⟩, rfl⟩

end World

end PriorityAgents
