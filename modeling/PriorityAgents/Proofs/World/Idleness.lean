import PriorityAgents.Proofs.Timer.Idleness
import PriorityAgents.Proofs.World.Moves
import PriorityAgents.Proofs.World.Offers
import PriorityAgents.Proofs.World.Rearming
import PriorityAgents.Proofs.World.Settlement

/-!
Idle ticks: where no event is queued and no timer comes due, nothing runs.

The clock moves on and the timers follow it, and the observer has the beginnings and the ends of the
ticks. No agent takes a turn, whatever a turn would be, so a host may pass over idle ticks. All this
holds however many timers have been armed, because the timers of a world stay in good order however
many handles have been given out.
-/

set_option autoImplicit false

namespace PriorityAgents

variable {vocabulary : Vocabulary} {repertoire : Repertoire vocabulary} {journal : List Entry}

/-! ### The timers of a world -/

namespace TimerQueue

structure InTime (queue : TimerQueue) (now : Tick) : Prop where
  tidy : queue.Tidy
  behind : queue.now ≤ now

namespace InTime

variable {queue later : TimerQueue} {now : Tick}

private theorem advanceTo (inTime : queue.InTime now) : (queue.advanceTo now).InTime now where
  tidy := inTime.tidy.advanceTo now
  behind := by
    change queue.now.latest now ≤ now
    rw [World.latest_of_le inTime.behind]
    exact Nat.le_refl _

private theorem drain (inTime : queue.InTime now) {fired : List Timer}
    (drained : queue.drain now = .ok (fired, later)) : later.InTime now where
  tidy := inTime.tidy.perform (perform_drain drained)
  behind := by
    rw [TimerQueue.now, clock_of_drain drained]
    exact inTime.advanceTo.behind

private theorem course {context later : Context vocabulary} (inTime : context.timers.InTime now)
    (course : Context.Course context later journal) : later.timers.InTime now := by
  obtain ⟨operations, performed⟩ := course.performed
  refine ⟨inTime.tidy.performAll performed, ?_⟩
  rw [TimerQueue.now, (Context.Works.of_course course).clock]
  exact inTime.behind

private theorem onTimer {context later : Context vocabulary} {fired : TimerHandle}
    {outcome : Reconsideration} (inTime : context.timers.InTime now)
    (given : (context.onTimer repertoire fired).Gives (outcome, later) journal) :
    later.timers.InTime now := by
  by_cases pending : context.controller.pending = some fired
  · rw [Context.onTimer_of_pending pending] at given
    have detached : context.detached.timers.InTime now := inTime
    split at given
    · exact detached.course (.reconsider given)
    · obtain ⟨reached, _⟩ := Journaled.gives_pure.mp given
      cases reached
      exact detached
  · rw [(Context.stale_of_onTimer pending given).2]
    exact inTime

end InTime

end TimerQueue

namespace Roster

variable {roster later : Roster vocabulary} {now : Tick} {agent : AgentId}
  {context : Context vocabulary}

private theorem inTime_of_context (inTime : roster.timers.InTime now)
    (found : roster.context? agent = some context) : context.timers.InTime now := by
  rw [(context?_eq_some.mp found).2]
  exact inTime

private theorem inTime_of_deliverAll {events : List (PendingEvent vocabulary)}
    (inTime : roster.timers.InTime now)
    (given : (roster.deliverAll repertoire now events).Gives later journal) :
    later.timers.InTime now := by
  induction events generalizing roster journal with
  | nil =>
      obtain ⟨rfl, _⟩ := Journaled.gives_pure.mp given
      exact inTime
  | cons event events ih =>
      obtain ⟨middle, _, _, delivered, rest, _⟩ := Journaled.gives_bind.mp given
      obtain ⟨handled, entries, work, _⟩ := gives_deliver.mp delivered
      refine ih ?_ rest
      cases found : roster.context? event.agent with
      | none =>
          rw [found] at work
          rw [work.2.1]
          exact inTime
      | some context =>
          rw [found] at work
          obtain ⟨done, ran, rfl⟩ := work
          exact (inTime_of_context inTime found).course (.handleEvent ran)

private theorem inTime_of_routeAll {timers : List Timer} {fired : Nat}
    (inTime : roster.timers.InTime now)
    (given : (roster.routeAll repertoire now timers).Gives (fired, later) journal) :
    later.timers.InTime now := by
  induction timers generalizing roster journal fired with
  | nil =>
      obtain ⟨reached, _⟩ := Journaled.gives_pure.mp given
      cases reached
      exact inTime
  | cons timer timers ih =>
      cases found : roster.context? timer.owner with
      | none =>
          unfold routeAll at given
          rw [found] at given
          exact ih inTime given
      | some context =>
          obtain ⟨outcome, done, _, _, _, ran, routed, _, _⟩ :=
            (gives_routeAll_cons found).mp given
          have kept : (roster.keep timer.owner done).timers.InTime now :=
            (inTime_of_context inTime found).onTimer ran
          exact ih kept routed

private theorem inTime_of_fire {fired : Nat} (inTime : roster.timers.InTime now)
    (given : (roster.fire repertoire now).Gives (fired, later) journal) :
    later.timers.InTime now := by
  obtain ⟨due, timers, _, drained, routed, _⟩ := gives_fire.mp given
  have left : ({ roster with timers } : Roster vocabulary).timers.InTime now :=
    inTime.drain drained
  exact inTime_of_routeAll left routed

end Roster

namespace World

variable {world later : World vocabulary} {agent : AgentId}

def InTime (world : World vocabulary) : Prop := world.roster.timers.InTime world.clock.now

namespace InTime

private theorem create {config : Config} {reconsiderNow : Option Span}
    (created : World.create config reconsiderNow = .ok world) : world.InTime := by
  obtain ⟨timers, started, _, _, rfl⟩ := of_create created
  exact ⟨.start started, Nat.le_refl _⟩

private theorem tick (inTime : world.InTime) (given : (world.tick repertoire).Gives later journal) :
    later.InTime := by
  have moved := (config_clock_of_tick given.outcome).2
  obtain ⟨_, _, _, middle, roster, clock, delivered, fires, _, rfl, _⟩ := gives_tick.mp given
  have offered : middle.timers.InTime world.clock.now :=
    Roster.inTime_of_deliverAll inTime.advanceTo delivered
  have handedOut := Roster.inTime_of_fire offered fires
  refine ⟨handedOut.tidy, Nat.le_trans handedOut.behind ?_⟩
  rw [moved]
  exact Nat.le_succ _

private theorem ticks {count : Nat} (inTime : world.InTime)
    (given : (world.ticks repertoire count).Gives later journal) : later.InTime := by
  induction count generalizing world journal with
  | zero =>
      obtain ⟨rfl, _⟩ := Journaled.gives_pure.mp given
      exact inTime
  | succ count ih =>
      obtain ⟨middle, _, _, ticked, rest, _⟩ := Journaled.gives_bind.mp given
      exact ih (inTime.tick ticked) rest

private theorem toEnd (inTime : world.InTime)
    (given : (world.toEnd repertoire).Gives later journal) : later.InTime := by
  rw [toEnd_eq_ticks] at given
  obtain ⟨middle, _, _, ticked, rest, _⟩ := Journaled.gives_bind.mp given
  obtain ⟨_, _, _, _, final, _⟩ := Journaled.gives_bind.mp rest
  obtain ⟨rfl, _⟩ := Journaled.gives_pure.mp final
  exact inTime.ticks ticked

private theorem spawn {name : String} {state : vocabulary.State} {setup : Program vocabulary Unit}
    {answer : Except WorldError (AgentId × World vocabulary)} (inTime : world.InTime)
    (given : (world.spawn repertoire state name setup).Gives answer journal) :
    (world.after answer).InTime := by
  have outcome := gives_spawn.mp given
  cases free : agentIdFor world.roster.controllers.size with
  | error cause =>
      rw [free] at outcome
      rw [outcome.1]
      exact inTime
  | ok id =>
      rw [free] at outcome
      obtain ⟨done, _, ran, rfl, _⟩ := outcome
      have begun : (world.newcomer id state name).timers.InTime world.clock.now :=
        inTime.advanceTo
      exact begun.course (.run ran)

private theorem withAgent {α : Type} {program : Program vocabulary α}
    {answer : Except WorldError (α × World vocabulary)} (inTime : world.InTime)
    (given : (world.withAgent repertoire agent program).Gives answer journal) :
    (world.after answer).InTime := by
  have outcome := gives_withAgent.mp given
  have moved : (world.roster.advanceTo world.clock.now).timers.InTime world.clock.now :=
    inTime.advanceTo
  cases found : (world.roster.advanceTo world.clock.now).context? agent with
  | none =>
      rw [found] at outcome
      rw [outcome.1]
      exact inTime
  | some context =>
      rw [found] at outcome
      obtain ⟨_, done, ran, rfl⟩ := outcome
      exact (Roster.inTime_of_context moved found).course (.run ran)

private theorem destroy {payload : vocabulary.Payload}
    {answer : Except WorldError (Controller vocabulary × World vocabulary)}
    (inTime : world.InTime)
    (given : (world.destroy repertoire agent payload).Gives answer journal) :
    (world.after answer).InTime := by
  have outcome := gives_destroy.mp given
  cases found : world.roster.context? agent with
  | none =>
      rw [found] at outcome
      rw [outcome.1]
      exact inTime
  | some context =>
      rw [found] at outcome
      obtain ⟨_, told, done, _, _, ran, torn, rfl, _⟩ := outcome
      exact ((Roster.inTime_of_context inTime found).course (.handleEvent ran)).course
        (.teardown torn)

private theorem move {move : Move vocabulary} (inTime : world.InTime)
    (given : (world.move repertoire move).Gives later journal) : later.InTime := by
  cases move with
  | touch agent touch =>
      obtain ⟨rfl, _⟩ := Journaled.gives_pure.mp given
      exact inTime
  | call call =>
      cases call with
      | spawn state name setup =>
          obtain ⟨answer, spawned, rfl⟩ := Journaled.gives_map.mp given
          exact inTime.spawn spawned
      | spawnWithTree state name tree =>
          obtain ⟨answer, spawned, rfl⟩ := Journaled.gives_map.mp given
          exact inTime.spawn spawned
      | withAgent agent program =>
          obtain ⟨answer, ran, rfl⟩ := Journaled.gives_map.mp given
          exact inTime.withAgent ran
      | post agent name payload =>
          obtain ⟨rfl, _⟩ := Journaled.gives_pure.mp given
          unfold World.post
          cases world.controller? agent <;> exact inTime
      | destroy agent payload =>
          obtain ⟨answer, destroyed, rfl⟩ := Journaled.gives_map.mp given
          exact inTime.destroy destroyed
      | run =>
          obtain ⟨⟨_, reached⟩, ran, rfl⟩ := Journaled.gives_map.mp given
          exact inTime.toEnd (Logged.gives_observed.mp ran).1
      | runTicks count =>
          obtain ⟨⟨_, reached⟩, ran, rfl⟩ := Journaled.gives_map.mp given
          exact inTime.ticks (Logged.gives_observed.mp ran).1

private theorem moves {moves : List (Move vocabulary)} (inTime : world.InTime)
    (given : (world.moves repertoire moves).Gives later journal) : later.InTime := by
  induction moves generalizing world journal with
  | nil =>
      obtain ⟨rfl, _⟩ := Journaled.gives_pure.mp given
      exact inTime
  | cons move moves ih =>
      obtain ⟨middle, _, _, moved, rest, _⟩ := Journaled.gives_bind.mp given
      exact ih (inTime.move moved) rest

end InTime

/-! ### Idle ticks -/

/-- The entries of a tick in which nothing happens. -/
def uneventful (tick : Tick) : List Entry :=
  [.noticed (.tickStart tick), .drained tick, .noticed (.tickEnd tick 0)]

def movedTo (world : World vocabulary) (now timersNow : Tick) : World vocabulary :=
  let timers := world.roster.timers
  { world with
    clock := { world.clock with now }
    roster := { world.roster with
      timers := { timers with clock := { timers.clock with now := timersNow } } } }

private theorem tickBy_of_idle {ε : Type} (usher : Usher vocabulary ε) (inTime : world.InTime)
    (quiet : world.events = [])
    (ahead : ∀ timer ∈ world.armed, world.clock.now < timer.due) {next : Tick}
    (index : next.index = world.clock.now.index + 1) :
    world.tickBy usher =
      usher.carry ⟨.ok (world.movedTo next world.clock.now), uneventful world.clock.now⟩ := by
  obtain ⟨config, clock, reconsiderNow, roster, events⟩ := world
  cases quiet
  have room : clock.now.index + 1 < 2 ^ 64 := index ▸ next.index_lt
  have advanced : clock.advance = .ok { clock with now := next } := by
    have moved : clock.now.offset 1 = .ok next := Tick.offset_eq_ok.mpr index
    unfold Clock.advance
    rw [moved]
    rfl
  have standing : (roster.timers.advanceTo clock.now).advanceTo clock.now =
      { roster.timers with clock := { roster.timers.clock with now := clock.now } } := by
    change { roster.timers with clock := { roster.timers.clock with
      now := (roster.timers.now.latest clock.now).latest clock.now } } = _
    have behind : roster.timers.now ≤ clock.now := inTime.behind
    rw [latest_of_le behind, latest_of_le (Nat.le_refl _)]
  have drained : (roster.timers.advanceTo clock.now).drain clock.now = .ok ([], _) :=
    (inTime.tidy.advanceTo clock.now).drain_of_ahead room ahead
  rw [standing] at drained
  unfold tickBy Roster.fireBy
  simp only [Roster.deliverAllBy, Roster.advanceTo, pure_bind, drained, advanced]
  rfl

private theorem ticksBy_of_idle {count : Nat} (inTime : world.InTime) (quiet : world.events = [])
    (ahead : ∀ timer ∈ world.armed, world.clock.now.index + count ≤ timer.due.index)
    (room : world.clock.now.index + count < 2 ^ 64) :
    ∃ (ticks : List Tick) (finish last : Tick),
      ticks.map Tick.index = List.range' world.clock.now.index count ∧
      finish.index = world.clock.now.index + count ∧
      (count = 0 ∧ last = world.timersNow ∨ last.index + 1 = finish.index) ∧
      ∀ {ε : Type} (usher : Usher vocabulary ε), world.ticksBy usher count =
        usher.carry ⟨.ok (world.movedTo finish last), ticks.flatMap uneventful⟩ := by
  induction count generalizing world with
  | zero => exact ⟨[], world.clock.now, world.timersNow, rfl, rfl, .inl ⟨rfl, rfl⟩, fun _ => rfl⟩
  | succ count ih =>
      -- After the first tick the timers stand at it, and there they stay if no other follows.
      let next : Tick := ⟨world.clock.now.index + 1, by omega⟩
      have soon : ∀ timer ∈ world.armed, world.clock.now < timer.due := by
        intro timer member
        have due := ahead timer member
        rw [Tick.lt_def]
        omega
      have after : (world.movedTo next world.clock.now).InTime :=
        ⟨⟨inTime.tidy.shelved, inTime.tidy.filled⟩, Nat.le_succ _⟩
      have stillAhead : ∀ timer ∈ (world.movedTo next world.clock.now).armed,
          next.index + count ≤ timer.due.index := by
        intro timer member
        have due := ahead timer member
        change world.clock.now.index + 1 + count ≤ timer.due.index
        omega
      have stillRoom : next.index + count < 2 ^ 64 := by
        change world.clock.now.index + 1 + count < 2 ^ 64
        omega
      obtain ⟨ticks, finish, last, indices, finishes, lasts, rest⟩ :=
        ih after quiet stillAhead stillRoom
      change finish.index = world.clock.now.index + 1 + count at finishes
      refine ⟨world.clock.now :: ticks, finish, last, ?_, ?_, .inr ?_, ?_⟩
      · rw [List.map_cons, indices, List.range'_succ]
        rfl
      · omega
      · rcases lasts with ⟨rfl, rfl⟩ | before
        · exact finishes.symm
        · exact before
      · intro ε usher
        have first : world.tickBy usher = usher.carry
            ⟨.ok (world.movedTo next world.clock.now), uneventful world.clock.now⟩ :=
          tickBy_of_idle usher inTime quiet soon rfl
        rw [ticksBy, first]
        exact usher.carry_bind (ticksBy usher · count) (rest usher)

/-- Whatever a host has done: as long as no event is queued and no timer comes due, ticks leave the
world as it is but for its clock, which moves on by as many ticks, and the timers, which stand at
the last of them. The observer has the beginning and the end of each tick and nothing else, and
nothing else is entered. No usher has a turn to take an agent through: nothing runs. -/
theorem idles_of_moves {config : Config} {reconsiderNow : Option Span} {start : World vocabulary}
    {moves : List (Move vocabulary)} {count : Nat}
    (created : World.create config reconsiderNow = .ok start)
    (reached : (start.moves repertoire moves).outcome = .ok world)
    (quiet : world.events = []) (positive : 0 < count)
    (ahead : ∀ timer ∈ world.armed, world.clock.now.index + count ≤ timer.due.index)
    (room : world.clock.now.index + count < 2 ^ 64) :
    ∃ (ticks : List Tick) (finish last : Tick),
      ticks.map Tick.index = List.range' world.clock.now.index count ∧
      finish.index = world.clock.now.index + count ∧ last.index + 1 = finish.index ∧
      (world.runTicks repertoire count).Gives
        (ticks.flatMap fun tick => [.tickStart tick, .tickEnd tick 0], world.movedTo finish last)
        (ticks.flatMap uneventful) ∧
      ∀ {ε : Type} (usher : Usher vocabulary ε), world.ticksBy usher count =
        usher.carry ⟨.ok (world.movedTo finish last), ticks.flatMap uneventful⟩ := by
  have inTime : world.InTime := (InTime.create created).moves (Journaled.gives_of_outcome reached)
  obtain ⟨ticks, finish, last, indices, finishes, lasts, ran⟩ :=
    ticksBy_of_idle inTime quiet ahead room
  have standing : last.index + 1 = finish.index := by
    rcases lasts with ⟨rfl, _⟩ | before
    · exact absurd positive (Nat.lt_irrefl 0)
    · exact before
  have follows := repertoire.stager_follows
  have plain : world.ticks repertoire count =
      ⟨.ok (world.movedTo finish last), ticks.flatMap uneventful⟩ := by
    rw [← follows.ticks, ran repertoire.stager, follows.carry]
  refine ⟨ticks, finish, last, indices, finishes, standing, ?_, ran⟩
  refine Logged.gives_observed.mpr ⟨plain, ?_⟩
  rw [List.filterMap_flatMap]
  rfl

/-- Of two ships one has gone down, and the other has plans for the fourteenth tick: the third is
the first of eleven ticks in which nothing happens. -/
theorem idles_of_moves_patrol :
    let moves : List (Move Patrol.ships) :=
      [.call (.spawn (.fresh "Ada") "patrol" Patrol.start),
        .call (.spawn (.fresh "Grace") "patrol" Patrol.start), .call (.runTicks 2),
        .call (.destroy ⟨0, by decide⟩ ⟨"Krait", 100⟩)]
    ∃ start world notices finish last, World.create .standard none = .ok start ∧
      (start.moves Patrol.repertoire moves).outcome = .ok world ∧
      world.armed.map (·.due.index) = [13] ∧ finish.index = 13 ∧ last.index = 12 ∧
      (world.runTicks Patrol.repertoire 11).outcome = .ok (notices, world.movedTo finish last) := by
  intro moves
  obtain ⟨start, created, rest⟩ : ∃ start, World.create .standard none = .ok start ∧
      ((start.moves Patrol.repertoire moves).outcome.toOption.any fun world =>
        decide (world.armed.map (·.due.index) = [13] ∧ world.clock.now.index = 2 ∧
          world.events.length = 0)) = true :=
    exists_ok (by decide +kernel)
  obtain ⟨world, reached, facts⟩ := exists_ok rest
  obtain ⟨dues, clock, quiet⟩ := of_decide_eq_true facts
  have ahead : ∀ timer ∈ world.armed, world.clock.now.index + 11 ≤ timer.due.index := by
    intro timer member
    have due : timer.due.index ∈ world.armed.map (·.due.index) := List.mem_map_of_mem member
    rw [dues, List.mem_singleton] at due
    omega
  obtain ⟨ticks, finish, last, _, finishes, lasts, given, _⟩ :=
    idles_of_moves created reached (List.length_eq_zero_iff.mp quiet) (by decide) ahead (by omega)
  exact ⟨start, world, _, finish, last, created, reached, dues, by omega, by omega, given.outcome⟩

end World

end PriorityAgents
