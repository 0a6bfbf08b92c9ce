import PriorityAgents.Proofs.World.Mail

/-!
Agents that are gone stay gone.

Slots are filled at the end of the roster only, and whoever goes to work is found in its slot
first. So whatever a host does and whatever the callbacks of the others do, an empty slot stays
empty, and no reconsideration of its agent is reported, whichever timers and events still wait for
it.
-/

set_option autoImplicit false

namespace PriorityAgents

variable {vocabulary : Vocabulary} {repertoire : Repertoire vocabulary} {agent : AgentId}
  {journal : List Entry} {now : Tick}

def Entry.IsQuietAbout (agent : AgentId) : Entry → Prop
  | .noticed (.reconsider _ owner _) => owner ≠ agent
  | _ => True

private theorem Entry.IsOwn.isQuietAbout {other : AgentId} {entry : Entry} (own : entry.IsOwn other)
    (agent : AgentId) : entry.IsQuietAbout agent := by
  cases entry <;> first | exact trivial | exact own.elim

/-- The slot of an agent is empty, and a journal reports no reconsideration of it. -/
structure Roster.Absent (agent : AgentId) (roster : Roster vocabulary) (journal : List Entry) :
    Prop where
  vacant : roster.Vacant agent
  quiet : ∀ entry ∈ journal, entry.IsQuietAbout agent

namespace Roster

variable {roster middle later : Roster vocabulary}

theorem controller?_of_vacant (vacant : roster.Vacant agent) : roster.controller? agent = none := by
  unfold Vacant at vacant
  unfold controller?
  rw [vacant]
  rfl

private theorem ne_of_vacant {other : AgentId} {context : Context vocabulary}
    (vacant : roster.Vacant agent) (found : roster.context? other = some context) :
    other ≠ agent := by
  rintro rfl
  exact not_vacant (context?_eq_some.mp found).1 vacant

namespace Absent

private theorem nothing (vacant : roster.Vacant agent) : Absent agent roster [] := ⟨vacant, nofun⟩

private theorem of_own {other : AgentId} (vacant : roster.Vacant agent)
    (own : ∀ entry ∈ journal, entry.IsOwn other) : Absent agent roster journal :=
  ⟨vacant, fun entry member => (own entry member).isQuietAbout agent⟩

theorem append {first second : List Entry} (before : Absent agent middle first)
    (after : Absent agent later second) : Absent agent later (first ++ second) := by
  refine ⟨after.vacant, ?_⟩
  intro entry member
  rcases List.mem_append.mp member with early | late
  · exact before.quiet entry early
  · exact after.quiet entry late

end Absent

/-! ### A tick -/

private theorem absent_of_deliver {event : PendingEvent vocabulary} (vacant : roster.Vacant agent)
    (given : (roster.deliver repertoire now event).Gives later journal) :
    Absent agent later journal := by
  obtain ⟨handled, entries, work, rfl⟩ := gives_deliver.mp given
  have ending : ∀ entry ∈ (unheard event handled).map Entry.told ++
      [.noticed (.event now event.agent event.name handled)], entry.IsQuietAbout agent := by
    cases handled <;> simp [unheard, Entry.IsQuietAbout]
  cases found : roster.context? event.agent with
  | none =>
      rw [found] at work
      obtain ⟨rfl, rfl, rfl⟩ := work
      exact ⟨vacant, ending⟩
  | some context =>
      rw [found] at work
      obtain ⟨done, ran, rfl⟩ := work
      have kept := (vacant_keep (context?_eq_some.mp found).1 done).mpr vacant
      exact (Absent.of_own kept (Context.Works.handleEvent ran).own).append ⟨kept, ending⟩

private theorem absent_of_deliverAll {events : List (PendingEvent vocabulary)}
    (vacant : roster.Vacant agent)
    (given : (roster.deliverAll repertoire now events).Gives later journal) :
    Absent agent later journal := by
  induction events generalizing roster journal with
  | nil =>
      obtain ⟨rfl, rfl⟩ := Journaled.gives_pure.mp given
      exact .nothing vacant
  | cons event events ih =>
      obtain ⟨middle, first, second, delivered, rest, rfl⟩ := Journaled.gives_bind.mp given
      have early := absent_of_deliver vacant delivered
      exact early.append (ih early.vacant rest)

private theorem absent_of_routeAll {timers : List Timer} {fired : Nat}
    (vacant : roster.Vacant agent)
    (given : (roster.routeAll repertoire now timers).Gives (fired, later) journal) :
    Absent agent later journal := by
  induction timers generalizing roster journal fired with
  | nil =>
      obtain ⟨reached, rfl⟩ := Journaled.gives_pure.mp given
      cases reached
      exact .nothing vacant
  | cons timer timers ih =>
      cases found : roster.context? timer.owner with
      | none =>
          unfold routeAll at given
          rw [found] at given
          exact ih vacant given
      | some context =>
          obtain ⟨outcome, done, entries, others, rest, ran, routed, rfl, rfl⟩ :=
            (gives_routeAll_cons found).mp given
          have foreign := ne_of_vacant vacant found
          have kept := (vacant_keep (context?_eq_some.mp found).1 done).mpr vacant
          refine ((Absent.of_own kept (own_of_onTimer ran)).append ⟨kept, ?_⟩).append
            (ih kept routed)
          intro entry member
          rw [List.mem_singleton.mp member]
          exact foreign

private theorem absent_of_fire {fired : Nat} (vacant : roster.Vacant agent)
    (given : (roster.fire repertoire now).Gives (fired, later) journal) :
    Absent agent later journal := by
  obtain ⟨due, timers, routing, _, routed, rfl⟩ := gives_fire.mp given
  have standing : Absent agent { roster with timers } [.drained now] :=
    ⟨vacant, by simp [Entry.IsQuietAbout]⟩
  exact standing.append (absent_of_routeAll standing.vacant routed)

end Roster

/-! ### What a host does -/

namespace World

open Roster (Absent)

variable {world later : World vocabulary}

private theorem absent_of_tick (vacant : world.roster.Vacant agent)
    (given : (world.tick repertoire).Gives later journal) : Absent agent later.roster journal := by
  obtain ⟨delivering, firing, fired, middle, roster, clock, delivered, fires, _, rfl, rfl⟩ :=
    gives_tick.mp given
  have begun : Absent agent (world.roster.advanceTo world.clock.now)
      [.noticed (.tickStart world.clock.now)] := ⟨vacant, by simp [Entry.IsQuietAbout]⟩
  have early := Roster.absent_of_deliverAll begun.vacant delivered
  have late := Roster.absent_of_fire early.vacant fires
  refine begun.append (early.append (late.append ⟨late.vacant, ?_⟩))
  simp [Entry.IsQuietAbout]

private theorem absent_of_ticks {count : Nat} (vacant : world.roster.Vacant agent)
    (given : (world.ticks repertoire count).Gives later journal) :
    Absent agent later.roster journal := by
  induction count generalizing world journal with
  | zero =>
      obtain ⟨rfl, rfl⟩ := Journaled.gives_pure.mp given
      exact .nothing vacant
  | succ count ih =>
      obtain ⟨middle, first, second, ticked, rest, rfl⟩ := Journaled.gives_bind.mp given
      have early := absent_of_tick vacant ticked
      exact early.append (ih early.vacant rest)

private theorem absent_of_toEnd (vacant : world.roster.Vacant agent)
    (given : (world.toEnd repertoire).Gives later journal) :
    Absent agent later.roster journal := by
  rw [toEnd_eq_ticks] at given
  obtain ⟨middle, first, second, ticked, rest, rfl⟩ := Journaled.gives_bind.mp given
  obtain ⟨_, notice, _, told, final, rfl⟩ := Journaled.gives_bind.mp rest
  obtain ⟨rfl, rfl⟩ := Journaled.gives_pure.mp final
  have early := absent_of_ticks vacant ticked
  refine early.append ⟨early.vacant, ?_⟩
  rw [Logged.gives_notify.mp told, List.append_nil]
  simp [Entry.IsQuietAbout]

private theorem absent_of_spawn {name : String} {state : vocabulary.State}
    {setup : Program vocabulary Unit} {answer : Except WorldError (AgentId × World vocabulary)}
    (vacant : world.roster.Vacant agent)
    (given : (world.spawn repertoire state name setup).Gives answer journal) :
    Absent agent (world.after answer).roster journal := by
  have outcome := gives_spawn.mp given
  cases free : agentIdFor world.roster.controllers.size with
  | error cause =>
      rw [free] at outcome
      obtain ⟨rfl, rfl⟩ := outcome
      exact .nothing vacant
  | ok id =>
      rw [free] at outcome
      obtain ⟨done, entries, ran, rfl, rfl⟩ := outcome
      have enlisted : ((world.roster.advanceTo world.clock.now).enlist done).Vacant agent :=
        (Roster.vacant_enlist done).mpr vacant
      refine (Roster.Absent.of_own enlisted (Context.Works.run ran).own).append ⟨enlisted, ?_⟩
      simp [Entry.IsQuietAbout]

private theorem absent_of_withAgent {α : Type} {other : AgentId} {program : Program vocabulary α}
    {answer : Except WorldError (α × World vocabulary)} (vacant : world.roster.Vacant agent)
    (given : (world.withAgent repertoire other program).Gives answer journal) :
    Absent agent (world.after answer).roster journal := by
  have outcome := gives_withAgent.mp given
  cases found : (world.roster.advanceTo world.clock.now).context? other with
  | none =>
      rw [found] at outcome
      obtain ⟨rfl, rfl⟩ := outcome
      exact .nothing vacant
  | some context =>
      rw [found] at outcome
      obtain ⟨reply, done, ran, rfl⟩ := outcome
      have occupied : world.roster.controller? other = some context.controller :=
        (Roster.context?_eq_some.mp found).1
      exact .of_own ((Roster.vacant_keep occupied done).mpr vacant) (Context.Works.run ran).own

private theorem absent_of_destroy {other : AgentId} {payload : vocabulary.Payload}
    {answer : Except WorldError (Controller vocabulary × World vocabulary)}
    (vacant : world.roster.Vacant agent)
    (given : (world.destroy repertoire other payload).Gives answer journal) :
    Absent agent (world.after answer).roster journal := by
  have outcome := gives_destroy.mp given
  cases found : world.roster.context? other with
  | none =>
      rw [found] at outcome
      obtain ⟨rfl, rfl⟩ := outcome
      exact .nothing vacant
  | some context =>
      rw [found] at outcome
      obtain ⟨handled, told, done, first, second, ran, torn, rfl, rfl⟩ := outcome
      have discharged : (world.roster.discharge other done.timers).Vacant agent :=
        (Roster.vacant_discharge (Roster.context?_eq_some.mp found).1 done.timers).mpr (.inl vacant)
      have own := ((Context.Works.handleEvent ran).trans (Context.Works.teardown torn)).own
      refine (Roster.Absent.of_own discharged own).append ⟨discharged, ?_⟩
      simp [Entry.IsQuietAbout]

private theorem absent_of_obey {call : Call vocabulary} (vacant : world.roster.Vacant agent)
    (given : (world.obey repertoire call).Gives later journal) :
    Absent agent later.roster journal := by
  cases call with
  | spawn state name setup =>
      obtain ⟨answer, spawned, rfl⟩ := Journaled.gives_map.mp given
      exact absent_of_spawn vacant spawned
  | spawnWithTree state name tree =>
      obtain ⟨answer, spawned, rfl⟩ := Journaled.gives_map.mp given
      exact absent_of_spawn vacant spawned
  | withAgent other program =>
      obtain ⟨answer, ran, rfl⟩ := Journaled.gives_map.mp given
      exact absent_of_withAgent vacant ran
  | post other name payload =>
      obtain ⟨rfl, rfl⟩ := Journaled.gives_pure.mp given
      refine .nothing ?_
      unfold World.post
      cases world.controller? other with
      | none => exact vacant
      | some controller => exact vacant
  | destroy other payload =>
      obtain ⟨answer, destroyed, rfl⟩ := Journaled.gives_map.mp given
      exact absent_of_destroy vacant destroyed
  | run =>
      obtain ⟨⟨noticed, reached⟩, ran, rfl⟩ := Journaled.gives_map.mp given
      exact absent_of_toEnd vacant (Logged.gives_observed.mp ran).1
  | runTicks count =>
      obtain ⟨⟨noticed, reached⟩, ran, rfl⟩ := Journaled.gives_map.mp given
      exact absent_of_ticks vacant (Logged.gives_observed.mp ran).1

private theorem vacant_rearranged (vacant : world.roster.Vacant agent) (config : Config)
    (clock : Clock) (timers : TimerQueue)
    (change : Nat → Controller vocabulary → Controller vocabulary) :
    (world.rearranged config clock timers change).roster.Vacant agent := by
  change (world.roster.controllers.mapIdx _)[agent.index]? = _
  rw [Array.getElem?_mapIdx, vacant]
  rfl

/-- Once an agent is gone, it stays gone whatever a host does, and no reconsideration of it is
reported any more. -/
theorem absent_of_undergoAll {acts : List (HostAct vocabulary)} (vacant : world.roster.Vacant agent)
    (given : (world.undergoAll repertoire acts).Gives later journal) :
    Absent agent later.roster journal := by
  induction acts generalizing world journal with
  | nil =>
      obtain ⟨rfl, rfl⟩ := Journaled.gives_pure.mp given
      exact .nothing vacant
  | cons act acts ih =>
      obtain ⟨middle, first, second, underwent, rest, rfl⟩ := Journaled.gives_bind.mp given
      have early : Absent agent middle.roster first := by
        cases act with
        | call call => exact absent_of_obey vacant underwent
        | rearrange config clock timers change =>
            obtain ⟨rfl, rfl⟩ := Journaled.gives_pure.mp underwent
            exact .nothing (vacant_rearranged vacant config clock timers change)
      exact early.append (ih early.vacant rest)

end World

end PriorityAgents
