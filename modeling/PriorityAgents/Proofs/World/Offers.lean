import PriorityAgents.Proofs.Controller.Scene
import PriorityAgents.Proofs.World.Mail

/-!
What a tick offers to agents, and whom it leaves in the slots.

Neither depends on what timers there are, how many have been armed and which of them are stale: a
tick offers what is queued, one event after another, and whoever is there when it begins is there
when it ends. So all this holds of runs of any length.
-/

set_option autoImplicit false

namespace PriorityAgents

variable {vocabulary : Vocabulary} {repertoire : Repertoire vocabulary} {journal : List Entry}

def Notice.offered? : Notice → Option (Nat × AgentId × EventName)
  | .event tick agent name _ => some (tick.index, agent, name)
  | .tickStart _ | .reconsider _ _ _ | .tickEnd _ _ | .runEnd _ => none

def Entry.lost? : Entry → Option AgentId
  | .destroyed agent _ => some agent
  | _ => none

def offered (journal : List Entry) : List (Nat × AgentId × EventName) :=
  (journal.filterMap Entry.notice?).filterMap Notice.offered?

def lost (journal : List Entry) : List AgentId := journal.filterMap Entry.lost?

@[simp] theorem offered_append (first second : List Entry) :
    offered (first ++ second) = offered first ++ offered second := by
  simp only [offered, List.filterMap_append]

@[simp] theorem lost_append (first second : List Entry) :
    lost (first ++ second) = lost first ++ lost second :=
  List.filterMap_append

theorem lost_hushed (hushed : ∀ entry ∈ journal, entry.IsHushed) : lost journal = [] := by
  refine List.filterMap_eq_nil_iff.mpr fun entry member => ?_
  cases entry <;> first | rfl | exact (hushed _ member).elim

private theorem offered_own {agent : AgentId} (own : ∀ entry ∈ journal, entry.IsOwn agent) :
    offered journal = [] := by
  have silent : journal.filterMap Entry.notice? = [] := by
    refine List.filterMap_eq_nil_iff.mpr fun entry member => ?_
    cases entry <;> first | rfl | exact (own _ member).elim
  rw [offered, silent, List.filterMap_nil]

namespace Roster

variable {roster middle later : Roster vocabulary} {now : Tick} {agent : AgentId}
  {context done : Context vocabulary}

theorem Seated.enlist (seated : roster.Seated)
    (next : context.controller.id.index = roster.controllers.size) :
    (roster.enlist context).Seated := by
  intro index controller member
  change (roster.controllers.push _)[index]? = _ at member
  rw [Array.getElem?_push] at member
  split at member
  · rename_i last
    cases member
    rw [next, last]
  · exact seated index controller member

/-- What is offered in a stretch of a tick. Nobody leaves in it and nobody comes. -/
structure Offers (now : Tick) (roster : Roster vocabulary)
    (events : List (PendingEvent vocabulary)) (later : Roster vocabulary)
    (journal : List Entry) : Prop where
  offered : offered journal = events.map fun event => (now.index, event.agent, event.name)
  lost : lost journal = []
  seated : roster.Seated → later.Seated
  there (agent : AgentId) :
    (later.controller? agent).isSome = (roster.controller? agent).isSome

namespace Offers

private theorem nothing (now : Tick) (roster : Roster vocabulary) :
    Offers now roster [] roster [] :=
  ⟨rfl, rfl, id, fun _ => rfl⟩

theorem trans {first second : List (PendingEvent vocabulary)} {early late : List Entry}
    (before : Offers now roster first middle early) (after : Offers now middle second later late) :
    Offers now roster (first ++ second) later (early ++ late) where
  offered := by rw [offered_append, before.offered, after.offered, List.map_append]
  lost := by rw [lost_append, before.lost, after.lost, List.append_nil]
  seated := after.seated ∘ before.seated
  there agent := (after.there agent).trans (before.there agent)

private theorem turn (found : roster.context? agent = some context)
    (id : done.controller.id = context.controller.id)
    (own : ∀ entry ∈ journal, entry.IsOwn context.controller.id) :
    Offers now roster [] (roster.keep agent done) journal where
  offered := offered_own own
  lost := lost_hushed fun entry member => (own entry member).isHushed
  seated seated :=
    slots_keep (id.trans (seated.id_eq (context?_eq_some.mp found).1)) seated
  there other := by
    have occupied := (context?_eq_some.mp found).1
    rw [controller?_keep occupied]
    split
    · rename_i same
      rw [same, occupied]
      rfl
    · rfl

private theorem noticed (roster : Roster vocabulary) (outcome : Reconsideration) :
    Offers now roster [] roster [.noticed (.reconsider now agent outcome)] :=
  ⟨rfl, rfl, id, fun _ => rfl⟩

end Offers

private theorem offers_of_deliver {event : PendingEvent vocabulary}
    (given : (roster.deliver repertoire now event).Gives later journal) :
    Offers now roster [event] later journal := by
  obtain ⟨handled, entries, work, rfl⟩ := gives_deliver.mp given
  have told (reached : Roster vocabulary) : Offers now reached [event] reached
      ((unheard event handled).map Entry.told ++
        [.noticed (.event now event.agent event.name handled)]) := by
    cases handled <;> exact ⟨rfl, rfl, id, fun _ => rfl⟩
  cases found : roster.context? event.agent with
  | none =>
      rw [found] at work
      obtain ⟨rfl, rfl, rfl⟩ := work
      exact told later
  | some context =>
      rw [found] at work
      obtain ⟨done, ran, rfl⟩ := work
      have works := Context.Works.handleEvent ran
      exact (Offers.turn found works.id works.own).trans (told _)

private theorem offers_of_deliverAll {events : List (PendingEvent vocabulary)}
    (given : (roster.deliverAll repertoire now events).Gives later journal) :
    Offers now roster events later journal := by
  induction events generalizing roster journal with
  | nil =>
      obtain ⟨rfl, rfl⟩ := Journaled.gives_pure.mp given
      exact .nothing now _
  | cons event events ih =>
      obtain ⟨middle, first, second, delivered, rest, rfl⟩ := Journaled.gives_bind.mp given
      exact (offers_of_deliver delivered).trans (ih rest)

private theorem id_of_onTimer {fired : TimerHandle} {outcome : Reconsideration}
    (given : (context.onTimer repertoire fired).Gives (outcome, done) journal) :
    done.controller.id = context.controller.id := by
  by_cases pending : context.controller.pending = some fired
  · exact (Context.works_of_onTimer pending given).1.id
  · rw [(Context.stale_of_onTimer pending given).2]

private theorem offers_of_routeAll {timers : List Timer} {fired : Nat}
    (given : (roster.routeAll repertoire now timers).Gives (fired, later) journal) :
    Offers now roster [] later journal := by
  induction timers generalizing roster journal fired with
  | nil =>
      obtain ⟨reached, rfl⟩ := Journaled.gives_pure.mp given
      cases reached
      exact .nothing now _
  | cons timer timers ih =>
      cases found : roster.context? timer.owner with
      | none =>
          unfold routeAll at given
          rw [found] at given
          exact ih given
      | some context =>
          obtain ⟨outcome, done, entries, others, rest, ran, routed, rfl, rfl⟩ :=
            (gives_routeAll_cons found).mp given
          have turned : Offers now roster [] (roster.keep timer.owner done) entries :=
            .turn found (id_of_onTimer ran) (own_of_onTimer ran)
          exact (turned.trans (.noticed _ outcome)).trans (ih routed)

private theorem offers_of_fire {fired : Nat}
    (given : (roster.fire repertoire now).Gives (fired, later) journal) :
    Offers now roster [] later journal := by
  obtain ⟨due, timers, routing, _, routed, rfl⟩ := gives_fire.mp given
  have offers := offers_of_routeAll routed
  exact ⟨offers.offered, offers.lost, offers.seated, offers.there⟩

end Roster

namespace World

variable {world later : World vocabulary}

/-- A tick offers what is queued, each event once and in its turn. -/
theorem offers_of_tick (given : (world.tick repertoire).Gives later journal) :
    Roster.Offers world.clock.now world.roster world.events later.roster journal ∧
      later.events = [] ∧ later.clock.now.index = world.clock.now.index + 1 := by
  have moved := (config_clock_of_tick given.outcome).2
  obtain ⟨delivering, firing, fired, middle, roster, clock, delivered, fires, _, rfl, rfl⟩ :=
    gives_tick.mp given
  have begins : Roster.Offers world.clock.now world.roster []
      (world.roster.advanceTo world.clock.now) [.noticed (.tickStart world.clock.now)] :=
    ⟨rfl, rfl, id, fun _ => rfl⟩
  have ends : Roster.Offers world.clock.now roster [] roster
      [.noticed (.tickEnd world.clock.now fired)] := ⟨rfl, rfl, id, fun _ => rfl⟩
  have told := begins.trans ((Roster.offers_of_deliverAll delivered).trans
    ((Roster.offers_of_fire fires).trans ends))
  rw [List.nil_append, List.nil_append, List.append_nil] at told
  exact ⟨told, rfl, moved⟩

end World

end PriorityAgents
