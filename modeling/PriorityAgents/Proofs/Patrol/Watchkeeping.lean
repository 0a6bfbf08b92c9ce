import PriorityAgents.Proofs.Controller.Turn
import PriorityAgents.Proofs.Patrol.Shipshape
import PriorityAgents.Proofs.World.Watch

/-!
Ships within a tick.

Every ship is afloat when a tick begins. Attacks come first, and a ship that goes down in them has
put off its next reconsideration beyond the tick, so no timer that is handed out in the tick is that
of a wreck. Whoever is handed one is afloat, walks to the end of its tree at the latest, chooses
something to do and stays afloat.
-/

set_option autoImplicit false

namespace PriorityAgents.Patrol

variable {roster later : Roster ships} {agent : AgentId} {docket : Docket} {now : Tick}
  {issued : Nat} {journal : List Entry} {context done : Context ships} {hull : UInt32 → Prop}

def hullOf (roster : Roster ships) (agent : AgentId) : Option UInt32 :=
  (roster.controller? agent).map fun controller => controller.agent.hull

private theorem hullOf_keep {controller : Controller ships}
    (occupied : roster.controller? agent = some controller) (done : Context ships)
    (other : AgentId) :
    hullOf (roster.keep agent done) other =
      if other = agent then some done.controller.agent.hull else hullOf roster other := by
  unfold hullOf
  rw [Roster.controller?_keep occupied]
  split <;> rfl

private theorem present_keep {controller : Controller ships}
    (occupied : roster.controller? agent = some controller) (done : Context ships)
    (other : AgentId) :
    ((roster.keep agent done).controller? other).isSome = (roster.controller? other).isSome := by
  rw [Roster.controller?_keep occupied]
  by_cases mine : other = agent
  · rw [if_pos mine, mine, occupied]
    rfl
  · rw [if_neg mine]

/-! ### Attacks -/

/-- An attack that a ship does not hear of changes nothing. One that it hears of is a hit, and if
the ship goes down by it then nothing that stands for it is due by now. -/
theorem attack_cases {attack : Attack} {handled : Bool} (ship : Shipshape hull context.controller)
    (given : (context.handleEvent repertoire shipBeingAttacked attack).Gives (handled, done)
      journal) :
    (done = context ∧ journal = []) ∨
      let left := Ship.lessened context.controller.agent.hull attack.damage
      Shipshape (· = left) done.controller ∧
        (left = 0 → ∀ docket : Docket, docket.clock = context.timers.clock →
          ∀ timer ∈ (docket.read journal).timers, timer.owner = context.controller.id →
            docket.clock.now < timer.due) := by
  have exactly : Shipshape (· = context.controller.agent.hull) context.controller :=
    ship.imp fun _ => rfl
  unfold Context.handleEvent at given
  cases bound : context.controller.surface.handler? shipBeingAttacked with
  | none =>
      rw [bound] at given
      obtain ⟨same, rfl⟩ := Journaled.gives_pure.mp given
      cases same
      exact .inl ⟨rfl, rfl⟩
  | some handler =>
      rw [bound] at given
      obtain ⟨⟨_, reached⟩, entries, _, ran, final, rfl⟩ := Journaled.gives_bind.mp given
      obtain ⟨same, rfl⟩ := Journaled.gives_pure.mp final
      cases same
      rw [List.append_nil]
      right
      rcases ship.alert handler bound with rfl | rfl
      · exact ⟨alarm_meets attack _ _ _ _ ran exactly,
          fun _ => alarm_putsOff attack _ _ _ _ ran exactly⟩
      · exact ⟨fightOn_meets attack _ _ _ _ ran exactly,
          fun down => fightOn_putsOff attack down _ _ _ _ ran exactly⟩

/-- Every ship is in order, and nothing that stands for a wreck is due by now. -/
def Manned (docket : Docket) (roster : Roster ships) : Prop :=
  ∀ agent controller, roster.controller? agent = some controller →
    Shipshape (fun hull => hull = 0 → ∀ timer ∈ docket.timers, timer.owner = agent →
      docket.clock.now < timer.due) controller

/-- Nobody comes or goes, and a wreck stays one. -/
def Settles (roster later : Roster ships) : Prop :=
  ∀ agent, (later.controller? agent).isSome = (roster.controller? agent).isSome ∧
    (hullOf roster agent = some 0 → hullOf later agent = some 0)

theorem Settles.refl (roster : Roster ships) : Settles roster roster :=
  fun _ => ⟨rfl, id⟩

theorem Settles.trans {middle : Roster ships} (first : Settles roster middle)
    (second : Settles middle later) : Settles roster later :=
  fun agent => ⟨(second agent).1.trans (first agent).1,
    fun wreck => (second agent).2 ((first agent).2 wreck)⟩

private theorem settles_keep {controller : Controller ships}
    (occupied : roster.controller? agent = some controller)
    (stays : controller.agent.hull = 0 → done.controller.agent.hull = 0) :
    Settles roster (roster.keep agent done) := by
  intro other
  refine ⟨present_keep occupied done other, fun wreck => ?_⟩
  rw [hullOf_keep occupied]
  by_cases mine : other = agent
  · rw [mine, hullOf, occupied] at wreck
    rw [if_pos mine, stays (Option.some.inj wreck)]
  · rw [if_neg mine]
    exact wreck

/-- Whoever is hit and goes down has put off what is pending, whoever was down before included. What
stands for the others stands as it did. -/
theorem manned_of_deliver {event : PendingEvent ships} (keeps : roster.Keeps issued docket [])
    (manned : Manned docket roster) (attack : event.name = shipBeingAttacked)
    (given : (roster.deliver repertoire now event).Gives later journal) :
    Manned (docket.read journal) later ∧ Settles roster later := by
  obtain ⟨handled, entries, work, rfl⟩ := Roster.gives_deliver.mp given
  obtain ⟨_, _, _, silent, _⟩ := Roster.ending_routine event handled now (docket.read entries)
  rw [Docket.read_append, silent]
  cases found : roster.context? event.agent with
  | none =>
      rw [found] at work
      obtain ⟨_, rfl, rfl⟩ := work
      exact ⟨manned, .refl later⟩
  | some context =>
      rw [found] at work
      obtain ⟨done, ran, rfl⟩ := work
      rw [attack] at ran
      obtain ⟨occupied, _⟩ := Roster.context?_eq_some.mp found
      obtain ⟨id, begun⟩ := keeps.atWork found
      have ship := manned event.agent context.controller occupied
      rcases attack_cases ship ran with ⟨rfl, rfl⟩ | ⟨struck, putOff⟩
      · rw [Roster.keep_self found]
        exact ⟨manned, .refl roster⟩
      · have own := (Context.Works.handleEvent ran).own
        rw [id] at own
        have clock := (docket.read_own own).1
        constructor
        · intro agent controller member
          rcases Roster.controller?_keep_cases occupied member with ⟨rfl, rfl⟩ | ⟨other, before⟩
          · refine struck.imp fun left gone timer member owner => ?_
            rw [clock]
            exact putOff (left.symm.trans gone) docket begun.clock.symm timer member
              (owner.trans id.symm)
          · refine (manned agent controller before).imp fun ahead gone timer member owner => ?_
            rw [clock]
            have foreign : timer.owner ≠ event.agent := fun same => other (owner.symm.trans same)
            exact ahead gone timer (Docket.mem_of_read_own own member foreign) owner
        · apply settles_keep occupied
          intro gone
          have left := struck.hull
          rwa [gone, Ship.lessened_zero] at left

private theorem manned_of_deliverAll {events : List (PendingEvent ships)}
    (keeps : roster.Keeps issued docket []) (manned : Manned docket roster)
    (attacks : ∀ event ∈ events, event.name = shipBeingAttacked)
    (given : (roster.deliverAll repertoire now events).Gives later journal)
    (room : issued + journal.countP Entry.isArming ≤ 2 ^ 32 - 1) :
    Manned (docket.read journal) later ∧ Settles roster later := by
  induction events generalizing roster issued docket journal with
  | nil =>
      obtain ⟨rfl, rfl⟩ := Journaled.gives_pure.mp given
      exact ⟨manned, .refl roster⟩
  | cons event events ih =>
      obtain ⟨middle, first, second, delivered, rest, rfl⟩ := Journaled.gives_bind.mp given
      rw [List.countP_append] at room
      have served := Roster.deliver_served keeps delivered (by omega)
      obtain ⟨between, early⟩ := manned_of_deliver keeps manned (attacks event List.mem_cons_self)
        delivered
      obtain ⟨final, late⟩ := ih served.keeps between
        (fun event member => attacks event (List.mem_cons_of_mem _ member)) rest (by omega)
      rw [Docket.read_append]
      exact ⟨final, early.trans late⟩

/-! ### Fired timers -/

def Alive (context : Context ships) : Prop :=
  context.controller.agent.hull ≠ 0 ∧
    ∀ chosen reached entries,
      (context.detached.run repertoire
        (repertoire.evaluate context.controller.tree.rules)).Gives (chosen, reached) entries →
      reached.controller.agent.hull ≠ 0

private theorem alive_of_afloat (afloat : Afloat context.controller) : Alive context := by
  refine ⟨afloat.hull, ?_⟩
  intro chosen reached entries evaluated
  have detached : Afloat context.detached.controller :=
    ⟨afloat.tree, afloat.alert, afloat.hull⟩
  exact (upholds_afloat.evaluate _ _ _ _ _ evaluated detached).hull

private theorem selected_of_onTimer {fired : TimerHandle} {outcome : Reconsideration}
    (afloat : Afloat context.controller) (pending : context.controller.pending = some fired)
    (given : (context.onTimer repertoire fired).Gives (outcome, done) journal) :
    outcome = .selected ∧ Afloat done.controller := by
  refine ⟨?_, upholds_afloat.onTimer pending given afloat⟩
  have answers := repertoire.onTimer_cases fired context
  rw [given.outcome] at answers
  cases outcome with
  | selected => rfl
  | stale => exact absurd pending answers.1
  | agentGone =>
      refine absurd (decide_eq_true ?_) answers.2
      exact UInt32.pos_iff_ne_zero.mpr afloat.hull
  | noMatch =>
      have last : { Rule.fallback Deed.patrol with reconsiderAfter := some (seconds 3) } ∈
          context.controller.tree.rules := by
        rw [afloat.tree]
        simp [tree]
      cases answers.2.2 _ last

private structure Walked (roster later : Roster ships) (history : List (Happening ships)) :
    Prop where
  shipshape (agent : AgentId) (controller : Controller ships) :
    later.controller? agent = some controller → Shipshape (fun _ => True) controller
  present (agent : AgentId) :
    (later.controller? agent).isSome = (roster.controller? agent).isSome
  wrecks (agent : AgentId) : hullOf later agent = some 0 ↔ hullOf roster agent = some 0
  handed (context : Context ships) (timer : Timer) :
    .handed context timer ∈ history → Alive context
  selected (tick : Tick) (agent : AgentId) (outcome : Reconsideration) :
    .entered (.noticed (.reconsider tick agent outcome)) ∈ history → outcome = .selected

private theorem walked_of_routeAll {rest : List Timer} {fired : Nat}
    {history : List (Happening ships)} (keeps : roster.Keeps issued docket rest)
    (spared : ∀ agent controller, roster.controller? agent = some controller →
      Shipshape (fun hull => hull = 0 → ∀ timer ∈ rest, timer.owner ≠ agent) controller)
    (given : (roster.watchedRouteAll repertoire now rest).Gives (fired, later) history)
    (room : issued + Happening.armings history ≤ 2 ^ 32 - 1) :
    Walked roster later history := by
  induction rest generalizing roster issued docket history fired with
  | nil =>
      obtain ⟨reached, rfl⟩ := Journaled.gives_pure.mp given
      cases reached
      refine
        { shipshape := ?_
          present := fun _ => rfl
          wrecks := fun _ => Iff.rfl
          handed := nofun
          selected := nofun }
      intro agent controller member
      exact (spared agent controller member).imp fun _ => trivial
  | cons timer rest ih =>
      obtain ⟨context, found, pending, _⟩ := keeps.detached
      obtain ⟨outcome, done, entries, others, after, ran, routed, rfl, rfl⟩ :=
        (Roster.gives_watchedRouteAll_cons found).mp given
      obtain ⟨occupied, _⟩ := Roster.context?_eq_some.mp found
      -- Its own timer is among those that are still to be handed out, so the owner is no wreck.
      have afloat : Afloat context.controller :=
        (spared timer.owner context.controller occupied).imp fun clear gone =>
          clear gone timer List.mem_cons_self rfl
      obtain ⟨rfl, stays⟩ := selected_of_onTimer afloat pending ran
      rw [Happening.armings_cons_idle rfl, Happening.armings_append, Happening.armings_entries,
        Happening.armings_cons_idle rfl] at room
      obtain ⟨kept, _, works, _⟩ := keeps.handOut found ran (by omega)
      have walked := ih kept ?_ routed (by omega)
      · refine
          { shipshape := walked.shipshape
            present := fun agent => (walked.present agent).trans (present_keep occupied done agent)
            wrecks := ?_
            handed := ?_
            selected := ?_ }
        · intro agent
          rw [walked.wrecks, hullOf_keep occupied]
          by_cases mine : agent = timer.owner
          · rw [if_pos mine, mine, hullOf, occupied]
            exact iff_of_false (fun gone => stays.hull (Option.some.inj gone))
              fun gone => afloat.hull (Option.some.inj gone)
          · rw [if_neg mine]
        · intro other handed member
          simp only [List.mem_cons, List.mem_append, List.mem_map, reduceCtorEq, and_false,
            exists_false, false_or, Happening.handed.injEq] at member
          rcases member with ⟨rfl, rfl⟩ | later
          · exact alive_of_afloat afloat
          · exact walked.handed other handed later
        · intro tick agent outcome member
          simp only [List.mem_cons, List.mem_append, List.mem_map, reduceCtorEq, false_or,
            Happening.entered.injEq, exists_eq_right, Entry.noticed.injEq,
            Notice.reconsider.injEq] at member
          rcases member with own | ⟨_, _, same⟩ | later
          · exact (works.own _ own).elim
          · exact same
          · exact walked.selected tick agent outcome later
      · intro agent controller member
        rcases Roster.controller?_keep_cases occupied member with ⟨rfl, rfl⟩ | ⟨_, before⟩
        · exact stays.imp fun sound gone => absurd gone sound
        · exact (spared agent controller before).imp fun clear gone held inside =>
            clear gone held (List.mem_cons_of_mem _ inside)

/-! ### Whole ticks -/

variable {world after : World ships}

/-- How a tick goes for ships. -/
structure Sailed (world after : World ships) (history : List (Happening ships)) : Prop where
  quiet : after.events = []
  shipshape (agent : AgentId) (controller : Controller ships) :
    after.controller? agent = some controller → Shipshape (fun _ => True) controller
  /-- Nobody comes or goes. -/
  present (agent : AgentId) :
    (after.controller? agent).isSome = (world.controller? agent).isSome
  /-- What is a wreck at the end was one at some moment of the attacks, and the other way round. -/
  wrecks (agent : AgentId) : hullOf after.roster agent = some 0 ↔
    ∃ first second between entries, world.events = first ++ second ∧
      ((world.roster.advanceTo world.clock.now).deliverAll repertoire world.clock.now first).Gives
        between entries ∧
      hullOf between agent = some 0
  /-- Nobody is walked or left to a behaviour who is a wreck. -/
  handed (context : Context ships) (timer : Timer) :
    .handed context timer ∈ history → Alive context
  selected (tick : Tick) (agent : AgentId) (outcome : Reconsideration) :
    .entered (.noticed (.reconsider tick agent outcome)) ∈ history → outcome = .selected

theorem Sailed.reported {history : List (Happening ships)} (sailed : Sailed world after history)
    {tick : Tick} {outcome : Reconsideration}
    (noticed : .reconsider tick agent outcome ∈
      (history.filterMap Happening.entry?).filterMap Entry.notice?) : outcome = .selected := by
  obtain ⟨entry, inside, told⟩ := List.mem_filterMap.mp noticed
  obtain ⟨happening, happened, entered⟩ := List.mem_filterMap.mp inside
  cases happening <;> cases entered
  cases entry <;> cases told
  exact sailed.selected tick agent outcome happened

theorem sailed_of_tick (keeps : world.Keeps issued docket)
    (afloat : ∀ agent controller, world.controller? agent = some controller → Afloat controller)
    (attacks : ∀ event ∈ world.events, event.name = shipBeingAttacked)
    (given : (world.tick repertoire).Gives after journal)
    (room : issued + journal.countP Entry.isArming ≤ 2 ^ 32 - 1) :
    ∃ history, (world.watchedTick repertoire).Gives after history ∧
      history.filterMap Happening.entry? = journal ∧ Sailed world after history := by
  rw [← World.unwatched_tick] at given
  have watched : (world.watchedTick repertoire).Gives after
      (world.watchedTick repertoire).journal := Journaled.gives_of_outcome given.outcome
  refine ⟨_, watched, given.journal_eq, ?_⟩
  have arms : Happening.armings (world.watchedTick repertoire).journal =
      journal.countP Entry.isArming := congrArg (List.countP Entry.isArming) given.journal_eq
  rw [← arms] at room
  generalize (world.watchedTick repertoire).journal = history at watched room ⊢
  obtain ⟨delivering, firing, fired, middle, roster, clock, delivered, fires, _, rfl, rfl⟩ :=
    World.gives_watchedTick.mp watched
  obtain ⟨due, timers, routing, drained, routed, rfl⟩ := Roster.gives_watchedFire.mp fires
  rw [Happening.armings_cons_idle rfl, Happening.armings_cons_idle rfl, Happening.armings_append,
    Happening.armings_entries, List.cons_append, Happening.armings_cons_idle rfl,
    Happening.armings_append] at room
  have begun : Manned docket (world.roster.advanceTo world.clock.now) := by
    intro agent controller member
    exact (afloat agent controller member).imp fun sound gone => absurd gone sound
  obtain ⟨manned, settles⟩ := manned_of_deliverAll keeps.roster begun attacks delivered (by omega)
  have served := Roster.deliverAll_served keeps.roster delivered (by omega)
  have standing : (docket.read delivering).clock.now = world.clock.now :=
    congrArg Clock.now (served.clock.trans keeps.clock)
  obtain ⟨rfl, handing⟩ := served.keeps.drain standing drained
  have spared : ∀ agent controller, middle.controller? agent = some controller →
      Shipshape (fun hull => hull = 0 → ∀ timer ∈ Timer.inDueOrder
        ((docket.read delivering).timers.filter (·.due ≤ world.clock.now)),
          timer.owner ≠ agent) controller := by
    intro agent controller member
    refine (manned agent controller member).imp fun ahead gone timer due mine => ?_
    obtain ⟨inside, early⟩ := List.mem_filter.mp ((Timer.inDueOrder_perm _).mem_iff.mp due)
    have late := ahead gone timer inside mine
    rw [standing, Tick.lt_def] at late
    exact Nat.not_le_of_lt late (of_decide_eq_true early)
  have walked := walked_of_routeAll handing spared routed (by omega)
  refine
    { quiet := rfl
      shipshape := walked.shipshape
      present := fun agent => (walked.present agent).trans (settles agent).1
      wrecks := ?_
      handed := ?_
      selected := ?_ }
  · intro agent
    rw [walked.wrecks]
    constructor
    · intro wreck
      exact ⟨world.events, [], middle, delivering, (List.append_nil _).symm, delivered, wreck⟩
    · intro sunk
      obtain ⟨first, second, between, entries, split, early, wreck⟩ := sunk
      rw [split, Roster.deliverAll_append] at delivered
      obtain ⟨reached, before, others, again, rest, rfl⟩ := Journaled.gives_bind.mp delivered
      obtain ⟨rfl, rfl⟩ : reached = between ∧ before = entries := by
        cases early.symm.trans again
        exact ⟨rfl, rfl⟩
      rw [List.countP_append] at room
      -- The attacks that follow find a wreck and leave one.
      have mannedBetween := manned_of_deliverAll keeps.roster begun
        (fun event member => attacks event (split ▸ List.mem_append_left _ member)) early (by omega)
      have servedBetween := Roster.deliverAll_served keeps.roster early (by omega)
      exact ((manned_of_deliverAll servedBetween.keeps mannedBetween.1
        (fun event member => attacks event (split ▸ List.mem_append_right _ member)) rest
          (by omega)).2 agent).2 wreck
  · intro context timer member
    simp only [List.mem_cons, List.mem_append, List.mem_map, reduceCtorEq, and_false, exists_false,
      false_or, or_false, List.not_mem_nil] at member
    exact walked.handed context timer member
  · intro tick agent outcome member
    simp only [List.mem_cons, List.mem_append, List.mem_map, reduceCtorEq, false_or, or_false,
      Happening.entered.injEq, exists_eq_right, Entry.noticed.injEq, List.not_mem_nil] at member
    rcases member with early | late
    · cases List.filterMap_eq_nil_iff.mp served.reports _ early
    · exact walked.selected tick agent outcome late

end PriorityAgents.Patrol
