import PriorityAgents.Patrol.Rules
import PriorityAgents.Proofs.World.Watch

/-!
The mail of a world: what is posted for agents, and what reaches them.

Whatever the callbacks do, a tick takes the whole queue, in the order of posting, before it hands
out a timer. What an event meets is decided when its turn comes, by what the events before it have
left; whether its agent is still there has been decided before the tick, since nothing that happens
in a tick empties a slot.
-/

set_option autoImplicit false

namespace PriorityAgents

variable {vocabulary : Vocabulary}

/-- To whom an event was offered, and under what name. -/
def Entry.delivered? : Entry → Option (AgentId × EventName)
  | .noticed (.event _ agent name _) => some (agent, name)
  | _ => none

def PendingEvent.address (event : PendingEvent vocabulary) : AgentId × EventName :=
  (event.agent, event.name)

/-- An entry of a time in which no event is offered and no agent is taken out. -/
def Entry.IsHushed : Entry → Prop
  | .noticed (.event _ _ _ _) | .destroyed _ _ => False
  | _ => True

theorem Entry.IsOwn.isHushed {agent : AgentId} {entry : Entry} (own : entry.IsOwn agent) :
    entry.IsHushed := by
  cases entry <;> first | exact trivial | exact own.elim

private theorem Entry.IsHushed.delivered? {entry : Entry} (hushed : entry.IsHushed) :
    entry.delivered? = none := by
  cases entry with
  | noticed notice => cases notice <;> first | rfl | exact hushed.elim
  | _ => rfl

namespace Happening

def posted? : Happening vocabulary → Option (PendingEvent vocabulary)
  | .posted event => some event
  | _ => none

def delivered? (happening : Happening vocabulary) : Option (AgentId × EventName) :=
  happening.entry?.bind Entry.delivered?

def IsRouting : Happening vocabulary → Prop
  | .entered entry => entry.IsHushed
  | .handed _ _ => True
  | .posted _ | .began _ => False

private theorem IsRouting.posted? {happening : Happening vocabulary}
    (routing : happening.IsRouting) : happening.posted? = none := by
  cases happening <;> first | rfl | exact routing.elim

private theorem IsRouting.delivered? {happening : Happening vocabulary}
    (routing : happening.IsRouting) : happening.delivered? = none := by
  cases happening with
  | entered entry => exact Entry.IsHushed.delivered? routing
  | _ => rfl

end Happening

abbrev History (vocabulary : Vocabulary) : Type := List (Happening vocabulary)

namespace History

def posted (history : History vocabulary) : List (PendingEvent vocabulary) :=
  history.filterMap Happening.posted?

def delivered (history : History vocabulary) : List (AgentId × EventName) :=
  history.filterMap Happening.delivered?

/-- A queue to which each posted event is added and from which each tick takes all there is. -/
def queued (queue : List (PendingEvent vocabulary)) (history : History vocabulary) :
    List (PendingEvent vocabulary) :=
  history.foldl (fun queue happening =>
    match happening with
    | .posted event => queue ++ [event]
    | .began _ => []
    | .entered _ | .handed _ _ => queue) queue

def Lost (history : History vocabulary) (agent : AgentId) : Prop :=
  ∃ name, .entered (.destroyed agent name) ∈ history

variable (history later : History vocabulary)

theorem posted_append : posted (history ++ later) = history.posted ++ later.posted :=
  List.filterMap_append

theorem delivered_append : delivered (history ++ later) = history.delivered ++ later.delivered :=
  List.filterMap_append

theorem queued_append (queue : List (PendingEvent vocabulary)) :
    queued queue (history ++ later) = queued (queued queue history) later :=
  List.foldl_append

private theorem posted_entries (entries : List Entry) :
    posted (entries.map .entered : History vocabulary) = [] := by
  unfold posted
  rw [List.filterMap_map]
  exact List.filterMap_eq_nil_iff.mpr fun entry _ => rfl

private theorem delivered_entries (entries : List Entry) :
    delivered (entries.map .entered : History vocabulary) =
      entries.filterMap Entry.delivered? := by
  unfold delivered
  rw [List.filterMap_map]
  rfl

private theorem queued_of_silent {history : History vocabulary}
    (queue : List (PendingEvent vocabulary))
    (silent : ∀ happening ∈ history, happening.posted? = none ∧ ∀ world, happening ≠ .began world) :
    queued queue history = queue := by
  induction history generalizing queue with
  | nil => rfl
  | cons happening history ih =>
      have first := silent happening List.mem_cons_self
      have rest := ih queue fun later member => silent later (List.mem_cons_of_mem _ member)
      cases happening with
      | entered entry => exact rest
      | handed context timer => exact rest
      | posted event => cases first.1
      | began world => exact absurd rfl (first.2 world)

end History

/-! ### Slots -/

namespace Roster

variable {roster later : Roster vocabulary} {agent other : AgentId}
  {context : Context vocabulary} {controller : Controller vocabulary}

def Vacant (roster : Roster vocabulary) (agent : AgentId) : Prop :=
  roster.controllers[agent.index]? = some none

theorem vacant_iff (within : agent.index < roster.controllers.size) :
    roster.Vacant agent ↔ roster.controller? agent = none := by
  unfold Vacant controller?
  rw [Array.getElem?_eq_getElem within]
  cases roster.controllers[agent.index] <;> simp

theorem not_vacant (occupied : roster.controller? agent = some controller) :
    ¬roster.Vacant agent := by
  intro vacant
  have slot := controller?_eq_some.mp occupied
  unfold Vacant at vacant
  rw [slot] at vacant
  cases vacant

theorem vacant_keep (occupied : roster.controller? agent = some controller)
    (context : Context vocabulary) :
    (roster.keep agent context).Vacant other ↔ roster.Vacant other := by
  have slot := controller?_eq_some.mp occupied
  unfold Vacant keep
  rw [Array.getElem?_setIfInBounds]
  by_cases same : agent.index = other.index
  · rw [if_pos same, ← same, slot]
    split <;> simp
  · rw [if_neg same]

theorem vacant_enlist (context : Context vocabulary) :
    (roster.enlist context).Vacant other ↔ roster.Vacant other := by
  unfold Vacant enlist
  rw [Array.getElem?_push]
  split
  · rename_i last
    rw [last, Array.getElem?_eq_none (Nat.le_refl _)]
    simp
  · rfl

theorem vacant_discharge (occupied : roster.controller? agent = some controller)
    (timers : TimerQueue) :
    (roster.discharge agent timers).Vacant other ↔ roster.Vacant other ∨ other = agent := by
  have slot := controller?_eq_some.mp occupied
  unfold Vacant
  rw [getElem?_discharge]
  by_cases same : agent.index = other.index
  · rw [if_pos same, ← same, slot]
    exact iff_of_true rfl (.inr (AgentId.ext same.symm))
  · rw [if_neg same]
    constructor
    · exact .inl
    · intro given
      rcases given with vacant | equal
      · exact vacant
      · exact absurd (congrArg AgentId.index equal.symm) same

/-! ### Events, one after another -/

/-- The course that events take from one roster to another, with what is entered on the way. The
agents that are gone are known beforehand. -/
inductive Delivers (repertoire : Repertoire vocabulary) (now : Tick) (gone : AgentId → Prop) :
    Roster vocabulary → List (PendingEvent vocabulary) → List Entry → Roster vocabulary → Prop
  | done (roster : Roster vocabulary) : Delivers repertoire now gone roster [] [] roster
  /-- Nothing runs and nothing changes if the agent is gone or has nothing bound to the name. -/
  | unheard {roster later : Roster vocabulary} {event : PendingEvent vocabulary}
      {events : List (PendingEvent vocabulary)} {journal : List Entry}
      (deaf : gone event.agent ∨ ¬gone event.agent ∧
        ∃ controller, roster.controller? event.agent = some controller ∧
          controller.surface.handler? event.name = none)
      (rest : Delivers repertoire now gone roster events journal later) :
      Delivers repertoire now gone roster (event :: events)
        (.told
          { severity := .debug
            message := "event not handled"
            fields := [("agent", event.agent.text), ("event", event.name.text)] } ::
          .noticed (.event now event.agent event.name false) :: journal) later
  /-- The handler that is bound to the name when the event's turn comes runs to its end. -/
  | heard {roster later : Roster vocabulary} {event : PendingEvent vocabulary}
      {events : List (PendingEvent vocabulary)} {work journal : List Entry}
      {context done : Context vocabulary} {handler : Handler vocabulary}
      (here : ¬gone event.agent) (found : roster.context? event.agent = some context)
      (bound : context.controller.surface.handler? event.name = some handler)
      (ran : (context.run repertoire (repertoire.handle handler event.payload)).Gives ((), done)
        work)
      (rest : Delivers repertoire now gone (roster.keep event.agent done) events journal later) :
      Delivers repertoire now gone roster (event :: events)
        (work ++ .noticed (.event now event.agent event.name true) :: journal) later

variable {repertoire : Repertoire vocabulary} {now : Tick} {gone : AgentId → Prop}
  {events : List (PendingEvent vocabulary)} {journal : List Entry}

private theorem delivers_of_deliverAll (slots : ∀ agent, roster.Vacant agent ↔ gone agent)
    (addressed : ∀ event ∈ events, event.agent.index < roster.controllers.size)
    (given : (roster.deliverAll repertoire now events).Gives later journal) :
    Delivers repertoire now gone roster events journal later := by
  induction events generalizing roster journal with
  | nil =>
      obtain ⟨rfl, rfl⟩ := Journaled.gives_pure.mp given
      exact .done roster
  | cons event events ih =>
      obtain ⟨middle, first, second, delivered, rest, rfl⟩ := Journaled.gives_bind.mp given
      obtain ⟨handled, entries, work, rfl⟩ := gives_deliver.mp delivered
      have others : ∀ event ∈ events, event.agent.index < roster.controllers.size :=
        fun event member => addressed event (List.mem_cons_of_mem _ member)
      have vacant := vacant_iff (addressed event List.mem_cons_self)
      cases found : roster.context? event.agent with
      | none =>
          rw [found] at work
          obtain ⟨rfl, same, rfl⟩ := work
          rw [same] at rest
          have missing : roster.controller? event.agent = none := Option.map_eq_none_iff.mp found
          exact .unheard (.inl ((slots event.agent).mp (vacant.mpr missing))) (ih slots others rest)
      | some context =>
          rw [found] at work
          obtain ⟨done, ran, rfl⟩ := work
          obtain ⟨occupied, _⟩ := context?_eq_some.mp found
          have here : ¬gone event.agent := fun lost =>
            not_vacant occupied ((slots event.agent).mpr lost)
          unfold Context.handleEvent at ran
          cases bound : context.controller.surface.handler? event.name with
          | none =>
              rw [bound] at ran
              obtain ⟨reached, rfl⟩ := Journaled.gives_pure.mp ran
              cases reached
              rw [keep_self found] at rest
              exact .unheard (.inr ⟨here, context.controller, occupied, bound⟩)
                (ih slots others rest)
          | some handler =>
              rw [bound] at ran
              obtain ⟨⟨_, reached⟩, work, _, ran, final, rfl⟩ := Journaled.gives_bind.mp ran
              obtain ⟨same, rfl⟩ := Journaled.gives_pure.mp final
              cases same
              have kept := ih (fun other => (vacant_keep occupied done).trans (slots other))
                (by rwa [size_keep]) rest
              rw [List.append_nil, List.append_assoc]
              exact .heard here found bound ran kept

private theorem Delivers.leaves
    (delivers : Delivers repertoire now gone roster events journal later) :
    (∀ agent, later.Vacant agent ↔ roster.Vacant agent) ∧
      later.controllers.size = roster.controllers.size ∧
      journal.filterMap Entry.delivered? = events.map PendingEvent.address ∧
      journal.filterMap Entry.reported? = [] ∧
      ∀ agent name, .destroyed agent name ∉ journal := by
  induction delivers with
  | done roster => exact ⟨fun _ => Iff.rfl, rfl, rfl, rfl, nofun⟩
  | @unheard roster later event events journal deaf rest ih =>
      obtain ⟨slots, size, delivered, reported, lost⟩ := ih
      refine ⟨slots, size, congrArg (event.address :: ·) delivered, reported, ?_⟩
      intro agent name member
      simp only [List.mem_cons, reduceCtorEq, false_or] at member
      exact lost agent name member
  | @heard roster later event events work journal context done handler here found bound ran rest
      ih =>
      obtain ⟨slots, size, delivered, reported, lost⟩ := ih
      obtain ⟨occupied, _⟩ := context?_eq_some.mp found
      have own := (Context.Works.run ran).own
      refine ⟨fun agent => (slots agent).trans (vacant_keep occupied done),
        size.trans (size_keep ..), ?_, ?_, ?_⟩
      · have silent : work.filterMap Entry.delivered? = [] :=
          List.filterMap_eq_nil_iff.mpr fun entry member => (own entry member).isHushed.delivered?
        rw [List.filterMap_append, silent]
        exact congrArg (event.address :: ·) delivered
      · have silent : work.filterMap Entry.reported? = [] :=
          List.filterMap_eq_nil_iff.mpr fun entry member => (own entry member).reported?
        rw [List.filterMap_append, silent]
        exact reported
      · intro agent name member
        simp only [List.mem_append, List.mem_cons, reduceCtorEq, false_or] at member
        rcases member with mine | later
        · exact own _ mine
        · exact lost agent name later

/-! ### Fired timers, one after another -/

theorem own_of_onTimer {fired : TimerHandle} {outcome : Reconsideration}
    {done : Context vocabulary}
    (given : (context.onTimer repertoire fired).Gives (outcome, done) journal) :
    ∀ entry ∈ journal, entry.IsOwn context.controller.id := by
  by_cases pending : context.controller.pending = some fired
  · exact (Context.works_of_onTimer pending given).1.own
  · have detach : context.controller.scheduler.detach? fired = none := if_neg pending
    unfold Context.onTimer at given
    rw [detach] at given
    obtain ⟨_, early, _, said, final, rfl⟩ := Journaled.gives_bind.mp given
    obtain ⟨_, rfl⟩ := Journaled.gives_pure.mp final
    intro entry member
    rw [Context.gives_report.mp said, List.append_nil, List.mem_singleton] at member
    rw [member]
    exact trivial

private theorem routing_of_routeAll {timers : List Timer} {fired : Nat}
    {history : History vocabulary}
    (given : (roster.watchedRouteAll repertoire now timers).Gives (fired, later) history) :
    (∀ happening ∈ history, happening.IsRouting) ∧
      (∀ agent, later.Vacant agent ↔ roster.Vacant agent) ∧
      later.controllers.size = roster.controllers.size := by
  induction timers generalizing roster history fired with
  | nil =>
      obtain ⟨reached, rfl⟩ := Journaled.gives_pure.mp given
      cases reached
      exact ⟨nofun, fun _ => Iff.rfl, rfl⟩
  | cons timer timers ih =>
      cases found : roster.context? timer.owner with
      | none =>
          unfold watchedRouteAll at given
          rw [found] at given
          exact ih given
      | some context =>
          obtain ⟨outcome, done, entries, others, rest, ran, routed, rfl, rfl⟩ :=
            (gives_watchedRouteAll_cons found).mp given
          obtain ⟨occupied, _⟩ := context?_eq_some.mp found
          obtain ⟨routing, slots, size⟩ := ih routed
          refine ⟨?_, fun agent => (slots agent).trans (vacant_keep occupied done),
            size.trans (size_keep ..)⟩
          intro happening member
          simp only [List.mem_cons, List.mem_append, List.mem_map] at member
          rcases member with rfl | ⟨entry, own, rfl⟩ | rfl | later
          · exact trivial
          · exact (own_of_onTimer ran entry own).isHushed
          · exact trivial
          · exact routing happening later

private theorem routing_of_fire {fired : Nat} {history : History vocabulary}
    (given : (roster.watchedFire repertoire now).Gives (fired, later) history) :
    (∀ happening ∈ history, happening.IsRouting) ∧
      (∀ agent, later.Vacant agent ↔ roster.Vacant agent) ∧
      later.controllers.size = roster.controllers.size := by
  obtain ⟨due, timers, routing, _, routed, rfl⟩ := gives_watchedFire.mp given
  obtain ⟨silent, slots, size⟩ := routing_of_routeAll routed
  refine ⟨?_, slots, size⟩
  intro happening member
  rcases List.mem_cons.mp member with rfl | later
  · exact trivial
  · exact silent happening later

end Roster

/-! ### Whole runs -/

/-- What follows where a tick begins: all that has been posted since the tick before is offered, in
the order of posting, and only then are timers handed out. -/
def MailRound (repertoire : Repertoire vocabulary) (before : History vocabulary)
    (start : World vocabulary) (after : History vocabulary) : Prop :=
  let now := start.clock.now
  ∃ delivering middle firing fired rest,
    after = .entered (.noticed (.tickStart now)) :: (delivering.map .entered ++
      (firing ++ .entered (.noticed (.tickEnd now fired)) :: rest)) ∧
    start.events = before.queued [] ∧
    Roster.Delivers repertoire now before.Lost (start.roster.advanceTo now) start.events
      delivering middle ∧
    delivering.filterMap Entry.delivered? = start.events.map PendingEvent.address ∧
    delivering.filterMap Entry.reported? = [] ∧
    ∀ happening ∈ firing, happening.IsRouting

/-- The mail of a world is in order at the end of a history. -/
structure Mail (repertoire : Repertoire vocabulary) (history : History vocabulary)
    (world : World vocabulary) : Prop where
  /-- What has been offered, and then what waits, is what has been posted. -/
  inOrder : history.delivered ++ world.events.map PendingEvent.address =
    history.posted.map PendingEvent.address
  waiting : world.events = history.queued []
  rounds (before : History vocabulary) (start : World vocabulary) (after : History vocabulary) :
    history = before ++ .began start :: after → MailRound repertoire before start after
  slots (agent : AgentId) : world.roster.Vacant agent ↔ history.Lost agent
  addressed : ∀ event ∈ world.events, event.agent.index < world.roster.controllers.size

namespace MailRound

variable {repertoire : Repertoire vocabulary} {before after : History vocabulary}
  {start : World vocabulary}

theorem append (round : MailRound repertoire before start after) (more : History vocabulary) :
    MailRound repertoire before start (after ++ more) := by
  obtain ⟨delivering, middle, firing, fired, rest, rfl, facts⟩ := round
  exact ⟨delivering, middle, firing, fired, rest ++ more, by simp, facts⟩

end MailRound

namespace Mail

variable {repertoire : Repertoire vocabulary} {history more : History vocabulary}
  {world later : World vocabulary}

private theorem of_create {config : Config} {reconsiderNow : Option Span}
    (created : World.create config reconsiderNow = .ok world) : Mail repertoire [] world := by
  obtain ⟨timers, _, _, _, rfl⟩ := World.of_create created
  refine
    { inOrder := rfl
      waiting := rfl
      rounds := ?_
      slots := ?_
      addressed := nofun }
  · intro before start after split
    exact absurd split (by simp)
  · intro agent
    constructor
    · intro impossible
      cases impossible
    · intro lost
      obtain ⟨name, member⟩ := lost
      exact absurd member List.not_mem_nil

theorem rounds_append (mail : Mail repertoire history world)
    (rest : ∀ before start after, more = before ++ .began start :: after →
      MailRound repertoire (history ++ before) start after)
    (before : History vocabulary) (start : World vocabulary) (after : History vocabulary)
    (split : history ++ more = before ++ .began start :: after) :
    MailRound repertoire before start after := by
  rcases List.append_eq_append_iff.mp split with ⟨between, rfl, tail⟩ | ⟨between, whole, tail⟩
  · exact rest between start after tail
  · cases between with
    | nil =>
        rw [List.append_nil] at whole
        subst whole
        have round := rest [] start after tail.symm
        rwa [List.append_nil] at round
    | cons first between =>
        obtain ⟨rfl, rfl⟩ := List.cons.inj tail
        exact (mail.rounds before start between whole).append more

theorem lost_append {agent : AgentId} :
    History.Lost (history ++ more) agent ↔ history.Lost agent ∨ History.Lost more agent := by
  unfold History.Lost
  simp only [List.mem_append, exists_or]

private theorem calm {entries : List Entry} (mail : Mail repertoire history world)
    (events : later.events = world.events) (silent : ∀ entry ∈ entries, entry.delivered? = none)
    (slots : ∀ agent, later.roster.Vacant agent ↔
      world.roster.Vacant agent ∨ ∃ name, .destroyed agent name ∈ entries)
    (grows : world.roster.controllers.size ≤ later.roster.controllers.size) :
    Mail repertoire (history ++ entries.map .entered) later := by
  refine
    { inOrder := ?_
      waiting := ?_
      rounds := ?_
      slots := ?_
      addressed := ?_ }
  · have none : entries.filterMap Entry.delivered? = [] := List.filterMap_eq_nil_iff.mpr silent
    rw [History.posted_append, History.delivered_append, History.posted_entries,
      History.delivered_entries, none, List.append_nil, List.append_nil, events]
    exact mail.inOrder
  · rw [events, mail.waiting, History.queued_append]
    symm
    apply History.queued_of_silent
    intro happening member
    obtain ⟨entry, _, rfl⟩ := List.mem_map.mp member
    exact ⟨rfl, nofun⟩
  · apply mail.rounds_append
    intro before start after split
    have member : Happening.began start ∈ entries.map Happening.entered :=
      split ▸ List.mem_append_right _ List.mem_cons_self
    obtain ⟨entry, _, impossible⟩ := List.mem_map.mp member
    cases impossible
  · intro agent
    rw [slots, mail.slots, lost_append]
    simp [History.Lost]
  · rw [events]
    exact fun event member => Nat.lt_of_lt_of_le (mail.addressed event member) grows

private theorem post {agent : AgentId} {name : EventName} {payload : vocabulary.Payload}
    (mail : Mail repertoire history world) (accepted : world.post agent name payload = .ok later) :
    Mail repertoire (history ++ [.posted { agent, name, payload }]) later := by
  unfold World.post at accepted
  cases found : world.controller? agent with
  | none =>
      rw [found] at accepted
      cases accepted
  | some controller =>
      rw [found] at accepted
      cases accepted
      have slot := Roster.controller?_eq_some.mp found
      refine
        { inOrder := ?_
          waiting := ?_
          rounds := ?_
          slots := ?_
          addressed := ?_ }
      · rw [History.posted_append, History.delivered_append, List.map_append, List.map_append]
        change history.delivered ++ [] ++ (_ ++ _) = _
        rw [List.append_nil, ← List.append_assoc, mail.inOrder]
        rfl
      · change world.events ++ _ = _
        rw [mail.waiting, History.queued_append]
        rfl
      · apply mail.rounds_append
        intro before start after split
        have member : Happening.began start ∈ [Happening.posted { agent, name, payload }] := by
          rw [split]
          exact List.mem_append_right _ List.mem_cons_self
        cases List.mem_singleton.mp member
      · intro other
        rw [lost_append, ← mail.slots]
        simp [History.Lost]
      · intro event member
        rcases List.mem_append.mp member with before | new
        · exact mail.addressed event before
        · rw [List.mem_singleton.mp new]
          exact (Array.getElem?_eq_some_iff.mp slot).1

/-- A tick is a round of the mail. Nothing is posted in it, nobody is lost, and no other tick
begins. -/
theorem round_of_tick (mail : Mail repertoire history world)
    (given : (world.watchedTick repertoire).Gives later more) :
    ∃ rest, more = .began world :: rest ∧ MailRound repertoire history world rest ∧
      (∀ happening ∈ rest, happening.posted? = none ∧ (∀ start, happening ≠ .began start) ∧
        ∀ agent name, happening ≠ .entered (.destroyed agent name)) ∧
      History.delivered rest = world.events.map PendingEvent.address ∧
      (∀ agent, later.roster.Vacant agent ↔ world.roster.Vacant agent) ∧ later.events = [] := by
  obtain ⟨delivering, firing, fired, middle, roster, clock, delivered, fires, _, rfl, rfl⟩ :=
    World.gives_watchedTick.mp given
  have advanced (agent : AgentId) :
      (world.roster.advanceTo world.clock.now).Vacant agent ↔ history.Lost agent :=
    mail.slots agent
  have delivers := Roster.delivers_of_deliverAll advanced mail.addressed delivered
  obtain ⟨slots, size, notices, reported, kept⟩ := delivers.leaves
  obtain ⟨routing, laterSlots, _⟩ := Roster.routing_of_fire fires
  refine ⟨_, rfl, ⟨delivering, middle, firing, fired, [], rfl, mail.waiting, delivers, notices,
    reported, routing⟩, ?_, ?_, fun agent => (laterSlots agent).trans (slots agent), rfl⟩
  · intro happening member
    simp only [List.mem_cons, List.mem_append, List.mem_map, List.not_mem_nil, or_false] at member
    rcases member with rfl | ⟨entry, inside, rfl⟩ | inside | rfl
    · exact ⟨rfl, nofun, nofun⟩
    · refine ⟨rfl, nofun, ?_⟩
      intro agent name same
      cases same
      exact kept agent name inside
    · have quiet := routing happening inside
      refine ⟨quiet.posted?, ?_, ?_⟩
      · intro start same
        rw [same] at quiet
        exact quiet
      · intro agent name same
        rw [same] at quiet
        exact quiet
    · exact ⟨rfl, nofun, nofun⟩
  · have none : History.delivered firing = [] :=
      List.filterMap_eq_nil_iff.mpr fun happening inside => (routing happening inside).delivered?
    change History.delivered (delivering.map .entered ++ (firing ++ [_])) = _
    rw [History.delivered_append, History.delivered_append, History.delivered_entries, notices,
      none]
    exact List.append_nil _

/-- A tick takes all that waits, and what is posted from then on waits for the next. -/
theorem tick (mail : Mail repertoire history world)
    (given : (world.watchedTick repertoire).Gives later more) :
    Mail repertoire (history ++ more) later := by
  obtain ⟨rest, rfl, round, silent, delivered, slots, empty⟩ := mail.round_of_tick given
  have posted : History.posted rest = [] :=
    List.filterMap_eq_nil_iff.mpr fun happening member => (silent happening member).1
  refine
    { inOrder := ?_
      waiting := ?_
      rounds := ?_
      slots := ?_
      addressed := ?_ }
  · rw [History.posted_append, History.delivered_append, List.map_append, ← mail.inOrder, empty]
    change _ ++ History.delivered rest ++ [] = _ ++ (History.posted rest).map _
    rw [delivered, posted, List.append_nil, List.map_nil, List.append_nil]
  · rw [empty, History.queued_append]
    symm
    exact History.queued_of_silent [] fun happening member =>
      ⟨(silent happening member).1, (silent happening member).2.1⟩
  · apply mail.rounds_append
    intro before start after split
    cases before with
    | nil =>
        obtain ⟨same, rfl⟩ := List.cons.inj split
        cases same
        rw [List.append_nil]
        exact round
    | cons first before =>
        obtain ⟨_, tail⟩ := List.cons.inj split
        have inside := silent (.began start) (tail ▸ List.mem_append_right _ List.mem_cons_self)
        exact absurd rfl (inside.2.1 start)
  · intro agent
    rw [lost_append, ← mail.slots, slots, iff_self_or]
    intro lost
    obtain ⟨name, member⟩ := lost
    rcases List.mem_cons.mp member with impossible | inside
    · cases impossible
    · exact absurd rfl ((silent _ inside).2.2 agent name)
  · rw [empty]
    exact nofun

private theorem ticks {count : Nat} (mail : Mail repertoire history world)
    (given : (world.watchedTicks repertoire count).Gives later more) :
    Mail repertoire (history ++ more) later := by
  induction count generalizing world history more with
  | zero =>
      obtain ⟨rfl, rfl⟩ := Journaled.gives_pure.mp given
      rwa [List.append_nil]
  | succ count ih =>
      obtain ⟨middle, first, second, ticked, rest, rfl⟩ := Journaled.gives_bind.mp given
      rw [← List.append_assoc]
      exact ih (mail.tick ticked) rest

private theorem toEnd (mail : Mail repertoire history world)
    (given : (world.watchedToEnd repertoire).Gives later more) :
    Mail repertoire (history ++ more) later := by
  obtain ⟨middle, first, second, ticked, rest, rfl⟩ := Journaled.gives_bind.mp given
  obtain ⟨_, _, _, told, final, rfl⟩ := Journaled.gives_bind.mp rest
  obtain ⟨rfl, rfl⟩ := Journaled.gives_pure.mp final
  obtain ⟨entries, noticed, rfl⟩ := Witnessed.gives_carry.mp told
  rw [← List.append_assoc, List.append_nil]
  refine (mail.ticks ticked).calm rfl ?_ ?_ (Nat.le_refl _)
  · rw [Logged.gives_notify.mp noticed]
    simp [Entry.delivered?]
  · rw [Logged.gives_notify.mp noticed]
    simp

/-! ### What a host does -/

private theorem hushed {entries : List Entry} (mail : Mail repertoire history world)
    (hushed : ∀ entry ∈ entries, entry.IsHushed) (events : later.events = world.events)
    (slots : ∀ agent, later.roster.Vacant agent ↔ world.roster.Vacant agent)
    (grows : world.roster.controllers.size ≤ later.roster.controllers.size) :
    Mail repertoire (history ++ entries.map .entered) later := by
  refine mail.calm events (fun entry member => (hushed entry member).delivered?) ?_ grows
  intro agent
  rw [slots, iff_self_or]
  intro lost
  obtain ⟨name, member⟩ := lost
  exact (hushed _ member).elim

private theorem unmoved (mail : Mail repertoire history world)
    (events : later.events = world.events)
    (slots : ∀ agent, later.roster.Vacant agent ↔ world.roster.Vacant agent)
    (grows : world.roster.controllers.size ≤ later.roster.controllers.size) :
    Mail repertoire history later := by
  rw [← List.append_nil history]
  exact mail.hushed (show ∀ entry ∈ ([] : List Entry), entry.IsHushed from nofun) events slots grows

private theorem spawn {name : String} {state : vocabulary.State} {setup : Program vocabulary Unit}
    {answer : Except WorldError (AgentId × World vocabulary)} {entries : List Entry}
    (mail : Mail repertoire history world)
    (given : (world.spawn repertoire state name setup).Gives answer entries) :
    Mail repertoire (history ++ entries.map .entered) (world.after answer) := by
  have outcome := World.gives_spawn.mp given
  cases free : World.agentIdFor world.roster.controllers.size with
  | error cause =>
      rw [free] at outcome
      obtain ⟨rfl, rfl⟩ := outcome
      exact mail.hushed nofun rfl (fun _ => Iff.rfl) (Nat.le_refl _)
  | ok id =>
      rw [free] at outcome
      obtain ⟨done, work, ran, rfl, rfl⟩ := outcome
      have own := (Context.Works.run ran).own
      refine mail.hushed ?_ rfl (fun agent => Roster.vacant_enlist done) ?_
      · intro entry member
        rcases List.mem_append.mp member with mine | told
        · exact (own entry mine).isHushed
        · rw [List.mem_singleton.mp told]
          exact trivial
      · change _ ≤ (world.roster.controllers.push _).size
        rw [Array.size_push]
        exact Nat.le_succ _

private theorem withAgent {α : Type} {agent : AgentId} {program : Program vocabulary α}
    {answer : Except WorldError (α × World vocabulary)} {entries : List Entry}
    (mail : Mail repertoire history world)
    (given : (world.withAgent repertoire agent program).Gives answer entries) :
    Mail repertoire (history ++ entries.map .entered) (world.after answer) := by
  have outcome := World.gives_withAgent.mp given
  cases found : (world.roster.advanceTo world.clock.now).context? agent with
  | none =>
      rw [found] at outcome
      obtain ⟨rfl, rfl⟩ := outcome
      exact mail.hushed nofun rfl (fun _ => Iff.rfl) (Nat.le_refl _)
  | some context =>
      rw [found] at outcome
      obtain ⟨reply, done, ran, rfl⟩ := outcome
      have occupied : world.roster.controller? agent = some context.controller :=
        (Roster.context?_eq_some.mp found).1
      have own := (Context.Works.run ran).own
      exact mail.hushed (fun entry member => (own entry member).isHushed) rfl
        (fun other => Roster.vacant_keep occupied done) (Nat.le_of_eq (Roster.size_keep ..).symm)

private theorem destroy {agent : AgentId} {payload : vocabulary.Payload}
    {answer : Except WorldError (Controller vocabulary × World vocabulary)}
    {entries : List Entry} (mail : Mail repertoire history world)
    (given : (world.destroy repertoire agent payload).Gives answer entries) :
    Mail repertoire (history ++ entries.map .entered) (world.after answer) := by
  have outcome := World.gives_destroy.mp given
  cases found : world.roster.context? agent with
  | none =>
      rw [found] at outcome
      obtain ⟨rfl, rfl⟩ := outcome
      exact mail.hushed nofun rfl (fun _ => Iff.rfl) (Nat.le_refl _)
  | some context =>
      rw [found] at outcome
      obtain ⟨handled, told, done, first, second, ran, torn, rfl, rfl⟩ := outcome
      obtain ⟨occupied, _⟩ := Roster.context?_eq_some.mp found
      have own := ((Context.Works.handleEvent ran).trans (Context.Works.teardown torn)).own
      refine mail.calm rfl ?_ ?_ ?_
      · intro entry member
        rcases List.mem_append.mp member with mine | last
        · exact (own entry mine).isHushed.delivered?
        · rw [List.mem_singleton.mp last]
          rfl
      · intro other
        change (world.roster.discharge agent done.timers).Vacant other ↔ _
        rw [Roster.vacant_discharge occupied]
        refine or_congr_right ?_
        constructor
        · intro same
          exact ⟨done.controller.name, List.mem_append_right _ (by rw [same]; simp)⟩
        · intro lost
          obtain ⟨name, member⟩ := lost
          rcases List.mem_append.mp member with mine | last
          · exact (own _ mine).elim
          · cases List.mem_singleton.mp last
            rfl
      · change _ ≤ (world.roster.controllers.setIfInBounds _ _).size
        rw [Array.size_setIfInBounds]

private theorem obey {call : Call vocabulary} (mail : Mail repertoire history world)
    (given : (world.watchedObey repertoire call).Gives later more) :
    Mail repertoire (history ++ more) later := by
  cases call with
  | spawn agent name setup =>
      obtain ⟨entries, obeyed, rfl⟩ := Witnessed.gives_carry.mp given
      obtain ⟨answer, spawned, rfl⟩ := Journaled.gives_map.mp obeyed
      exact mail.spawn spawned
  | spawnWithTree agent name tree =>
      obtain ⟨entries, obeyed, rfl⟩ := Witnessed.gives_carry.mp given
      obtain ⟨answer, spawned, rfl⟩ := Journaled.gives_map.mp obeyed
      exact mail.spawn spawned
  | withAgent agent program =>
      obtain ⟨entries, obeyed, rfl⟩ := Witnessed.gives_carry.mp given
      obtain ⟨answer, ran, rfl⟩ := Journaled.gives_map.mp obeyed
      exact mail.withAgent ran
  | post agent name payload =>
      cases accepted : world.post agent name payload with
      | error cause =>
          simp only [World.watchedObey, accepted] at given
          obtain ⟨rfl, rfl⟩ := Journaled.gives_pure.mp given
          rwa [List.append_nil]
      | ok posted =>
          simp only [World.watchedObey, accepted] at given
          obtain ⟨_, _, _, marked, rest, rfl⟩ := Journaled.gives_bind.mp given
          obtain ⟨rfl, rfl⟩ := Journaled.gives_pure.mp rest
          rw [Journaled.gives_enter.mp marked, List.append_nil]
          exact mail.post accepted
  | destroy agent payload =>
      obtain ⟨entries, obeyed, rfl⟩ := Witnessed.gives_carry.mp given
      obtain ⟨answer, destroyed, rfl⟩ := Journaled.gives_map.mp obeyed
      exact mail.destroy destroyed
  | run => exact mail.toEnd given
  | runTicks count => exact mail.ticks given

private theorem undergoAll {acts : List (HostAct vocabulary)} (mail : Mail repertoire history world)
    (given : (world.watchedUndergoAll repertoire acts).Gives later more) :
    Mail repertoire (history ++ more) later := by
  induction acts generalizing world history more with
  | nil =>
      obtain ⟨rfl, rfl⟩ := Journaled.gives_pure.mp given
      rwa [List.append_nil]
  | cons act acts ih =>
      obtain ⟨middle, first, second, underwent, rest, rfl⟩ := Journaled.gives_bind.mp given
      rw [← List.append_assoc]
      refine ih ?_ rest
      cases act with
      | call call => exact mail.obey underwent
      | rearrange config clock timers change =>
          obtain ⟨rfl, rfl⟩ := Journaled.gives_pure.mp underwent
          rw [List.append_nil]
          refine mail.unmoved rfl ?_ ?_
          · intro agent
            change (world.roster.controllers.mapIdx _)[agent.index]? = _ ↔ _
            rw [Array.getElem?_mapIdx]
            unfold Roster.Vacant
            cases world.roster.controllers[agent.index]? with
            | none => simp
            | some slot => cases slot <;> simp
          · change _ ≤ (world.roster.controllers.mapIdx _).size
            rw [Array.size_mapIdx]

end Mail

/-- Whatever a host does with a world from its beginning, and whatever the callbacks do, events
reach their agents in the order of posting, each one once and in the first tick after it was
posted. -/
theorem World.mail_of_undergoAll {repertoire : Repertoire vocabulary} {config : Config}
    {reconsiderNow : Option Span} {world later : World vocabulary}
    {acts : List (HostAct vocabulary)} (created : World.create config reconsiderNow = .ok world)
    (underwent : (world.undergoAll repertoire acts).outcome = .ok later) :
    ∃ history : History vocabulary,
      (world.watchedUndergoAll repertoire acts).Gives later history ∧
      history.filterMap Happening.entry? = (world.undergoAll repertoire acts).journal ∧
      Mail repertoire history later ∧
      history.delivered.length + later.events.length = history.posted.length := by
  have same := World.unwatched_undergoAll repertoire world acts
  have outcome : (world.watchedUndergoAll repertoire acts).outcome = .ok later :=
    (congrArg Journaled.outcome same).trans underwent
  have given := Journaled.gives_of_outcome outcome
  have mail : Mail repertoire (world.watchedUndergoAll repertoire acts).journal later :=
    (Mail.of_create created).undergoAll given
  refine ⟨_, given, congrArg Journaled.journal same, mail, ?_⟩
  have lengths := congrArg List.length mail.inOrder
  rwa [List.length_append, List.length_map, List.length_map] at lengths

/-- A ship is hailed and nothing is bound to that name; another one is attacked but is gone when
its event comes; the first one is attacked as well and is there to take the hit. What is posted
after the tick still waits. -/
theorem World.mail_of_undergoAll_patrol :
    let ada : AgentId := ⟨0, by decide⟩
    let grace : AgentId := ⟨1, by decide⟩
    let calls : List (Call Patrol.ships) :=
      [.spawn (.fresh "Ada") "patrol" Patrol.start, .spawn (.fresh "Grace") "patrol" Patrol.start,
        .runTicks 2, .post grace ⟨"hail"⟩ ⟨"Krait", 0⟩,
        .post ada Patrol.shipBeingAttacked ⟨"Krait", 45⟩, .destroy ada ⟨"Krait", 100⟩,
        .post grace Patrol.shipBeingAttacked ⟨"Krait", 45⟩, .runTicks 1,
        .post grace Patrol.shipBeingAttacked ⟨"Krait", 5⟩]
    ∃ (world later : World Patrol.ships) (history : History Patrol.ships),
      World.create .standard none = .ok world ∧
      (world.undergoAll Patrol.repertoire (calls.map .call)).outcome = .ok later ∧
      ((world.play Patrol.repertoire calls).notices.filterMap fun
        | .event _ agent _ handled => some (agent.index, handled)
        | _ => none) = [(1, false), (0, false), (1, true)] ∧
      later.events.length = 1 ∧ Mail Patrol.repertoire history later := by
  intro ada grace calls
  obtain ⟨world, created, rest⟩ : ∃ world, World.create .standard none = .ok world ∧
      ((world.play Patrol.repertoire calls).outcome.toOption.any fun later =>
        decide (((world.play Patrol.repertoire calls).notices.filterMap fun
          | .event _ agent _ handled => some (agent.index, handled)
          | _ => none) = [(1, false), (0, false), (1, true)] ∧ later.events.length = 1)) = true :=
    exists_ok (by decide +kernel)
  obtain ⟨later, played, facts⟩ := exists_ok rest
  obtain ⟨notices, one⟩ := of_decide_eq_true facts
  have underwent : (world.undergoAll Patrol.repertoire (calls.map .call)).outcome = .ok later := by
    rw [World.undergoAll_calls]
    exact played
  obtain ⟨history, _, _, mail, _⟩ := World.mail_of_undergoAll created underwent
  exact ⟨world, later, history, created, underwent, notices, one, mail⟩

end PriorityAgents
