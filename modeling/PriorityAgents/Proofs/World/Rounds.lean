import Mathlib.Data.List.Perm.Basic
import PriorityAgents.Proofs.Journal.Chronicle
import PriorityAgents.Proofs.Controller.Keeping
import PriorityAgents.World.Roster

/-!
A roster within a tick: events are offered and fired timers are handed to their owners.

Between draining the timers and handing out the last of them, some agents hold handles of timers
that are in the queue no more. The invariant therefore has the timers that are still to be handed
out beside those in the queue; each step hands out the first of them.
-/

set_option autoImplicit false

namespace PriorityAgents

namespace Roster

variable {vocabulary : Vocabulary} {roster later : Roster vocabulary} {agent : AgentId}
  {context : Context vocabulary} {controller : Controller vocabulary} {journal : List Entry}
  {issued : Nat} {docket : Docket} {rest : List Timer} {now : Tick}

/-! ### Slots -/

theorem controller?_eq_some :
    roster.controller? agent = some controller ↔
      roster.controllers[agent.index]? = some (some controller) := by
  unfold controller?
  cases roster.controllers[agent.index]? with
  | none => simp
  | some slot => cases slot <;> simp

theorem context?_eq_some :
    roster.context? agent = some context ↔
      roster.controller? agent = some context.controller ∧ context.timers = roster.timers := by
  unfold context?
  rw [Option.map_eq_some_iff]
  constructor
  · intro given
    rcases given with ⟨found, occupied, rfl⟩
    exact ⟨occupied, rfl⟩
  · intro given
    rcases given with ⟨occupied, timers⟩
    exact ⟨context.controller, occupied, by rw [← timers]⟩

theorem controller?_keep (occupied : roster.controller? agent = some controller)
    (context : Context vocabulary) (other : AgentId) :
    (roster.keep agent context).controller? other =
      if other = agent then some context.controller else roster.controller? other := by
  have found := controller?_eq_some.mp occupied
  have within : agent.index < roster.controllers.size := (Array.getElem?_eq_some_iff.mp found).1
  unfold controller? keep
  rw [Array.getElem?_setIfInBounds]
  by_cases same : other = agent
  · rw [if_pos (by rw [same]), if_pos within, if_pos same]
    rfl
  · have different : agent.index ≠ other.index := fun equal => same (AgentId.ext equal.symm)
    rw [if_neg different, if_neg same]

theorem controller?_keep_cases {other : AgentId} {kept : Controller vocabulary}
    (occupied : roster.controller? agent = some controller)
    (found : (roster.keep agent context).controller? other = some kept) :
    (other = agent ∧ kept = context.controller) ∨
      (other ≠ agent ∧ roster.controller? other = some kept) := by
  rw [controller?_keep occupied] at found
  by_cases same : other = agent
  · rw [if_pos same] at found
    exact .inl ⟨same, (Option.some.inj found).symm⟩
  · rw [if_neg same] at found
    exact .inr ⟨same, found⟩

theorem keep_self (found : roster.context? agent = some context) :
    roster.keep agent context = roster := by
  obtain ⟨occupied, timers⟩ := context?_eq_some.mp found
  have slot := controller?_eq_some.mp occupied
  have same : roster.controllers.setIfInBounds agent.index (some context.controller) =
      roster.controllers := by
    apply Array.ext_getElem?
    intro index
    rw [Array.getElem?_setIfInBounds]
    by_cases chosen : agent.index = index
    · rw [if_pos chosen, ← chosen, slot]
      exact if_pos (Array.getElem?_eq_some_iff.mp slot).1
    · rw [if_neg chosen]
  unfold keep
  rw [same, timers]

theorem slots_keep (id : context.controller.id = agent)
    (slots : ∀ index (controller : Controller vocabulary),
      roster.controllers[index]? = some (some controller) → controller.id.index = index)
    (index : Nat) (controller : Controller vocabulary)
    (member : (roster.keep agent context).controllers[index]? = some (some controller)) :
    controller.id.index = index := by
  unfold keep at member
  rw [Array.getElem?_setIfInBounds] at member
  split at member
  · rename_i chosen
    split at member
    · cases member
      rw [id, chosen]
    · cases member
  · exact slots index controller member

theorem controller?_enlist (next : context.controller.id.index = roster.controllers.size)
    (other : AgentId) :
    (roster.enlist context).controller? other =
      if other = context.controller.id then some context.controller
      else roster.controller? other := by
  unfold controller? enlist
  rw [Array.getElem?_push, ← next]
  by_cases same : other = context.controller.id
  · rw [if_pos (by rw [same]), if_pos same]
    rfl
  · rw [if_neg fun equal => same (AgentId.ext equal), if_neg same]

theorem getElem?_discharge (roster : Roster vocabulary) (agent : AgentId) (timers : TimerQueue)
    (index : Nat) :
    (roster.discharge agent timers).controllers[index]? =
      if agent.index = index then roster.controllers[index]?.map fun _ => none
      else roster.controllers[index]? := by
  unfold discharge
  rw [Array.getElem?_setIfInBounds]
  by_cases chosen : agent.index = index
  · rw [if_pos chosen, if_pos chosen, ← chosen]
    by_cases within : agent.index < roster.controllers.size
    · rw [if_pos within, Array.getElem?_eq_getElem within]
      rfl
    · rw [if_neg within, Array.getElem?_eq_none (Nat.le_of_not_lt within)]
      rfl
  · rw [if_neg chosen, if_neg chosen]

theorem controller?_discharge (roster : Roster vocabulary) (agent : AgentId) (timers : TimerQueue)
    (other : AgentId) :
    (roster.discharge agent timers).controller? other =
      if other = agent then none else roster.controller? other := by
  unfold controller?
  rw [getElem?_discharge]
  by_cases same : other = agent
  · rw [if_pos (by rw [same]), if_pos same]
    cases roster.controllers[other.index]? <;> rfl
  · rw [if_neg fun equal => same (AgentId.ext equal.symm), if_neg same]

private theorem ascending_filterMap {α : Type} {read : Option (Controller vocabulary) → Option α}
    (slotOf : α → Nat) (told : ∀ index slot value, roster.controllers[index]? = some slot →
      read slot = some value → slotOf value = index) :
    (roster.controllers.toList.filterMap read).Pairwise
      fun earlier later => slotOf earlier < slotOf later := by
  rw [List.pairwise_filterMap, List.pairwise_iff_getElem]
  intro first second firstWithin secondWithin before left leftRead right rightRead
  have leftSlot := told first _ left (by rw [← Array.getElem?_toList, List.getElem?_eq_getElem])
    leftRead
  have rightSlot := told second _ right (by rw [← Array.getElem?_toList, List.getElem?_eq_getElem])
    rightRead
  omega

theorem nodup_filterMap {α : Type} {read : Option (Controller vocabulary) → Option α}
    (slotOf : α → Nat) (told : ∀ index slot value, roster.controllers[index]? = some slot →
      read slot = some value → slotOf value = index) :
    (roster.controllers.toList.filterMap read).Nodup := by
  apply (ascending_filterMap slotOf told).imp
  intro earlier later before same
  rw [same] at before
  exact Nat.lt_irrefl _ before

def Seated (roster : Roster vocabulary) : Prop :=
  ∀ index (controller : Controller vocabulary),
    roster.controllers[index]? = some (some controller) → controller.id.index = index

namespace Seated

theorem id_eq (seated : roster.Seated) (occupied : roster.controller? agent = some controller) :
    controller.id = agent :=
  AgentId.ext (seated _ _ (controller?_eq_some.mp occupied))

theorem mem_liveAgents (seated : roster.Seated) :
    agent ∈ roster.liveAgents ↔ (roster.controller? agent).isSome = true := by
  unfold liveAgents
  rw [List.mem_filterMap, Option.isSome_iff_exists]
  constructor
  · intro given
    obtain ⟨slot, member, named⟩ := given
    obtain ⟨controller, rfl, rfl⟩ := Option.map_eq_some_iff.mp named
    obtain ⟨index, found⟩ := List.mem_iff_getElem?.mp member
    rw [Array.getElem?_toList] at found
    rw [← seated index controller found] at found
    exact ⟨controller, controller?_eq_some.mpr found⟩
  · intro given
    obtain ⟨controller, occupied⟩ := given
    have found := controller?_eq_some.mp occupied
    rw [← Array.getElem?_toList] at found
    exact ⟨some controller, List.mem_of_getElem? found, congrArg some (seated.id_eq occupied)⟩

theorem ascending_liveAgents (seated : roster.Seated) :
    roster.liveAgents.Pairwise fun earlier later => earlier.index < later.index := by
  refine ascending_filterMap AgentId.index fun index slot agent found named => ?_
  obtain ⟨controller, rfl, rfl⟩ := Option.map_eq_some_iff.mp named
  exact seated index controller found

theorem nodup_liveAgents (seated : roster.Seated) : roster.liveAgents.Nodup := by
  apply seated.ascending_liveAgents.imp
  intro earlier later before same
  rw [same] at before
  exact Nat.lt_irrefl _ before

end Seated

/-! ### What holds while timers are still to be handed out -/

/-- The timers are those of a docket, every controller is in the slot of its identity, and the
handles in the slots of the controllers are those of the timers, one timer to an agent. Some of
the timers may have been taken out of the queue and wait to be handed out. -/
structure Keeps (roster : Roster vocabulary) (issued : Nat) (docket : Docket)
    (rest : List Timer) : Prop where
  clock : roster.timers.clock = docket.clock
  holds : roster.timers.Holds issued docket.timers
  slots (index : Nat) (controller : Controller vocabulary) :
    roster.controllers[index]? = some (some controller) → controller.id.index = index
  owners : ((rest ++ docket.timers).map Timer.owner).Nodup
  pending (agent : AgentId) (handle : TimerHandle) :
    (roster.controller? agent).bind Controller.pending = some handle ↔
      ∃ timer ∈ rest ++ docket.timers, timer.owner = agent ∧ timer.handle = handle

namespace Keeps

theorem single (keeps : roster.Keeps issued docket rest) : docket.Single :=
  keeps.owners.sublist ((List.sublist_append_right _ _).map _)

private theorem seated (keeps : roster.Keeps issued docket rest) : roster.Seated := keeps.slots

theorem id_eq (keeps : roster.Keeps issued docket rest)
    (occupied : roster.controller? agent = some controller) : controller.id = agent :=
  keeps.seated.id_eq occupied

theorem mem_liveAgents (keeps : roster.Keeps issued docket rest) :
    agent ∈ roster.liveAgents ↔ (roster.controller? agent).isSome = true :=
  keeps.seated.mem_liveAgents

theorem advanceTo (keeps : roster.Keeps issued docket rest) (tick : Tick) :
    (roster.advanceTo tick).Keeps issued
      { docket with clock := { docket.clock with now := docket.clock.now.latest tick } } rest := by
  refine
    { clock := ?_
      holds := keeps.holds.advanceTo tick
      slots := keeps.slots
      owners := keeps.owners
      pending := keeps.pending }
  change ({ roster.timers.clock with now := roster.timers.clock.now.latest tick } : Clock) = _
  rw [keeps.clock]

theorem atWork (keeps : roster.Keeps issued docket [])
    (found : roster.context? agent = some context) :
    context.controller.id = agent ∧ context.Keeps issued docket := by
  obtain ⟨occupied, timers⟩ := context?_eq_some.mp found
  have id := keeps.id_eq occupied
  refine ⟨id, ?_, ?_, ?_⟩
  · rw [timers]
    exact keeps.clock
  · rw [timers]
    exact keeps.holds
  · intro handle
    have slot := keeps.pending agent handle
    rwa [occupied, Option.bind_some, ← id] at slot

theorem detached {timer : Timer} (keeps : roster.Keeps issued docket (timer :: rest)) :
    ∃ context, roster.context? timer.owner = some context ∧
      context.controller.pending = some timer.handle ∧
      context.detached.controller.id = timer.owner ∧ context.detached.Keeps issued docket := by
  have slot := (keeps.pending timer.owner timer.handle).mpr ⟨timer, List.mem_cons_self, rfl, rfl⟩
  obtain ⟨controller, occupied, pending⟩ := Option.bind_eq_some_iff.mp slot
  have id := keeps.id_eq occupied
  refine ⟨⟨controller, roster.timers⟩, context?_eq_some.mpr ⟨occupied, rfl⟩, pending, id,
    keeps.clock, keeps.holds, ?_⟩
  intro handle
  constructor
  · intro impossible
    cases impossible
  · intro given
    rcases given with ⟨held, member, mine, _⟩
    have distinct := keeps.owners
    rw [List.cons_append, List.map_cons, List.nodup_cons] at distinct
    refine absurd ?_ distinct.1
    rw [← id, ← show held.owner = controller.id from mine]
    exact List.mem_map_of_mem (List.mem_append_right _ member)

private theorem replace {laterIssued : Nat} {laterDocket : Docket} (head : List Timer)
    (agent : AgentId) (keeps : roster.Keeps issued docket (head ++ rest))
    (mine : ∀ timer ∈ head, timer.owner = agent) (others : ∀ timer ∈ rest, timer.owner ≠ agent)
    (clock : later.timers.clock = laterDocket.clock)
    (holds : later.timers.Holds laterIssued laterDocket.timers)
    (slots : ∀ index (controller : Controller vocabulary),
      later.controllers[index]? = some (some controller) → controller.id.index = index)
    (elsewhere : ∀ other, other ≠ agent → later.controller? other = roster.controller? other)
    (single : laterDocket.Single) (same : laterDocket.others agent = docket.others agent)
    (own : ∀ handle, (later.controller? agent).bind Controller.pending = some handle ↔
      ∃ timer ∈ laterDocket.timers, timer.owner = agent ∧ timer.handle = handle) :
    later.Keeps laterIssued laterDocket rest := by
  have standing {timer : Timer} (foreign : timer.owner ≠ agent) :
      timer ∈ laterDocket.timers ↔ timer ∈ docket.timers := by
    have members : timer ∈ laterDocket.others agent ↔ timer ∈ docket.others agent := by rw [same]
    simpa only [Docket.mem_others, and_iff_left foreign] using members
  have waiting {timer : Timer} (foreign : timer.owner ≠ agent) :
      timer ∈ rest ++ laterDocket.timers ↔ timer ∈ (head ++ rest) ++ docket.timers := by
    have notHead : timer ∉ head := fun member => foreign (mine timer member)
    rw [List.mem_append, List.mem_append, List.mem_append, standing foreign, or_iff_right notHead]
  refine
    { clock
      holds
      slots
      owners := ?_
      pending := ?_ }
  · rw [List.map_append, List.nodup_append]
    have before := keeps.owners
    rw [List.map_append, List.nodup_append, List.map_append, List.nodup_append] at before
    refine ⟨before.1.2.1, single, ?_⟩
    intro owner inRest held member equal
    obtain ⟨timer, timerMember, rfl⟩ := List.mem_map.mp inRest
    obtain ⟨heldTimer, heldMember, rfl⟩ := List.mem_map.mp member
    have foreign : heldTimer.owner ≠ agent := equal ▸ others timer timerMember
    have heldBefore := (standing foreign).mp heldMember
    exact before.2.2 _ (List.mem_append_right _ inRest) _ (List.mem_map_of_mem heldBefore) equal
  · intro other handle
    by_cases chosen : other = agent
    · subst chosen
      rw [own handle]
      constructor
      · intro given
        rcases given with ⟨timer, member, owner, sameHandle⟩
        exact ⟨timer, List.mem_append_right _ member, owner, sameHandle⟩
      · intro given
        rcases given with ⟨timer, member, owner, sameHandle⟩
        rcases List.mem_append.mp member with inRest | inQueue
        · exact absurd owner (others timer inRest)
        · exact ⟨timer, inQueue, owner, sameHandle⟩
    · rw [elsewhere other chosen, keeps.pending other handle]
      constructor
      · intro given
        rcases given with ⟨timer, member, rfl, sameHandle⟩
        exact ⟨timer, (waiting chosen).mpr member, rfl, sameHandle⟩
      · intro given
        rcases given with ⟨timer, member, rfl, sameHandle⟩
        exact ⟨timer, (waiting chosen).mp member, rfl, sameHandle⟩

theorem enlist {start later : Context vocabulary} (keeps : roster.Keeps issued docket [])
    (id : start.controller.id.index = roster.controllers.size)
    (begun : start.Keeps issued docket) (works : start.Works later journal)
    (room : issued + journal.countP Entry.isArming ≤ 2 ^ 32 - 1) :
    (roster.enlist later).Keeps (issued + journal.countP Entry.isArming)
      (docket.read journal) [] := by
  have kept := works.keeps issued docket begun room
  have next : later.controller.id.index = roster.controllers.size := by
    rw [works.id]
    exact id
  have slot := controller?_enlist next
  have same := (docket.read_own works.own).2
  rw [← works.id] at same
  refine keeps.replace [] later.controller.id nofun nofun kept.clock kept.holds ?_ ?_
    (keeps.single.read journal) same ?_
  · intro index found member
    unfold Roster.enlist at member
    rw [Array.getElem?_push] at member
    split at member
    · rename_i last
      cases member
      rw [works.id, id, last]
    · exact keeps.slots index found member
  · intro other foreign
    rw [slot, if_neg foreign]
  · intro handle
    rw [slot, if_pos rfl, Option.bind_some]
    exact kept.pending handle

theorem discharge {start later : Context vocabulary} (keeps : roster.Keeps issued docket [])
    (id : start.controller.id = agent) (begun : start.Keeps issued docket)
    (works : start.Works later journal) (idle : later.controller.pending = none)
    (room : issued + journal.countP Entry.isArming ≤ 2 ^ 32 - 1) :
    (roster.discharge agent later.timers).Keeps (issued + journal.countP Entry.isArming)
      { docket with timers := docket.others agent } [] := by
  have kept := works.keeps issued docket begun room
  obtain ⟨clock, same⟩ := docket.read_own works.own
  have noLine := kept.covers.others_eq idle
  rw [works.id, id] at noLine
  rw [id] at same
  refine keeps.replace [] agent nofun nofun (kept.clock.trans clock) ?_ ?_ ?_ ?_ ?_ ?_
  · have holds := kept.holds
    rwa [← noLine, same] at holds
  · intro index found member
    rw [getElem?_discharge] at member
    split at member
    · obtain ⟨_, _, impossible⟩ := Option.map_eq_some_iff.mp member
      cases impossible
    · exact keeps.slots index found member
  · intro other foreign
    rw [controller?_discharge, if_neg foreign]
  · exact keeps.single.sublist (List.filter_sublist.map _)
  · simp only [Docket.others, List.filter_filter, Bool.and_self]
  · intro handle
    rw [controller?_discharge, if_pos rfl]
    constructor
    · intro impossible
      cases impossible
    · intro given
      rcases given with ⟨timer, member, mine, _⟩
      exact absurd mine (Docket.mem_others.mp member).2

theorem keep (head : List Timer) {start later : Context vocabulary}
    (keeps : roster.Keeps issued docket (head ++ rest))
    (mine : ∀ timer ∈ head, timer.owner = agent) (others : ∀ timer ∈ rest, timer.owner ≠ agent)
    (occupied : roster.controller? agent = some controller) (id : start.controller.id = agent)
    (begun : start.Keeps issued docket) (works : start.Works later journal)
    (room : issued + journal.countP Entry.isArming ≤ 2 ^ 32 - 1) :
    (roster.keep agent later).Keeps (issued + journal.countP Entry.isArming)
      (docket.read journal) rest := by
  have kept := works.keeps issued docket begun room
  have laterId := works.id.trans id
  have same := (docket.read_own works.own).2
  rw [id] at same
  refine keeps.replace head agent mine others kept.clock kept.holds (slots_keep laterId keeps.slots)
    ?_ (keeps.single.read journal) same ?_
  · intro other foreign
    rw [controller?_keep occupied, if_neg foreign]
  · intro handle
    rw [controller?_keep occupied, if_pos rfl, Option.bind_some, kept.pending handle, laterId]

end Keeps

/-! ### Events and fired timers, one after another -/

/-- What a stretch of a tick comes to, in which certain timers were to be handed out. -/
structure Served (now : Tick) (issued : Nat) (docket : Docket) (rest : List Timer)
    (later : Roster vocabulary) (journal : List Entry) : Prop where
  keeps : later.Keeps (issued + journal.countP Entry.isArming) (docket.read journal) []
  routine : ∀ entry ∈ journal, entry.IsRoutine now
  ahead : ∀ agent handle delay, .scheduled agent handle delay ∈ journal →
    docket.clock.now < docket.clock.tickAfter delay
  reports : journal.filterMap Entry.reported? = rest.map fun timer => (now, timer.owner)

namespace Served

private theorem nothing (keeps : roster.Keeps issued docket []) :
    Served now issued docket [] roster [] where
  keeps := keeps
  routine := nofun
  ahead := nofun
  reports := rfl

theorem clock (served : Served now issued docket rest later journal) :
    (docket.read journal).clock = docket.clock :=
  (docket.read_routine served.routine).1

theorem due (served : Served now issued docket rest later journal) :
    ∀ timer ∈ (docket.read journal).timers,
      timer ∈ docket.timers ∨ docket.clock.now < timer.due :=
  docket.read_ahead served.routine served.ahead

private theorem prepend (head : List Timer) {first second : List Entry}
    (routine : ∀ entry ∈ first, entry.IsRoutine now)
    (ahead : ∀ agent handle delay, .scheduled agent handle delay ∈ first →
      docket.clock.now < docket.clock.tickAfter delay)
    (reports : first.filterMap Entry.reported? = head.map fun timer => (now, timer.owner))
    (served : Served now (issued + first.countP Entry.isArming) (docket.read first) rest later
      second) :
    Served now issued docket (head ++ rest) later (first ++ second) := by
  have clock := (docket.read_routine routine).1
  refine
    { keeps := ?_
      routine := ?_
      ahead := ?_
      reports := ?_ }
  · rw [List.countP_append, ← Nat.add_assoc, Docket.read_append]
    exact served.keeps
  · intro entry member
    rcases List.mem_append.mp member with early | late
    · exact routine entry early
    · exact served.routine entry late
  · intro asker handle delay member
    rcases List.mem_append.mp member with early | late
    · exact ahead asker handle delay early
    · have bound := served.ahead asker handle delay late
      rwa [clock] at bound
  · rw [List.filterMap_append, List.map_append, reports, served.reports]

end Served

theorem routine_of_works {start later : Context vocabulary} (begun : start.Keeps issued docket)
    (works : start.Works later journal) (now : Tick) :
    (∀ entry ∈ journal, entry.IsRoutine now) ∧
      (∀ agent handle delay, .scheduled agent handle delay ∈ journal →
        docket.clock.now < docket.clock.tickAfter delay) ∧
      journal.filterMap Entry.reported? = [] := by
  refine ⟨fun entry member => (works.own entry member).isRoutine now, ?_, ?_⟩
  · intro agent handle delay member
    have bound := works.ahead agent handle delay member
    rwa [TimerQueue.now, begun.clock] at bound
  · rw [List.filterMap_eq_nil_iff]
    exact fun entry member => (works.own entry member).reported?

def unheard (event : PendingEvent vocabulary) (handled : Bool) : List Record :=
  if handled then []
  else
    [{ severity := .debug
       message := "event not handled"
       fields := [("agent", event.agent.text), ("event", event.name.text)] }]

private theorem gives_delivered {event : PendingEvent vocabulary} {handled : Bool}
    {reached : Roster vocabulary} :
    Journaled.Gives (do
        if !handled then
          Logged.report
            { severity := .debug
              message := "event not handled"
              fields := [("agent", event.agent.text), ("event", event.name.text)] }
        Logged.notify (.event now event.agent event.name handled)
        pure reached) later journal ↔
      later = reached ∧ journal = (unheard event handled).map Entry.told ++
        [.noticed (.event now event.agent event.name handled)] := by
  cases handled with
  | false =>
      simp only [Bool.not_false, if_true, Journaled.gives_bind, Logged.gives_report,
        Logged.gives_notify, Journaled.gives_pure, unheard]
      constructor
      · intro given
        rcases given with ⟨_, _, _, rfl, ⟨_, _, _, rfl, ⟨rfl, rfl⟩, rfl⟩, rfl⟩
        exact ⟨rfl, rfl⟩
      · intro given
        rcases given with ⟨rfl, rfl⟩
        exact ⟨(), _, _, rfl, ⟨(), _, _, rfl, ⟨rfl, rfl⟩, rfl⟩, rfl⟩
  | true =>
      simp only [Bool.not_true, Bool.false_eq_true, if_false, Journaled.gives_bind,
        Logged.gives_notify, Journaled.gives_pure, unheard, if_true]
      constructor
      · intro given
        rcases given with ⟨_, _, _, rfl, ⟨rfl, rfl⟩, rfl⟩
        exact ⟨rfl, rfl⟩
      · intro given
        rcases given with ⟨rfl, rfl⟩
        exact ⟨(), _, _, rfl, ⟨rfl, rfl⟩, rfl⟩

theorem gives_deliver {repertoire : Repertoire vocabulary} {event : PendingEvent vocabulary} :
    (roster.deliver repertoire now event).Gives later journal ↔
      ∃ handled entries,
        (match roster.context? event.agent with
          | none => handled = false ∧ later = roster ∧ entries = []
          | some context => ∃ done,
              (context.handleEvent repertoire event.name event.payload).Gives (handled, done)
                entries ∧ later = roster.keep event.agent done) ∧
        journal = entries ++ ((unheard event handled).map Entry.told ++
          [.noticed (.event now event.agent event.name handled)]) := by
  unfold deliver
  cases found : roster.context? event.agent with
  | none =>
      simp only [pure_bind]
      rw [gives_delivered]
      constructor
      · intro given
        rcases given with ⟨rfl, rfl⟩
        exact ⟨false, [], ⟨rfl, rfl, rfl⟩, rfl⟩
      · intro given
        rcases given with ⟨_, _, ⟨rfl, rfl, rfl⟩, rfl⟩
        exact ⟨rfl, rfl⟩
  | some context =>
      simp only [pure_bind]
      rw [Journaled.gives_bind]
      constructor
      · intro given
        rcases given with ⟨⟨handled, done⟩, early, _, ran, rest, rfl⟩
        obtain ⟨rfl, rfl⟩ := gives_delivered.mp rest
        exact ⟨handled, early, ⟨done, ran, rfl⟩, rfl⟩
      · intro given
        rcases given with ⟨handled, early, ⟨done, ran, rfl⟩, rfl⟩
        exact ⟨(handled, done), early, _, ran, gives_delivered.mpr ⟨rfl, rfl⟩, rfl⟩

@[simp] theorem size_keep (roster : Roster vocabulary) (agent : AgentId)
    (context : Context vocabulary) :
    (roster.keep agent context).controllers.size = roster.controllers.size :=
  Array.size_setIfInBounds

theorem size_of_deliverAll {repertoire : Repertoire vocabulary}
    {events : List (PendingEvent vocabulary)}
    (given : (roster.deliverAll repertoire now events).Gives later journal) :
    later.controllers.size = roster.controllers.size := by
  induction events generalizing roster journal with
  | nil =>
      obtain ⟨rfl, _⟩ := Journaled.gives_pure.mp given
      rfl
  | cons event events ih =>
      obtain ⟨middle, _, _, delivered, rest, _⟩ := Journaled.gives_bind.mp given
      obtain ⟨handled, entries, work, _⟩ := gives_deliver.mp delivered
      rw [ih rest]
      cases found : roster.context? event.agent with
      | none =>
          rw [found] at work
          rw [work.2.1]
      | some context =>
          rw [found] at work
          obtain ⟨done, _, rfl⟩ := work
          exact size_keep roster event.agent done

theorem ending_routine (event : PendingEvent vocabulary) (handled : Bool) (now : Tick)
    (docket : Docket) :
    let ending := (unheard event handled).map Entry.told ++
      [.noticed (.event now event.agent event.name handled)]
    (∀ entry ∈ ending, entry.IsRoutine now) ∧ ending.filterMap Entry.reported? = [] ∧
      ending.countP Entry.isArming = 0 ∧ docket.read ending = docket ∧
      ∀ agent handle delay, .scheduled agent handle delay ∉ ending := by
  cases handled <;> simp [unheard, Entry.IsRoutine, Entry.reported?, Entry.isArming, Docket.enter]

theorem deliver_served {repertoire : Repertoire vocabulary} {event : PendingEvent vocabulary}
    (keeps : roster.Keeps issued docket [])
    (given : (roster.deliver repertoire now event).Gives later journal)
    (room : issued + journal.countP Entry.isArming ≤ 2 ^ 32 - 1) :
    Served now issued docket [] later journal := by
  obtain ⟨handled, entries, work, rfl⟩ := gives_deliver.mp given
  obtain ⟨routine, reports, armings, same, noRequest⟩ := ending_routine event handled now
    (docket.read entries)
  rw [List.countP_append, armings, Nat.add_zero] at room
  have ending (reached : Roster vocabulary)
      (kept : reached.Keeps (issued + entries.countP Entry.isArming) (docket.read entries) []) :
      Served now (issued + entries.countP Entry.isArming) (docket.read entries) [] reached
        ((unheard event handled).map Entry.told ++
          [.noticed (.event now event.agent event.name handled)]) := by
    refine
      { keeps := ?_
        routine
        ahead := fun agent handle delay member => absurd member (noRequest agent handle delay)
        reports }
    rw [armings, same]
    exact kept
  cases found : roster.context? event.agent with
  | none =>
      rw [found] at work
      obtain ⟨rfl, rfl, rfl⟩ := work
      exact ending later keeps
  | some context =>
      rw [found] at work
      obtain ⟨done, ran, rfl⟩ := work
      obtain ⟨id, begun⟩ := keeps.atWork found
      have works := Context.Works.handleEvent ran
      obtain ⟨ownRoutine, ahead, silent⟩ := routine_of_works begun works now
      have occupied := (context?_eq_some.mp found).1
      have kept := Keeps.keep [] keeps nofun nofun occupied id begun works room
      exact Served.prepend [] ownRoutine ahead silent (ending _ kept)

theorem deliverAll_served {repertoire : Repertoire vocabulary}
    {events : List (PendingEvent vocabulary)} (keeps : roster.Keeps issued docket [])
    (given : (roster.deliverAll repertoire now events).Gives later journal)
    (room : issued + journal.countP Entry.isArming ≤ 2 ^ 32 - 1) :
    Served now issued docket [] later journal := by
  induction events generalizing roster issued docket journal with
  | nil =>
      obtain ⟨rfl, rfl⟩ := Journaled.gives_pure.mp given
      exact Served.nothing keeps
  | cons event events ih =>
      obtain ⟨middle, first, second, delivered, rest, rfl⟩ := Journaled.gives_bind.mp given
      rw [List.countP_append] at room
      have served := deliver_served keeps delivered (by omega)
      exact Served.prepend [] served.routine served.ahead served.reports
        (ih served.keeps rest (by omega))

theorem deliverAll_append (repertoire : Repertoire vocabulary) (now : Tick)
    (roster : Roster vocabulary) (first second : List (PendingEvent vocabulary)) :
    roster.deliverAll repertoire now (first ++ second) = (do
      let middle ← roster.deliverAll repertoire now first
      middle.deliverAll repertoire now second) := by
  induction first generalizing roster with
  | nil => rw [List.nil_append, deliverAll, pure_bind]
  | cons event first ih =>
      rw [List.cons_append, deliverAll, deliverAll, bind_assoc]
      exact congrArg _ (funext ih)

theorem gives_routeAll_cons {repertoire : Repertoire vocabulary} {timer : Timer}
    {timers : List Timer} {fired : Nat} (found : roster.context? timer.owner = some context) :
    (roster.routeAll repertoire now (timer :: timers)).Gives (fired, later) journal ↔
      ∃ outcome done entries others rest,
        (context.onTimer repertoire timer.handle).Gives (outcome, done) entries ∧
        ((roster.keep timer.owner done).routeAll repertoire now timers).Gives (others, later)
          rest ∧
        fired = others + 1 ∧
        journal = (entries ++ [.noticed (.reconsider now timer.owner outcome)]) ++ rest := by
  simp only [routeAll, found, Journaled.gives_bind, Logged.gives_notify, Journaled.gives_pure,
    Prod.exists, Prod.mk.injEq]
  constructor
  · intro given
    rcases given with ⟨outcome, done, entries, _, ran, ⟨_, _, _, rfl, ⟨others, _, rest, _, routed,
      ⟨⟨rfl, rfl⟩, rfl⟩, rfl⟩, rfl⟩, rfl⟩
    refine ⟨outcome, done, entries, others, rest, ran, routed, rfl, ?_⟩
    rw [List.append_nil, List.append_assoc]
  · intro given
    rcases given with ⟨outcome, done, entries, others, rest, ran, routed, rfl, rfl⟩
    refine ⟨outcome, done, entries, _, ran, ⟨(), _, _, rfl, ⟨others, later, rest, _, routed,
      ⟨⟨rfl, rfl⟩, rfl⟩, rfl⟩, rfl⟩, ?_⟩
    rw [List.append_nil, List.append_assoc]

private theorem size_of_routeAll {repertoire : Repertoire vocabulary} {fired : Nat}
    (given : (roster.routeAll repertoire now rest).Gives (fired, later) journal) :
    later.controllers.size = roster.controllers.size := by
  induction rest generalizing roster journal fired with
  | nil =>
      obtain ⟨reached, _⟩ := Journaled.gives_pure.mp given
      cases reached
      rfl
  | cons timer rest ih =>
      cases found : roster.context? timer.owner with
      | none =>
          unfold routeAll at given
          rw [found] at given
          exact ih given
      | some context =>
          obtain ⟨outcome, done, _, others, _, _, routed, _, _⟩ :=
            (gives_routeAll_cons found).mp given
          rw [ih routed, size_keep]

theorem Keeps.foreign {timer : Timer} (keeps : roster.Keeps issued docket (timer :: rest)) :
    ∀ waiting ∈ rest, waiting.owner ≠ timer.owner := by
  intro waiting member same
  have distinct := keeps.owners
  rw [List.cons_append, List.map_cons, List.nodup_cons] at distinct
  refine absurd ?_ distinct.1
  rw [← same]
  exact List.mem_map_of_mem (List.mem_append_left _ member)

/-- The first timer reaches its owner while it is still in its slot, and then the others remain. -/
theorem Keeps.handOut {repertoire : Repertoire vocabulary} {timer : Timer}
    {outcome : Reconsideration} {done : Context vocabulary}
    (keeps : roster.Keeps issued docket (timer :: rest))
    (found : roster.context? timer.owner = some context)
    (given : (context.onTimer repertoire timer.handle).Gives (outcome, done) journal)
    (room : issued + journal.countP Entry.isArming ≤ 2 ^ 32 - 1) :
    (roster.keep timer.owner done).Keeps (issued + journal.countP Entry.isArming)
        (docket.read journal) rest ∧
      context.detached.Keeps issued docket ∧ context.detached.Works done journal ∧
      outcome ≠ .stale := by
  obtain ⟨other, alsoFound, pending, id, begun⟩ := keeps.detached
  cases alsoFound.symm.trans found
  obtain ⟨works, notStale⟩ := Context.works_of_onTimer pending given
  exact ⟨Keeps.keep [timer] keeps (fun held member => by rw [List.mem_singleton.mp member])
    keeps.foreign (context?_eq_some.mp found).1 id begun works room, begun, works, notStale⟩

theorem read_reconsidered (docket : Docket) (journal : List Entry) (now : Tick) (agent : AgentId)
    (outcome : Reconsideration) :
    docket.read (journal ++ [.noticed (.reconsider now agent outcome)]) = docket.read journal := by
  rw [Docket.read_append]
  rfl

theorem armings_reconsidered (journal : List Entry) (now : Tick) (agent : AgentId)
    (outcome : Reconsideration) :
    (journal ++ [Entry.noticed (.reconsider now agent outcome)]).countP Entry.isArming =
      journal.countP Entry.isArming := by
  rw [List.countP_append]
  rfl

private theorem routeAll_served {repertoire : Repertoire vocabulary} {fired : Nat}
    (keeps : roster.Keeps issued docket rest)
    (given : (roster.routeAll repertoire now rest).Gives (fired, later) journal)
    (room : issued + journal.countP Entry.isArming ≤ 2 ^ 32 - 1) :
    Served now issued docket rest later journal ∧ fired = rest.length := by
  induction rest generalizing roster issued docket journal fired with
  | nil =>
      obtain ⟨reached, rfl⟩ := Journaled.gives_pure.mp given
      cases reached
      exact ⟨Served.nothing keeps, rfl⟩
  | cons timer rest ih =>
      obtain ⟨context, found, _⟩ := keeps.detached
      obtain ⟨outcome, done, entries, others, after, ran, routed, rfl, rfl⟩ :=
        (gives_routeAll_cons found).mp given
      rw [List.countP_append, armings_reconsidered] at room
      obtain ⟨kept, begun, works, notStale⟩ := keeps.handOut found ran (by omega)
      obtain ⟨ownRoutine, ahead, silent⟩ := routine_of_works begun works now
      rw [← read_reconsidered docket entries now timer.owner outcome,
        ← armings_reconsidered entries now timer.owner outcome] at kept
      obtain ⟨served, rfl⟩ := ih kept routed (by rw [armings_reconsidered]; omega)
      refine ⟨Served.prepend [timer] ?_ ?_ ?_ served, rfl⟩
      · intro entry member
        rcases List.mem_append.mp member with own | notice
        · exact ownRoutine entry own
        · rw [List.mem_singleton.mp notice]
          exact ⟨rfl, notStale⟩
      · intro asker handle delay member
        rcases List.mem_append.mp member with own | notice
        · exact ahead asker handle delay own
        · cases List.mem_singleton.mp notice
      · rw [List.filterMap_append, silent]
        rfl

theorem gives_fire {repertoire : Repertoire vocabulary} {fired : Nat} :
    (roster.fire repertoire now).Gives (fired, later) journal ↔
      ∃ due timers routing, roster.timers.drain now = .ok (due, timers) ∧
        (routeAll repertoire now { roster with timers } due).Gives (fired, later) routing ∧
        journal = .drained now :: routing := by
  simp only [fire, Journaled.gives_bind, Journaled.gives_lift, Journaled.gives_enter, Prod.exists]
  constructor
  · intro given
    rcases given with ⟨due, timers, _, _, ⟨drained, rfl⟩, ⟨_, _, routing, rfl, routed, rfl⟩, rfl⟩
    exact ⟨due, timers, routing, drained, routed, rfl⟩
  · intro given
    rcases given with ⟨due, timers, routing, drained, routed, rfl⟩
    exact ⟨due, timers, _, _, ⟨drained, rfl⟩, ⟨(), _, routing, rfl, routed, rfl⟩, rfl⟩

theorem size_of_fire {repertoire : Repertoire vocabulary} {fired : Nat}
    (given : (roster.fire repertoire now).Gives (fired, later) journal) :
    later.controllers.size = roster.controllers.size := by
  obtain ⟨due, timers, routing, _, routed, _⟩ := gives_fire.mp given
  have same := size_of_routeAll routed
  exact same

theorem Keeps.drain {due : List Timer} {timers : TimerQueue} (keeps : roster.Keeps issued docket [])
    (standing : docket.clock.now = now) (drained : roster.timers.drain now = .ok (due, timers)) :
    due = Timer.inDueOrder (docket.timers.filter (·.due ≤ now)) ∧
      ({ roster with timers } : Roster vocabulary).Keeps issued (docket.enter (.drained now))
        due := by
  obtain ⟨rfl, holds, clock⟩ := keeps.holds.drain drained
  refine ⟨rfl, ?_⟩
  have split : (Timer.inDueOrder (docket.timers.filter (·.due ≤ now)) ++
      docket.timers.filter (now < ·.due)).Perm docket.timers := by
    have rest : docket.timers.filter (now < ·.due) =
        docket.timers.filter fun timer => !decide (timer.due ≤ now) := by
      apply List.filter_congr
      intro timer _
      rw [← decide_not, decide_eq_decide, Tick.lt_def, Tick.le_def]
      omega
    rw [rest]
    exact ((Timer.inDueOrder_perm _).append_right _).trans (List.filter_append_perm _ _)
  have sameClock : timers.clock = docket.clock := by
    rw [clock, ← keeps.clock]
    change ({ roster.timers.clock with now := roster.timers.clock.now.latest now } : Clock) = _
    rw [keeps.clock, ← standing]
    unfold Tick.latest
    rw [ite_self]
  refine
    { clock := sameClock
      holds
      slots := keeps.slots
      owners := (split.map Timer.owner).nodup_iff.mpr keeps.single
      pending := ?_ }
  intro agent handle
  change (roster.controller? agent).bind Controller.pending = some handle ↔ _
  rw [keeps.pending agent handle]
  simp only [Docket.enter, split.mem_iff, List.nil_append]

/-- What is due in a tick is taken out of the queue and handed out, all of it. -/
theorem fire_served {repertoire : Repertoire vocabulary} {fired : Nat}
    (keeps : roster.Keeps issued docket []) (standing : docket.clock.now = now)
    (given : (roster.fire repertoire now).Gives (fired, later) journal)
    (room : issued + journal.countP Entry.isArming ≤ 2 ^ 32 - 1) :
    ∃ routing, journal = .drained now :: routing ∧ now.index + 1 < 2 ^ 64 ∧
      fired = (docket.timers.filter (·.due ≤ now)).length ∧
      Served now issued (docket.enter (.drained now))
        (Timer.inDueOrder (docket.timers.filter (·.due ≤ now))) later routing := by
  obtain ⟨due, timers, routing, drained, routed, rfl⟩ := gives_fire.mp given
  have next : now.index + 1 < 2 ^ 64 := (TimerQueue.drain_eq_ok.mp drained).1
  obtain ⟨rfl, drainedKeeps⟩ := keeps.drain standing drained
  obtain ⟨served, count⟩ := routeAll_served drainedKeeps routed room
  refine ⟨routing, rfl, next, ?_, served⟩
  rw [count, (Timer.inDueOrder_perm _).length_eq]

end Roster

end PriorityAgents
