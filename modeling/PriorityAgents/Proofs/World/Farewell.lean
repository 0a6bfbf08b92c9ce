import PriorityAgents.Proofs.Controller.Crowding
import PriorityAgents.Proofs.Controller.Farewell
import PriorityAgents.Proofs.World.Rearming

/-!
The leave of an agent, in the hands of whatever host.

What has become of the surface of an agent is read off the marks of its own code, however long the
history is and whatever other agents did. That an agent gives up its own timer and no other one
needs more: each timer must have a handle of its own, and handles run out.
-/

set_option autoImplicit false

namespace PriorityAgents

variable {vocabulary : Vocabulary}

namespace Context

variable {context later : Context vocabulary} {journal : List Entry}

private theorem Course.shelved (course : Course context later journal)
    (shelved : context.timers.Shelved) : later.timers.Shelved := by
  have released {context : Context vocabulary} (shelved : context.timers.Shelved) :
      (context.controller.scheduler.release context.timers).Shelved := by
    unfold Scheduler.release
    split
    · exact TimerQueue.shelved_of_perform shelved (TimerQueue.perform_cancel _ _)
    · exact shelved
  induction course with
  | aside context mind tree surface silent => exact shelved
  | cancel given =>
      rw [(gives_cancel.mp given).1]
      exact released shelved
  | schedule given =>
      obtain ⟨timer, timers, armed, rfl, _⟩ := gives_schedule.mp given
      exact TimerQueue.shelved_of_perform (released shelved) (TimerQueue.perform_create armed)
  | trans _ _ ihBefore ihAfter => exact ihAfter (ihBefore shelved)

private theorem shelved_of_turn {repertoire : Repertoire vocabulary} {turn : Turn vocabulary}
    {marks : List (Mark vocabulary)}
    (given : (turn.watched repertoire context).Gives ((), later) marks)
    (shelved : context.timers.Shelved) : later.timers.Shelved := by
  by_cases fire : ∃ handle, turn = .fire handle
  · obtain ⟨handle, rfl⟩ := fire
    rcases repertoire.gives_fire given with ⟨_, rfl, _⟩ | ⟨_, _, _, _, journey, _⟩
    · exact shelved
    · exact journey.course.shelved shelved
  · have journey := Journey.turn (fun handle same => fire ⟨handle, same⟩) given
    exact journey.course.shelved shelved

/-- An agent gives up what is pending: the slot is empty, the handle that was in it is that of no
timer any more, and nothing has become of other handles. -/
structure Releases (context released : Context vocabulary) : Prop where
  controller : released.controller = { context.controller with scheduler := .idle }
  due (handle : TimerHandle) : released.timers.dueTick? handle =
    if context.controller.pending = some handle then none else context.timers.dueTick? handle
  timers (timer : Timer) : timer ∈ released.timers.timers ↔ timer ∈ context.timers.timers ∧
    ¬(context.controller.pending = some timer.handle ∧
      context.timers.dueTick? timer.handle = some timer.due)

private theorem releases_of_cancel (shelved : context.timers.Shelved)
    (given : context.cancel.Gives later journal) : context.Releases later := by
  obtain ⟨rfl, _⟩ := gives_cancel.mp given
  have pending : context.controller.pending = context.controller.scheduler.slot := rfl
  cases slot : context.controller.scheduler.slot with
  | none =>
      have same : context.controller.scheduler.release context.timers = context.timers := by
        unfold Scheduler.release
        rw [slot]
      rw [slot] at pending
      refine ⟨rfl, fun handle => ?_, fun timer => ?_⟩
      · rw [pending, if_neg nofun]
        exact congrArg (TimerQueue.dueTick? · handle) same
      · change timer ∈ (context.controller.scheduler.release context.timers).timers ↔ _
        rw [same, pending]
        simp
  | some held =>
      have same : context.controller.scheduler.release context.timers =
          context.timers.disarm held := by
        unfold Scheduler.release
        rw [slot]
      rw [slot] at pending
      refine ⟨rfl, fun handle => ?_, fun timer => ?_⟩
      · change (context.controller.scheduler.release context.timers).dueTick? handle = _
        rw [same, pending, TimerQueue.dueTick?_disarm]
        simp only [Option.some.injEq]
      · change timer ∈ (context.controller.scheduler.release context.timers).timers ↔ _
        rw [same, pending, TimerQueue.mem_timers_disarm shelved]
        simp only [Option.some.injEq]
        constructor
        · rintro ⟨member, kept⟩
          exact ⟨member, fun both => kept ⟨both.1.symm, both.1 ▸ both.2⟩⟩
        · rintro ⟨member, kept⟩
          exact ⟨member, fun both => kept ⟨both.1.symm, both.1 ▸ both.2⟩⟩

end Context

namespace Courier

variable {courier reached : Courier vocabulary} {history marks : List (Mark vocabulary)}
  {agent : AgentId} {context : Context vocabulary} {repertoire : Repertoire vocabulary}
  {issued : Nat}

/-- Agents sit in the slots of their identities, timers where they are looked for, and the history
tells how every agent takes its leave. -/
structure Poised (courier : Courier vocabulary) (history : List (Mark vocabulary)) : Prop where
  seats (index : Nat) (controller : Controller vocabulary) :
    courier.roster.controllers[index]? = some (some controller) → controller.id.index = index
  shelved : courier.roster.timers.Shelved
  leaves (agent : AgentId) (context : Context vocabulary) :
    courier.roster.context? agent = some context → context.Leaves (parting agent none history)

namespace Poised

private theorem id_eq (poised : courier.Poised history)
    (found : courier.roster.context? agent = some context) : context.controller.id = agent :=
  AgentId.ext (poised.seats _ _
    (Roster.controller?_eq_some.mp (Roster.context?_eq_some.mp found).1))

private theorem turn {turn : Turn vocabulary} (poised : courier.Poised history)
    (attended : (courier.attend agent (turn.watched repertoire)).Gives reached marks) :
    reached.Poised (history ++ marks) := by
  rcases gives_attend.mp attended with ⟨_, rfl, rfl⟩ | ⟨context, later, found, taken, rfl⟩
  · rwa [List.append_nil]
  · obtain ⟨occupied, timers⟩ := Roster.context?_eq_some.mp found
    have id := poised.id_eq found
    have settles := Watched.Settled.turn repertoire turn context () later marks taken
    refine
      { seats := Roster.slots_keep (settles.id.trans id) poised.seats
        shelved := Context.shelved_of_turn taken (timers ▸ poised.shelved)
        leaves := ?_ }
    intro other reachedContext member
    obtain ⟨there, _⟩ := Roster.context?_eq_some.mp member
    rw [parting_append]
    rcases Roster.controller?_keep_cases occupied there with ⟨rfl, same⟩ | ⟨foreign, before⟩
    · have leaves := settles.leaves _ (poised.leaves other context found)
      rw [id] at leaves
      exact leaves.of_same (congrArg Controller.surface same)
    · rw [parting_of_not_supplants (settles.others other (id ▸ foreign))]
      have standing := poised.leaves other ⟨reachedContext.controller, courier.roster.timers⟩
        (Roster.context?_eq_some.mpr ⟨before, rfl⟩)
      exact standing

private theorem retimed {timers : TimerQueue} (poised : courier.Poised history)
    (shelved : timers.Shelved) (satchel : List Timer) :
    (Courier.mk { courier.roster with timers } satchel).Poised history where
  seats := poised.seats
  shelved := shelved
  leaves := by
    intro agent context found
    obtain ⟨occupied, _⟩ := Roster.context?_eq_some.mp found
    have standing := poised.leaves agent ⟨context.controller, courier.roster.timers⟩
      (Roster.context?_eq_some.mpr ⟨occupied, rfl⟩)
    exact standing

private theorem serve {errand : Errand vocabulary} (poised : courier.Poised history)
    (served : (courier.serve (Turn.watched repertoire) errand).Gives reached marks) :
    reached.Poised (history ++ marks) := by
  cases errand with
  | work agent program => exact poised.turn served
  | event agent name payload => exact poised.turn served
  | teardown agent => exact poised.turn served
  | advance tick =>
      obtain ⟨rfl, rfl⟩ := Journaled.gives_pure.mp served
      have performed : TimerQueue.keeper.perform courier.roster.timers (.advanceTo tick) =
        .ok (.done, courier.roster.timers.advanceTo tick) := rfl
      rw [List.append_nil]
      exact poised.retimed (TimerQueue.shelved_of_perform poised.shelved performed) _
  | drain tick =>
      obtain ⟨⟨due, timers⟩, early, late, out, rest, rfl⟩ := Journaled.gives_bind.mp served
      obtain ⟨rfl, rfl⟩ := Journaled.gives_pure.mp rest
      obtain ⟨drained, rfl⟩ := Journaled.gives_lift.mp out
      rw [List.append_nil, List.append_nil]
      exact poised.retimed (TimerQueue.shelved_of_perform poised.shelved
        (TimerQueue.perform_drain drained)) _
  | handOut place =>
      simp only [Courier.serve] at served
      cases packed : courier.satchel[place]? with
      | none =>
          rw [packed] at served
          obtain ⟨rfl, rfl⟩ := Journaled.gives_pure.mp served
          rwa [List.append_nil]
      | some timer =>
          rw [packed] at served
          exact poised.turn served

private theorem serveAll {errands : List (Errand vocabulary)} (poised : courier.Poised history)
    (served : (courier.serveAll (Turn.watched repertoire) errands).Gives reached marks) :
    reached.Poised (history ++ marks) := by
  induction errands generalizing courier history marks with
  | nil =>
      obtain ⟨rfl, rfl⟩ := Journaled.gives_pure.mp served
      rwa [List.append_nil]
  | cons errand errands ih =>
      obtain ⟨middle, first, second, once, rest, rfl⟩ := Journaled.gives_bind.mp served
      rw [← List.append_assoc]
      exact ih (poised.serve once) rest

end Poised

private theorem gives_watched {errands : List (Errand vocabulary)}
    (served : (courier.serveAll (Turn.take repertoire) errands).outcome = .ok reached) :
    (courier.serveAll (Turn.watched repertoire) errands).Gives reached
      (courier.serveAll (Turn.watched repertoire) errands).journal := by
  rw [← unwatched_serveAll] at served
  exact Journaled.gives_of_outcome served

/-- An agent that has put a set of handlers in place, and has not been taken out of service nor
bound or unbound the event by hand since, gives up its pending reconsideration when it is
destroyed, and then the handler of that set runs, if it has one. As long as no handle has been
given out twice, what goes is the agent's own timer and no other one. -/
theorem releases_first_of_serveAll {roster : Roster vocabulary} {tickMillis : UInt32}
    {errands : List (Errand vocabulary)} {earlier later : List (Mark vocabulary)}
    {set : HandlerSet vocabulary}
    (started : TimerQueue.start tickMillis = .ok roster.timers)
    (fresh : ∀ index (controller : Controller vocabulary),
      roster.controllers[index]? = some (some controller) →
        controller.id.index = index ∧ controller.pending = none)
    (served : (serveAll (Turn.take repertoire) ⟨roster, []⟩ errands).outcome = .ok reached)
    (split : (serveAll (Turn.watched repertoire) ⟨roster, []⟩ errands).journal =
      earlier ++ .asked agent (.install set) :: later)
    (standing : ∀ mark ∈ later, ¬mark.Supplants agent)
    (found : reached.roster.context? agent = some context) :
    ∃ released entries, context.cancel.Gives released entries ∧ context.Releases released ∧
      (Logged.armings (serveAll (Turn.take repertoire) ⟨roster, []⟩ errands) ≤ 2 ^ 32 - 1 →
        ∀ timer, timer ∈ released.timers.timers ↔
          timer ∈ context.timers.timers ∧ timer.owner ≠ agent) ∧
      ∀ payload, context.handleEvent repertoire .entityDestroyed payload =
        context.leaveBy repertoire set payload := by
  have plain := unwatched_serveAll repertoire ⟨roster, []⟩ errands
  have given : (serveAll (Turn.watched repertoire) ⟨roster, []⟩ errands).Gives reached
      (earlier ++ .asked agent (.install set) :: later) := split ▸ gives_watched served
  have begun : (Courier.mk roster []).Poised [] :=
    { seats := fun index controller member => (fresh index controller member).1
      shelved := (TimerQueue.Numbered.start started).shelved
      leaves := fun _ _ _ => nofun }
  have poised := begun.serveAll given
  have held : parting agent none ([] ++ (earlier ++ .asked agent (.install set) :: later)) =
      some set := parting_eq_some.mpr ⟨earlier, later, rfl, standing⟩
  have leaves := poised.leaves agent context found
  rw [held] at leaves
  have timers := (Roster.context?_eq_some.mp found).2
  obtain ⟨released, entries, cancelled⟩ := context.exists_gives_cancel
  refine ⟨released, entries, cancelled,
    Context.releases_of_cancel (timers ▸ poised.shelved) cancelled, ?_,
    Context.handleEvent_of_leaves repertoire leaves⟩
  intro few timer
  have room : armings ([] ++ (earlier ++ .asked agent (.install set) :: later)) ≤ 2 ^ 32 - 1 := by
    rw [← plain] at few
    change ((serveAll (Turn.watched repertoire) ⟨roster, []⟩ errands).journal.filterMap
      Mark.entry?).countP Entry.isArming ≤ _ at few
    rwa [split] at few
  obtain ⟨docket, keeps, _⟩ := (InHand.of_start started fresh).serveAll given room
  have covers := keeps.covers found
  obtain ⟨after, _, lines⟩ := covers.cancel cancelled
  rw [after.holds.mem_timers, covers.holds.mem_timers, lines, Docket.mem_others,
    keeps.id_eq found]

private theorem eq_of_getElem?_pair {ε : Type} {first second third : ε} {index : Nat}
    (member : #[some first, some second][index]? = some (some third)) :
    (index = 0 ∧ third = first) ∨ (index = 1 ∧ third = second) := by
  match index with
  | 0 =>
      cases member
      exact .inl ⟨rfl, rfl⟩
  | 1 =>
      cases member
      exact .inr ⟨rfl, rfl⟩
  | index + 2 => cases member

/-- A ship on patrol answers by the set that it has put in place on its way, and another ship has a
timer of its own. -/
theorem releases_first_of_serveAll_patrol :
    let ada : Controller Patrol.ships :=
      .start ⟨0, by decide⟩ "patrol" (.fresh "Ada") 7 (Patrol.seconds 1)
    let grace : Controller Patrol.ships :=
      .start ⟨1, by decide⟩ "patrol" (.fresh "Grace") 7 (Patrol.seconds 1)
    let errands : List (Errand Patrol.ships) :=
      [.work ada.id (Program.request (.install .empty)), .work ada.id Patrol.start,
        .drain ⟨20, by decide⟩, .handOut 0, .work grace.id Patrol.start]
    ∃ timers reached context, TimerQueue.start 100 = .ok timers ∧
      let outset : Courier Patrol.ships := ⟨⟨#[some ada, some grace], timers⟩, []⟩
      (outset.serveAll (Turn.take Patrol.repertoire) errands).outcome = .ok reached ∧
      reached.roster.context? ada.id = some context ∧
      context.timers.timers.map (fun timer => (timer.owner.index, timer.handle.index)) =
        [(1, 2), (0, 1)] ∧
      ∃ set : HandlerSet Patrol.ships, (set.get? .entityDestroyed).isSome = true ∧
      ∃ released entries, context.cancel.Gives released entries ∧ context.Releases released ∧
        (∀ timer, timer ∈ released.timers.timers ↔
          timer ∈ context.timers.timers ∧ timer.owner ≠ ada.id) ∧
        ∀ payload, context.handleEvent Patrol.repertoire .entityDestroyed payload =
          context.leaveBy Patrol.repertoire set payload := by
  intro ada grace errands
  obtain ⟨timers, started, rest⟩ : ∃ timers, TimerQueue.start 100 = .ok timers ∧
      let outset : Courier Patrol.ships := ⟨⟨#[some ada, some grace], timers⟩, []⟩
      let served := outset.serveAll (Turn.take Patrol.repertoire) errands
      let watched := outset.serveAll (Turn.watched Patrol.repertoire) errands
      ((parting ada.id none watched.journal).any fun set =>
          (set.get? .entityDestroyed).isSome &&
        served.outcome.toOption.any fun reached =>
          (reached.roster.context? ada.id).any fun context =>
            decide (Logged.armings served ≤ 2 ^ 32 - 1 ∧
              context.timers.timers.map
                (fun timer => (timer.owner.index, timer.handle.index)) =
                  [(1, 2), (0, 1)])) = true :=
    exists_ok (by decide +kernel)
  obtain ⟨set, parted, facts⟩ := (Option.any_eq_true _ _).mp rest
  obtain ⟨own, rest⟩ := (Bool.and_eq_true _ _).mp facts
  obtain ⟨reached, served, rest⟩ := exists_ok rest
  obtain ⟨context, found, facts⟩ := (Option.any_eq_true _ _).mp rest
  obtain ⟨few, queued⟩ := of_decide_eq_true facts
  obtain ⟨earlier, later, split, standing⟩ := parting_eq_some.mp parted
  have seated (index : Nat) (controller : Controller Patrol.ships)
      (member : #[some ada, some grace][index]? = some (some controller)) :
      controller.id.index = index ∧ controller.pending = none := by
    rcases eq_of_getElem?_pair member with ⟨rfl, rfl⟩ | ⟨rfl, rfl⟩
    · exact ⟨rfl, rfl⟩
    · exact ⟨rfl, rfl⟩
  obtain ⟨released, entries, cancelled, releases, apart, answers⟩ :=
    releases_first_of_serveAll started seated served split standing found
  exact ⟨timers, reached, context, started, served, found, queued, set, own, released, entries,
    cancelled, releases, apart few, answers⟩

/-! ### A leave that takes another agent's timer along -/

private theorem serve_work {program : Program vocabulary Unit} {later : Context vocabulary}
    (found : courier.roster.context? agent = some context)
    (ran : (context.run repertoire program).outcome = .ok ((), later)) :
    (courier.serve (Turn.take repertoire) (.work agent program)).outcome =
      .ok (courier.keep agent later) := by
  change (courier.attend agent fun context => context.run repertoire program).outcome = _
  unfold attend
  rw [found]
  simp only [Journaled.outcome_bind, ran]
  rfl

theorem serveAll_cons {errand : Errand vocabulary} {errands : List (Errand vocabulary)}
    {middle : Courier vocabulary}
    (served : (courier.serve (Turn.take repertoire) errand).outcome = .ok middle) :
    (courier.serveAll (Turn.take repertoire) (errand :: errands)).outcome =
      (middle.serveAll (Turn.take repertoire) errands).outcome := by
  rw [serveAll, Journaled.outcome_bind, served]
  rfl

private theorem Poised.not_supplants_of_work {program : Program vocabulary Unit} {other : AgentId}
    (poised : courier.Poised history) (foreign : agent ≠ other)
    (served : (courier.serve (Turn.watched repertoire) (.work agent program)).Gives reached marks) :
    ∀ mark ∈ marks, ¬mark.Supplants other := by
  rcases gives_attend.mp served with ⟨_, _, rfl⟩ | ⟨context, later, found, taken, _⟩
  · nofun
  · exact (Watched.Settled.watch repertoire program context () later marks taken).others other
      (poised.id_eq found ▸ foreign.symm)

private theorem not_supplants_of_schedule {delay : Span} {other : AgentId}
    (served : (courier.serve (Turn.watched repertoire)
      (.work agent (Program.request (.schedule delay)))).Gives reached marks) :
    ∀ mark ∈ marks, ¬mark.Supplants other := by
  rcases gives_attend.mp served with ⟨_, _, rfl⟩ | ⟨context, later, _, taken, _⟩
  · nofun
  · change (repertoire.watch (.ask (.schedule delay) .pure) context).Gives _ _ at taken
    rw [Repertoire.watch, Watched.get_bind_apply] at taken
    obtain ⟨_, asked, rfl⟩ := Watched.gives_note_bind.mp taken
    obtain ⟨_, _, _, carried, rest, rfl⟩ := Journaled.gives_bind.mp asked
    obtain ⟨entries, _, rfl⟩ := Watched.gives_carry.mp carried
    obtain ⟨_, rfl⟩ := Journaled.gives_pure.mp rest
    rw [List.append_nil]
    intro mark member
    rcases List.mem_cons.mp member with rfl | entered
    · exact id
    · obtain ⟨entry, _, rfl⟩ := List.mem_map.mp entered
      exact id

private theorem Poised.supplants_only_first {errand : Errand vocabulary} {delay : Span}
    {program : Program vocabulary Unit} {other : AgentId} {mark : Mark vocabulary}
    {middle : Courier vocabulary} (poised : courier.Poised []) (foreign : other ≠ agent)
    (opening : (courier.serve (Turn.watched repertoire) errand).Gives middle [mark])
    (served : (courier.serveAll (Turn.watched repertoire)
      [errand, .work agent (Program.request (.schedule delay)), .work other program]).Gives
        reached marks) :
    ∃ later, marks = mark :: later ∧ ∀ mark ∈ later, ¬mark.Supplants agent := by
  obtain ⟨_, _, _, once, rest, rfl⟩ := Journaled.gives_bind.mp served
  obtain ⟨_, scheduling, _, twice, last, rfl⟩ := Journaled.gives_bind.mp rest
  obtain ⟨_, working, _, thrice, ending, rfl⟩ := Journaled.gives_bind.mp last
  obtain ⟨_, rfl⟩ := Journaled.gives_pure.mp ending
  cases opening.symm.trans once
  rw [List.append_nil, List.singleton_append]
  exact ⟨_, rfl, List.forall_mem_append.mpr ⟨not_supplants_of_schedule twice,
    ((poised.serve once).serve twice).not_supplants_of_work foreign thrice⟩⟩

/-- When a whole round of handles has been given out, two agents may have timers with one handle and
due at one tick. The one that takes its leave takes the other one's timer along. -/
theorem other_timer_lost_after_round :
    let ada : Controller Patrol.ships :=
      .start ⟨0, by decide⟩ "patrol" (.fresh "Ada") 7 (Patrol.seconds 1)
    let grace : Controller Patrol.ships :=
      .start ⟨1, by decide⟩ "patrol" (.fresh "Grace") 7 (Patrol.seconds 1)
    let errands : List (Errand Patrol.ships) :=
      [.work ada.id (Program.request (.install .empty)),
        .work ada.id (Program.request (.schedule .zero)),
        .work grace.id (Program.pester TimerHandle.supply)]
    ∃ timers reached context timer later, TimerQueue.start 100 = .ok timers ∧
      let outset : Courier Patrol.ships := ⟨⟨#[some ada, some grace], timers⟩, []⟩
      (outset.serveAll (Turn.take Patrol.repertoire) errands).outcome = .ok reached ∧
      (outset.serveAll (Turn.watched Patrol.repertoire) errands).journal =
        .asked ada.id (.install .empty) :: later ∧
      (∀ mark ∈ later, ¬mark.Supplants ada.id) ∧
      reached.roster.context? ada.id = some context ∧
      timer ∈ context.timers.timers ∧ timer.owner = grace.id ∧
      ∀ payload, ∃ left,
        (context.handleEvent Patrol.repertoire .entityDestroyed payload).outcome =
          .ok (true, left) ∧ timer ∉ left.timers.timers := by
  intro ada grace errands
  obtain ⟨timers, started, _⟩ : ∃ timers, TimerQueue.start 100 = .ok timers ∧ true = true :=
    exists_ok (by decide)
  obtain ⟨timer, between, armed, _⟩ :=
    TimerQueue.arm_at_beginning (TimerQueue.now_of_start started) ada.id
  let outset : Courier Patrol.ships := ⟨⟨#[some ada, some grace], timers⟩, []⟩
  let settled : Context Patrol.ships :=
    (Context.mk ada timers).mapSurface (·.install .empty)
  let waiting := settled.moved ⟨some timer.handle⟩ between
  let first : Courier Patrol.ships := ⟨⟨#[some settled.controller, some grace], timers⟩, []⟩
  let second : Courier Patrol.ships := ⟨⟨#[some waiting.controller, some grace], between⟩, []⟩
  have installed : (outset.serve (Turn.take Patrol.repertoire)
      (.work ada.id (Program.request (.install .empty)))).outcome = .ok first :=
    serve_work (show outset.roster.context? ada.id = some ⟨ada, timers⟩ from rfl) rfl
  have asked : (settled.run Patrol.repertoire (Program.request (.schedule .zero))).outcome =
      .ok ((), waiting) := by
    rw [Program.request, Context.outcome_run_ask, Context.outcome_schedule]
    change (Except.map _ (timers.arm ada.id .zero) >>= _) = _
    rw [armed]
    rfl
  have scheduled : (first.serve (Turn.take Patrol.repertoire)
      (.work ada.id (Program.request (.schedule .zero)))).outcome = .ok second :=
    serve_work (show first.roster.context? ada.id = some settled from rfl) asked
  obtain ⟨round, counted⟩ : ∃ more, TimerHandle.supply = more + 1 := ⟨4294967294, rfl⟩
  obtain ⟨crowd, pestered, crowds⟩ := Context.crowds_of_pester Patrol.repertoire ⟨grace, between⟩
    started armed rfl (Nat.le_of_eq counted.symm)
  rw [← counted] at pestered crowds
  let crowding := (Context.mk grace between).moved ⟨some (TimerHandle.nth TimerHandle.supply)⟩ crowd
  let third : Courier Patrol.ships :=
    ⟨⟨#[some waiting.controller, some crowding.controller], crowd⟩, []⟩
  have done : (second.serve (Turn.take Patrol.repertoire)
      (.work grace.id (Program.pester TimerHandle.supply))).outcome = .ok third :=
    serve_work (show second.roster.context? grace.id = some ⟨grace, between⟩ from rfl) pestered
  have served : (outset.serveAll (Turn.take Patrol.repertoire) errands).outcome = .ok third :=
    (serveAll_cons installed).trans ((serveAll_cons scheduled).trans (serveAll_cons done))
  have poised : outset.Poised [] :=
    { seats := fun index controller member => by
        rcases eq_of_getElem?_pair member with ⟨rfl, rfl⟩ | ⟨rfl, rfl⟩
        · rfl
        · rfl
      shelved := (TimerQueue.Numbered.start started).shelved
      leaves := fun _ _ _ => nofun }
  have opening : (outset.serve (Turn.watched Patrol.repertoire)
      (.work ada.id (Program.request (.install .empty)))).Gives first
        [.asked ada.id (.install .empty)] := rfl
  have apart : grace.id ≠ ada.id := by decide
  obtain ⟨later, journal, unsupplanted⟩ :=
    poised.supplants_only_first apart opening (gives_watched served)
  let left : Context Patrol.ships := ⟨waiting.controller, crowd⟩
  have handle : timer.handle = TimerHandle.nth 0 :=
    (TimerQueue.arm_eq_ok.mp armed).2.1.trans (TimerQueue.Numbered.start started).next
  have member : ⟨TimerHandle.nth TimerHandle.supply, grace.id, .one⟩ ∈ crowd.timers := by
    have shelf := crowds.timers.shelf
    change crowd.shelf .one = _ at shelf
    refine TimerQueue.mem_timers.mpr ⟨.one, ?_⟩
    rw [shelf]
    exact List.mem_cons_of_mem _ List.mem_cons_self
  have leaves : left.Leaves (some .empty) := by
    intro set known
    cases known
    change (ada.surface.install .empty).handler? .entityDestroyed = _
    rw [EventSurface.handler?_install, HandlerSet.get?_withRelease, if_pos rfl]
    rfl
  refine ⟨timers, third, left, _, later, started, served, journal, unsupplanted, rfl, member, rfl,
    fun payload => ?_⟩
  obtain ⟨released, answered, remain⟩ :=
    Context.leaves_released Patrol.repertoire leaves rfl payload
  refine ⟨released, answered, fun still => ?_⟩
  obtain ⟨tick, shelved⟩ := TimerQueue.mem_timers.mp still
  rw [remain] at shelved
  change _ ∈ (crowd.disarm timer.handle).shelf tick at shelved
  have emptied : (crowd.disarm (TimerHandle.nth 0)).shelf tick = [] :=
    crowds.timers.disarm_empties tick
  rw [handle, emptied] at shelved
  cases shelved

end Courier

end PriorityAgents
