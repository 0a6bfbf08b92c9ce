import PriorityAgents.Proofs.Controller.Rearming
import PriorityAgents.Proofs.World.Courier

/-!
What a host finds pending when it has handed a drained timer to its owner.

Timers that have been drained were due in the first tick or later, so a host that has any to hand
out has left the beginning of time behind. From there on delays are never cut down: what the walk
arms is due when its delay has passed, or the timers could not have been armed at all.
-/

set_option autoImplicit false

namespace PriorityAgents

variable {vocabulary : Vocabulary}

namespace Context

variable {context later : Context vocabulary} {journal : List Entry}

theorem Course.performed (taken : Course context later journal) :
    ∃ operations, context.timers.performAll operations = .ok later.timers := by
  have released (context : Context vocabulary) : ∃ operations,
      context.timers.performAll operations =
        .ok (context.controller.scheduler.release context.timers) := by
    unfold Scheduler.release
    cases context.controller.scheduler.slot with
    | none => exact ⟨[], rfl⟩
    | some handle =>
        have before : context.timers.performAll [] = .ok context.timers := rfl
        exact ⟨_, TimerQueue.performAll_snoc before (TimerQueue.perform_cancel _ handle)⟩
  induction taken with
  | aside context mind tree surface silent => exact ⟨[], rfl⟩
  | @cancel context later journal given =>
      rw [(gives_cancel.mp given).1]
      exact released context
  | @schedule context later journal delay given =>
      obtain ⟨timer, timers, armed, rfl, rfl⟩ := gives_schedule.mp given
      obtain ⟨operations, reached⟩ := released context
      exact ⟨operations ++ [.create context.controller.id delay],
        TimerQueue.performAll_snoc reached (TimerQueue.perform_create armed)⟩
  | trans before after ihBefore ihAfter =>
      obtain ⟨first, reached⟩ := ihBefore
      obtain ⟨second, ended⟩ := ihAfter
      exact ⟨first ++ second, TimerQueue.performAll_append.mpr ⟨_, reached, ended⟩⟩

end Context

namespace Courier

open Context

variable {repertoire : Repertoire vocabulary} {courier reached : Courier vocabulary}
  {first : TimerQueue} {tickMillis : UInt32} {agent : AgentId} {context later : Context vocabulary}
  {marks : List (Mark vocabulary)}

private theorem course_of_turn {turn : Turn vocabulary}
    (taken : (turn.watched repertoire context).Gives ((), later) marks) :
    ∃ start entries, start.timers = context.timers ∧ Course start later entries := by
  by_cases other : ∀ handle, turn ≠ .fire handle
  · exact ⟨context, _, rfl, (Journey.turn other taken).course⟩
  · obtain ⟨handle, rfl⟩ := not_forall_not.mp other
    rcases repertoire.gives_fire taken with ⟨_, rfl, _⟩ | ⟨_, _, _, _, journey, _⟩
    · exact ⟨later, _, rfl, .rest later⟩
    · exact ⟨context.detached, _, rfl, journey.course⟩

/-! ### Errands -/

/-- The timers of a courier have a history, and with a timer in the satchel it has begun. -/
structure UnderWay (first : TimerQueue) (courier : Courier vocabulary) : Prop where
  performed : ∃ operations, first.performAll operations = .ok courier.roster.timers
  begun : ∀ timer ∈ courier.satchel, 0 < courier.roster.timers.now.index

namespace UnderWay

private theorem attend {turn : Turn vocabulary} (underWay : courier.UnderWay first)
    (attended : (courier.attend agent (turn.watched repertoire)).Gives reached marks) :
    reached.UnderWay first := by
  rcases gives_attend.mp attended with ⟨_, rfl, rfl⟩ | ⟨context, later, found, taken, rfl⟩
  · exact underWay
  · obtain ⟨start, entries, same, course⟩ := course_of_turn taken
    have timers := same.trans (Roster.context?_eq_some.mp found).2
    obtain ⟨before, performed⟩ := underWay.performed
    obtain ⟨after, ended⟩ := course.performed
    rw [timers] at ended
    refine
      { performed := ⟨before ++ after, TimerQueue.performAll_append.mpr ⟨_, performed, ended⟩⟩
        begun := fun timer packed => ?_ }
    have clock : later.timers.clock = courier.roster.timers.clock := by
      rw [(Works.of_course course).clock, timers]
    change 0 < later.timers.clock.now.index
    rw [clock]
    exact underWay.begun timer packed

private theorem drain {tick : Tick} {due : List Timer} {timers : TimerQueue}
    (started : TimerQueue.start tickMillis = .ok first) (underWay : courier.UnderWay first)
    (drained : courier.roster.timers.drain tick = .ok (due, timers)) :
    (Courier.mk { courier.roster with timers } (courier.satchel ++ due)).UnderWay first := by
  obtain ⟨operations, performed⟩ := underWay.performed
  have now := TimerQueue.now_of_drain drained
  refine
    { performed := ⟨operations ++ [.drain tick],
        TimerQueue.performAll_snoc performed (TimerQueue.perform_drain drained)⟩
      begun := fun timer packed => ?_ }
  change 0 < timers.now.index
  rcases List.mem_append.mp packed with before | returned
  · have begun := underWay.begun timer before
    omega
  · have shelved := (TimerQueue.numbered_of_performAll started performed).shelved
    obtain ⟨armed, passed, _⟩ := TimerQueue.due_of_drain shelved drained returned
    have positive := TimerQueue.due_pos started performed armed
    rw [Tick.le_def] at passed
    omega

private theorem serve {errand : Errand vocabulary}
    (started : TimerQueue.start tickMillis = .ok first) (underWay : courier.UnderWay first)
    (served : (courier.serve (Turn.watched repertoire) errand).Gives reached marks) :
    reached.UnderWay first := by
  cases errand with
  | work agent program => exact underWay.attend served
  | event agent name payload => exact underWay.attend served
  | teardown agent => exact underWay.attend served
  | advance tick =>
      obtain ⟨rfl, _⟩ := Journaled.gives_pure.mp served
      obtain ⟨operations, performed⟩ := underWay.performed
      refine
        { performed := ⟨operations ++ [.advanceTo tick], TimerQueue.performAll_snoc performed rfl⟩
          begun := fun timer packed => ?_ }
      have begun := underWay.begun timer packed
      change 0 < (courier.roster.timers.now.latest tick).index
      rw [Tick.index_latest]
      omega
  | drain tick =>
      obtain ⟨⟨due, timers⟩, _, _, out, rest, _⟩ := Journaled.gives_bind.mp served
      obtain ⟨rfl, _⟩ := Journaled.gives_pure.mp rest
      exact underWay.drain started (Journaled.gives_lift.mp out).1
  | handOut place =>
      simp only [Courier.serve] at served
      cases packed : courier.satchel[place]? with
      | none =>
          rw [packed] at served
          obtain ⟨rfl, _⟩ := Journaled.gives_pure.mp served
          exact underWay
      | some timer =>
          rw [packed] at served
          exact underWay.attend served

private theorem serveAll {errands : List (Errand vocabulary)}
    (started : TimerQueue.start tickMillis = .ok first) (underWay : courier.UnderWay first)
    (served : (courier.serveAll (Turn.watched repertoire) errands).Gives reached marks) :
    reached.UnderWay first := by
  induction errands generalizing courier marks with
  | nil =>
      obtain ⟨rfl, _⟩ := Journaled.gives_pure.mp served
      exact underWay
  | cons errand errands ih =>
      obtain ⟨middle, _, _, once, rest, _⟩ := Journaled.gives_bind.mp served
      exact ih (underWay.serve started once) rest

end UnderWay

end Courier

/-! ### A timer that was pending and is handed out -/

namespace Context

/-- What comes of a timer that has been drained and is still pending when its owner gets it. -/
structure Renewed (repertoire : Repertoire vocabulary) (context : Context vocabulary)
    (fired : TimerHandle) (outcome : Reconsideration) (later : Context vocabulary)
    (journal : List Entry) : Prop where
  /-- The callbacks of the walk start from an empty slot, and do what they would do in a tree
  without delays. Behind them the delay of the chosen rule is armed, and no other. -/
  concluded : ∃ chosen left marks after,
    (repertoire.watchedWalk (Rule.allUndelayed context.controller.tree.rules)
        context.detached).Gives (chosen, left) marks ∧
      ((∀ handle delay, .scheduled context.controller.id handle delay ∉
        marks.filterMap Mark.entry?) → left.controller.pending = none) ∧
      Concludes repertoire context.detached left chosen outcome later after ∧
      journal = marks.filterMap Mark.entry? ++ after
  spent : later.controller.pending ≠ some fired
  backed : ∀ timer ∈ later.timers.timers, timer.owner = context.controller.id →
    later.controller.pending = some timer.handle
  single : (later.timers.timers.filter (·.owner = context.controller.id)).length ≤ 1

end Context

namespace Courier

/-- However a host has come by it, a drained timer that is still pending leaves behind what its walk
arms, or else what the callbacks of the walk have left. -/
theorem renewed_of_fire {repertoire : Repertoire vocabulary} {roster : Roster vocabulary}
    {tickMillis : UInt32} {errands : List (Errand vocabulary)} {courier : Courier vocabulary}
    {timer : Timer} {agent : AgentId} {context later : Context vocabulary}
    {outcome : Reconsideration} {journal : List Entry}
    (started : TimerQueue.start tickMillis = .ok roster.timers)
    (fresh : ∀ index (controller : Controller vocabulary),
      roster.controllers[index]? = some (some controller) →
        controller.id.index = index ∧ controller.pending = none)
    (served : (serveAll (Turn.take repertoire) ⟨roster, []⟩ errands).outcome = .ok courier)
    (packed : timer ∈ courier.satchel)
    (found : courier.roster.context? agent = some context)
    (pending : context.controller.pending = some timer.handle)
    (present : repertoire.isPresent context.controller.agent = true)
    (fires : (context.onTimer repertoire timer.handle).Gives (outcome, later) journal)
    (few : Logged.armings (serveAll (Turn.take repertoire) ⟨roster, []⟩ errands) +
      journal.countP Entry.isArming ≤ 2 ^ 32 - 1) :
    context.Renewed repertoire timer.handle outcome later journal := by
  have plain := unwatched_serveAll repertoire ⟨roster, []⟩ errands
  rw [← plain] at served few
  have given : (serveAll (Turn.watched repertoire) ⟨roster, []⟩ errands).Gives courier _ :=
    Journaled.gives_of_outcome served
  have underWay : courier.UnderWay roster.timers :=
    .serveAll started ⟨⟨[], rfl⟩, fun _ member => absurd member List.not_mem_nil⟩ given
  obtain ⟨docket, keeps, _⟩ :=
    (InHand.of_start started fresh).serveAll given (Nat.le_of_add_right_le few)
  have covers := keeps.covers_detached packed found pending
  have begun : 0 < context.detached.timers.now.index := by
    change 0 < context.timers.now.index
    rw [(Roster.context?_eq_some.mp found).2]
    exact underWay.begun timer packed
  rw [Context.onTimer_of_pending pending, if_pos present] at fires
  obtain ⟨kept, slot, _⟩ := covers.course (.reconsider fires) few
  have id := (Context.Works.reconsider fires).1.id
  obtain ⟨chosen, left, marks, after, walked, callbacks, concludes, rfl⟩ :=
    Context.concludes_of_reconsider begun fires
  have idle := Context.idle_of_course callbacks rfl
  refine
    { concluded := ⟨chosen, left, marks, after, walked, idle, concludes, rfl⟩
      spent := ?_
      backed := ?_
      single := ?_ }
  · intro filled
    rcases slot _ filled with impossible | new
    · cases impossible
    · exact absurd (keeps.drained timer packed).1 (Nat.not_lt_of_le new)
  · intro held member mine
    exact kept.own held (kept.holds.mem_timers.mp member) (mine.trans id.symm)
  · have single := kept.single
    rw [id] at single
    exact single

/-- A ship at ease gets its timer ten ticks late and goes on patrol, which it is to do again after
three seconds. The timer of another ship has been drained with it and stays where it is. -/
theorem renewed_of_fire_patrol :
    let ada : Controller Patrol.ships :=
      .start ⟨0, by decide⟩ "patrol" (.fresh "Ada") 7 (Patrol.seconds 1)
    let grace : Controller Patrol.ships :=
      .start ⟨1, by decide⟩ "patrol" (.fresh "Grace") 7 (Patrol.seconds 1)
    let errands : List (Errand Patrol.ships) :=
      [.work ada.id Patrol.start, .work grace.id Patrol.start, .drain ⟨20, by decide⟩]
    ∃ timers courier timer context later, TimerQueue.start 100 = .ok timers ∧
      let outset : Courier Patrol.ships := ⟨⟨#[some ada, some grace], timers⟩, []⟩
      (outset.serveAll (Turn.take Patrol.repertoire) errands).outcome = .ok courier ∧
      timer ∈ courier.satchel ∧ courier.roster.context? ada.id = some context ∧
      context.controller.pending = some timer.handle ∧
      let fires := context.onTimer Patrol.repertoire timer.handle
      fires.outcome = .ok (.selected, later) ∧
      later.timers.timers.map (fun timer =>
        (timer.owner.index, timer.handle.index, timer.due.index)) = [(0, 2, 50)] ∧
      context.Renewed Patrol.repertoire timer.handle .selected later fires.journal := by
  intro ada grace errands
  obtain ⟨timers, started, rest⟩ : ∃ timers, TimerQueue.start 100 = .ok timers ∧
      let outset : Courier Patrol.ships := ⟨⟨#[some ada, some grace], timers⟩, []⟩
      let served := outset.serveAll (Turn.take Patrol.repertoire) errands
      (served.outcome.toOption.any fun courier =>
        courier.satchel.head?.any fun timer =>
          (courier.roster.context? ada.id).any fun context =>
            let fires := context.onTimer Patrol.repertoire timer.handle
            decide (context.controller.pending = some timer.handle ∧
              Patrol.repertoire.isPresent context.controller.agent = true ∧
              Logged.armings served + fires.journal.countP Entry.isArming ≤ 2 ^ 32 - 1) &&
            fires.outcome.toOption.any fun reached =>
              decide (reached.1 = .selected ∧
                reached.2.timers.timers.map (fun timer =>
                  (timer.owner.index, timer.handle.index, timer.due.index)) =
                    [(0, 2, 50)])) = true :=
    exists_ok (by decide +kernel)
  obtain ⟨courier, served, rest⟩ := exists_ok rest
  obtain ⟨timer, first, rest⟩ := (Option.any_eq_true _ _).mp rest
  obtain ⟨context, found, facts⟩ := (Option.any_eq_true _ _).mp rest
  obtain ⟨facts, rest⟩ := (Bool.and_eq_true _ _).mp facts
  obtain ⟨pending, present, few⟩ := of_decide_eq_true facts
  obtain ⟨⟨outcome, later⟩, fires, facts⟩ := exists_ok rest
  obtain ⟨rfl, queued⟩ := of_decide_eq_true facts
  have packed := List.mem_of_mem_head? first
  refine ⟨timers, courier, timer, context, later, started, served, packed, found, pending, fires,
    queued, ?_⟩
  refine renewed_of_fire started ?_ served packed found pending present
    (Journaled.gives_of_outcome fires) few
  intro index controller member
  match index with
  | 0 =>
      cases member
      exact ⟨rfl, rfl⟩
  | 1 =>
      cases member
      exact ⟨rfl, rfl⟩
  | index + 2 => cases member

end Courier

end PriorityAgents
