import PriorityAgents.Proofs.Controller.Slot

/-!
What a controller at work keeps: its slot and the shared timers stay in step.

Whatever an agent's code does, the handle in its slot is that of the one timer that it has, the
timers of the others are untouched, and the docket that is read off the journal is what the timers
hold. The steps of a course are seen to one by one; `Works.of_course` carries this through whatever
an agent's code does.
-/

set_option autoImplicit false

namespace PriorityAgents.Context

variable {vocabulary : Vocabulary} {α : Type}

/-- The timers that a controller works on hold what a docket says, and its slot is about the
agent's own line in it. -/
structure Keeps (context : Context vocabulary) (issued : Nat) (docket : Docket) : Prop where
  clock : context.timers.clock = docket.clock
  holds : context.timers.Holds issued docket.timers
  pending (handle : TimerHandle) :
    context.controller.pending = some handle ↔
      ∃ timer ∈ docket.timers, timer.owner = context.controller.id ∧ timer.handle = handle

/-- What every piece of an agent's own code does to a context, with what it enters. -/
structure Works (context later : Context vocabulary) (journal : List Entry) : Prop where
  id : later.controller.id = context.controller.id
  clock : later.timers.clock = context.timers.clock
  own : ∀ entry ∈ journal, entry.IsOwn context.controller.id
  ahead : ∀ agent handle delay, .scheduled agent handle delay ∈ journal →
    context.timers.now < context.timers.clock.tickAfter delay
  keeps : ∀ issued docket, context.Keeps issued docket →
    issued + journal.countP Entry.isArming ≤ 2 ^ 32 - 1 →
      later.Keeps (issued + journal.countP Entry.isArming) (docket.read journal)

variable {context middle later : Context vocabulary} {journal : List Entry} {issued : Nat}
  {docket : Docket}

namespace Keeps

theorem covers (keeps : context.Keeps issued docket) : context.Covers issued docket := by
  refine
    { clock := keeps.clock
      holds := keeps.holds
      own := fun timer member mine => (keeps.pending timer.handle).mpr ⟨timer, member, mine, rfl⟩
      sole := ?_
      known := ?_ }
  · intro timer member filled
    obtain ⟨held, heldMember, mine, sameHandle⟩ := (keeps.pending timer.handle).mp filled
    rw [keeps.holds.eq_of_handle member heldMember sameHandle.symm]
    exact mine
  · intro handle filled
    obtain ⟨held, heldMember, _, rfl⟩ := (keeps.pending handle).mp filled
    exact keeps.holds.issuedBefore held heldMember

private theorem of_covers (covers : context.Covers issued docket)
    (armed : ∀ handle, context.controller.pending = some handle →
      ∃ timer ∈ docket.timers, timer.handle = handle) : context.Keeps issued docket := by
  refine ⟨covers.clock, covers.holds, ?_⟩
  intro handle
  constructor
  · intro filled
    obtain ⟨timer, member, rfl⟩ := armed handle filled
    exact ⟨timer, member, covers.sole timer member filled, rfl⟩
  · intro given
    rcases given with ⟨timer, member, mine, rfl⟩
    exact covers.own timer member mine

end Keeps

namespace Works

theorem refl (context : Context vocabulary) : context.Works context [] where
  id := rfl
  clock := rfl
  own := nofun
  ahead := nofun
  keeps := fun _ _ keeps _ => keeps

theorem trans {first second : List Entry} (before : context.Works middle first)
    (after : middle.Works later second) : context.Works later (first ++ second) := by
  refine
    { id := after.id.trans before.id
      clock := after.clock.trans before.clock
      own := ?_
      ahead := ?_
      keeps := ?_ }
  · intro entry member
    rcases List.mem_append.mp member with early | late
    · exact before.own entry early
    · rw [← before.id]
      exact after.own entry late
  · intro agent handle delay member
    rcases List.mem_append.mp member with early | late
    · exact before.ahead agent handle delay early
    · have bound := after.ahead agent handle delay late
      rwa [TimerQueue.now, before.clock] at bound
  · intro issued docket keeps room
    rw [List.countP_append] at room ⊢
    have kept := before.keeps issued docket keeps (by omega)
    rw [Docket.read_append, ← Nat.add_assoc]
    exact after.keeps _ _ kept (by omega)

private theorem of_same (id : later.controller.id = context.controller.id)
    (scheduler : later.controller.scheduler = context.controller.scheduler)
    (timers : later.timers = context.timers) (silent : ∀ entry ∈ journal, entry.IsSilent) :
    context.Works later journal := by
  refine
    { id
      clock := congrArg TimerQueue.clock timers
      own := fun entry member => (silent entry member).isOwn _
      ahead := fun agent handle delay member => (silent _ member).elim
      keeps := ?_ }
  intro issued docket keeps _
  rw [armings_silent silent, Docket.read_silent silent]
  refine .of_covers (keeps.covers.of_same id scheduler timers) ?_
  intro handle filled
  rw [Controller.pending, scheduler] at filled
  obtain ⟨timer, member, _, sameHandle⟩ := (keeps.pending handle).mp filled
  exact ⟨timer, member, sameHandle⟩

theorem told (context : Context vocabulary) (record : Record) :
    context.Works context [.told record] :=
  of_same rfl rfl rfl fun entry member => by
    rw [List.mem_singleton.mp member]
    exact trivial

theorem cancel (given : context.cancel.Gives later journal) : context.Works later journal := by
  obtain ⟨rfl, rfl⟩ := gives_cancel.mp given
  have silent := context.controller.scheduler.silent_disarmings context.timers
  refine
    { id := rfl
      clock := clock_release context
      own := ?_
      ahead := ?_
      keeps := ?_ }
  · intro entry member
    rcases List.mem_append.mp member with early | late
    · exact (silent entry early).isOwn _
    · split at late
      · rw [List.mem_singleton.mp late]
        exact rfl
      · exact absurd late List.not_mem_nil
  · intro agent handle delay member
    rcases List.mem_append.mp member with early | late
    · exact (silent _ early).elim
    · split at late
      · cases List.mem_singleton.mp late
      · exact absurd late List.not_mem_nil
  · intro issued docket keeps _
    obtain ⟨covers, none, _⟩ := keeps.covers.cancel given
    rw [none]
    exact .of_covers covers nofun

theorem schedule {delay : Span} (given : (context.schedule delay).Gives later journal) :
    context.Works later journal := by
  obtain ⟨timer, timers, armed, rfl, rfl⟩ := gives_schedule.mp given
  have silent := context.controller.scheduler.silent_disarmings context.timers
  have sameClock := clock_release context
  obtain ⟨moved, _, owner, _⟩ := TimerQueue.arm_eq_ok.mp armed
  rw [TimerQueue.now, sameClock] at moved
  have due : timer.due = context.timers.clock.tickAfter delay := Tick.eq_later_of_offset moved
  have later : context.timers.now < context.timers.clock.tickAfter delay := by
    have sum := Tick.offset_eq_ok.mp moved
    rw [← due, Tick.lt_def, sum, TimerQueue.now]
    omega
  refine
    { id := rfl
      clock := (TimerQueue.clock_of_arm armed).trans sameClock
      own := ?_
      ahead := ?_
      keeps := ?_ }
  · intro entry member
    rcases List.mem_append.mp member with early | late
    · exact (silent entry early).isOwn _
    · rcases List.mem_cons.mp late with rfl | last
      · exact trivial
      · rw [List.mem_singleton.mp last]
        exact rfl
  · intro agent handle other member
    rcases List.mem_append.mp member with early | late
    · exact (silent _ early).elim
    · rcases List.mem_cons.mp late with impossible | last
      · cases impossible
      · cases List.mem_singleton.mp last
        exact later
  · intro issued docket keeps room
    obtain ⟨covers, held, lines, filled, _⟩ := keeps.covers.schedule given room
    refine .of_covers covers fun handle pending => ⟨held, ?_, ?_⟩
    · rw [lines]
      exact List.mem_append_right _ List.mem_cons_self
    · exact Option.some.inj (filled.symm.trans pending)

/-- Whatever course an agent's code takes, its slot and the timers stay in step. -/
theorem of_course (course : Course context later journal) : context.Works later journal := by
  induction course with
  | aside context mind tree surface silent => exact of_same rfl rfl rfl silent
  | cancel given => exact cancel given
  | schedule given => exact schedule given
  | trans before after ihBefore ihAfter => exact ihBefore.trans ihAfter

theorem run {repertoire : Repertoire vocabulary} {program : Program vocabulary α} {answer : α}
    (given : (context.run repertoire program).Gives (answer, later) journal) :
    context.Works later journal :=
  of_course (.run given)

theorem reconsider {repertoire : Repertoire vocabulary} {outcome : Reconsideration}
    (given : (context.reconsider repertoire).Gives (outcome, later) journal) :
    context.Works later journal ∧ outcome ≠ .stale :=
  ⟨of_course (.reconsider given), ne_stale_of_reconsider given⟩

theorem handleEvent {repertoire : Repertoire vocabulary} {name : EventName}
    {payload : vocabulary.Payload} {handled : Bool}
    (given : (context.handleEvent repertoire name payload).Gives (handled, later) journal) :
    context.Works later journal :=
  of_course (.handleEvent given)

theorem teardown (given : context.teardown.Gives later journal) : context.Works later journal :=
  of_course (.teardown given)

end Works

theorem pending_of_teardown (given : context.teardown.Gives later journal) :
    later.controller.pending = none := by
  obtain ⟨middle, _, _, cancelled, final, _⟩ := Journaled.gives_bind.mp given
  obtain ⟨rfl, _⟩ := Journaled.gives_pure.mp final
  rw [(gives_cancel.mp cancelled).1]
  rfl

/-! ### A timer that has fired -/

/-- A controller whose pending timer has just been taken out of its slot. -/
def detached (context : Context vocabulary) : Context vocabulary :=
  { context with controller := { context.controller with scheduler := .idle } }

theorem onTimer_of_pending {repertoire : Repertoire vocabulary} {fired : TimerHandle}
    (pending : context.controller.pending = some fired) :
    context.onTimer repertoire fired =
      if repertoire.isPresent context.controller.agent then context.detached.reconsider repertoire
      else pure (.agentGone, context.detached) := by
  have detach : context.controller.scheduler.detach? fired = some .idle := if_pos pending
  unfold onTimer
  rw [detach]
  rfl

/-- The timer in the slot is never stale, and the agent's code starts with an empty slot. -/
theorem works_of_onTimer {repertoire : Repertoire vocabulary} {fired : TimerHandle}
    {outcome : Reconsideration} (pending : context.controller.pending = some fired)
    (given : (context.onTimer repertoire fired).Gives (outcome, later) journal) :
    context.detached.Works later journal ∧ outcome ≠ .stale := by
  rw [onTimer_of_pending pending] at given
  split at given
  · exact Works.reconsider given
  · obtain ⟨reached, rfl⟩ := Journaled.gives_pure.mp given
    cases reached
    exact ⟨Works.refl _, nofun⟩

end PriorityAgents.Context
