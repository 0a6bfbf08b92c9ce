import PriorityAgents.Proofs.Controller.Slot
import PriorityAgents.Proofs.Timer.Promptness

/-!
How far ahead a timer can be armed.

A delay is counted in ticks, and the count is cut to 64 bits before it is added to the current
tick. So arming succeeds when the sum still names a tick, and fails otherwise. The cut keeps the
count in range, not the sum: it helps at the beginning of time only.
-/

set_option autoImplicit false

namespace PriorityAgents

private theorem Tick.offset_eq_error {tick : Tick} {steps : Nat}
    (beyond : ¬tick.index + steps < 2 ^ 64) :
    tick.offset steps = .error .addOverflow :=
  dif_neg beyond

namespace Clock

variable {clock : Clock} {delay : Span}

/-- Where a delay that begins now comes to its end. It may be beyond the last tick. -/
def landing (clock : Clock) (delay : Span) : Nat :=
  clock.now.index + max 1 (clock.ticksFor delay)

private theorem now_lt_landing (clock : Clock) (delay : Span) :
    clock.now.index < clock.landing delay := by
  unfold landing
  omega

/-- A delay whose count is cut lands on a tick only if it begins with the first one. -/
theorem landing_of_cut (cut : clock.ticksFor delay < delay.nanoseconds ⌈/⌉ clock.tickNanoseconds) :
    clock.landing delay < 2 ^ 64 ↔ clock.now = .zero := by
  unfold landing
  rw [ticksFor_eq] at cut ⊢
  rw [Tick.ext_iff]
  change _ ↔ clock.now.index = 0
  -- A count is cut to the number of the last tick, which from any tick but the first is too far.
  generalize delay.nanoseconds ⌈/⌉ clock.tickNanoseconds = count at cut ⊢
  omega

end Clock

namespace TimerQueue

variable {queue : TimerQueue} {delay : Span}

/-- A queue holds a timer under a handle that a delay from now on led to. -/
def Landed (queue : TimerQueue) (clock : Clock) (delay : Span) (handle : TimerHandle) : Prop :=
  ∃ timer ∈ queue.timers, timer.handle = handle ∧ queue.dueTick? handle = some timer.due ∧
    timer.due.index = clock.landing delay ∧ clock.now < timer.due

private theorem landed_of_arm {later : TimerQueue} {owner : AgentId} {timer : Timer}
    (armed : queue.arm owner delay = .ok (timer, later)) :
    later.Landed queue.clock delay timer.handle := by
  obtain ⟨moved, _, _, _⟩ := arm_eq_ok.mp armed
  have due : timer.due.index = queue.clock.landing delay := Tick.offset_eq_ok.mp moved
  refine ⟨timer, (mem_timers_of_arm armed).mpr (.inr rfl), rfl, ?_, due, ?_⟩
  · rw [dueTick?_of_arm armed, if_pos rfl]
  · rw [Tick.lt_def, due]
    exact queue.clock.now_lt_landing delay

/-- Arming depends on the tick alone that the delay leads to. -/
theorem arm_cases (queue : TimerQueue) (owner : AgentId) (delay : Span) :
    (queue.clock.landing delay < 2 ^ 64 ∧
        ∃ timer later, queue.arm owner delay = .ok (timer, later)) ∨
      (¬queue.clock.landing delay < 2 ^ 64 ∧ queue.arm owner delay = .error .addOverflow) := by
  by_cases fits : queue.clock.landing delay < 2 ^ 64
  · let timer : Timer := ⟨queue.nextHandle, owner, ⟨queue.clock.landing delay, fits⟩⟩
    have moved : queue.now.offset (max 1 (queue.clock.ticksFor delay)) = .ok timer.due :=
      Tick.offset_eq_ok.mpr rfl
    exact .inl ⟨fits, timer, _, arm_eq_ok.mpr ⟨moved, rfl, rfl, rfl⟩⟩
  · have refused : queue.now.offset (max 1 (queue.clock.ticksFor delay)) = .error .addOverflow :=
      Tick.offset_eq_error fits
    refine .inr ⟨fits, ?_⟩
    unfold arm
    rw [refused]
    rfl

private theorem perform_create_error {owner : AgentId}
    (refused : queue.arm owner delay = .error .addOverflow) :
    keeper.perform queue (.create owner delay) = .error .addOverflow := by
  simp only [keeper, outcome_create, refused]
  rfl

end TimerQueue

namespace Context

variable {vocabulary : Vocabulary} {context : Context vocabulary} {delay : Span}

theorem outcome_schedule (context : Context vocabulary) (delay : Span) :
    (context.schedule delay).outcome =
      ((context.controller.scheduler.release context.timers).arm context.controller.id delay).map
        fun armed => ⟨{ context.controller with scheduler := ⟨some armed.1.handle⟩ }, armed.2⟩ := by
  cases armed : (context.controller.scheduler.release context.timers).arm context.controller.id
      delay with
  | ok reached => exact (gives_schedule.mpr ⟨reached.1, reached.2, armed, rfl, rfl⟩).outcome
  | error fault =>
      have cancelled : (context.controller.scheduler.cancel context.timers).outcome =
          pure (context.controller.scheduler.isPending, .idle,
            context.controller.scheduler.release context.timers) :=
        (Scheduler.gives_cancel.mpr ⟨rfl, rfl, rfl, rfl⟩).outcome
      have refused : ((context.controller.scheduler.release context.timers).create
          context.controller.id delay).outcome = .error fault := by
        rw [TimerQueue.outcome_create, armed]
        rfl
      unfold schedule Scheduler.schedule
      simp only [Journaled.outcome_bind]
      rw [cancelled, pure_bind, refused]
      rfl

def Landed (context : Context vocabulary) (clock : Clock) (delay : Span) : Prop :=
  ∃ handle, context.controller.pending = some handle ∧ context.timers.Landed clock delay handle

theorem schedule_cases (context : Context vocabulary) (delay : Span) :
    (context.timers.clock.landing delay < 2 ^ 64 ∧
        ∃ later, (context.schedule delay).outcome = .ok later ∧
          later.Landed context.timers.clock delay) ∨
      (¬context.timers.clock.landing delay < 2 ^ 64 ∧
        (context.schedule delay).outcome = .error .addOverflow) := by
  rw [outcome_schedule]
  rw [← clock_release]
  rcases TimerQueue.arm_cases (context.controller.scheduler.release context.timers)
    context.controller.id delay with ⟨fits, timer, later, armed⟩ | ⟨beyond, refused⟩
  · rw [armed]
    exact .inl ⟨fits, _, rfl, timer.handle, rfl, TimerQueue.landed_of_arm armed⟩
  · rw [refused]
    exact .inr ⟨beyond, rfl⟩

private theorem outcome_run_arm (repertoire : Repertoire vocabulary) (context : Context vocabulary)
    (delay : Span) :
    (context.run repertoire (repertoire.walker.arm delay)).outcome =
      (context.schedule delay).outcome.map fun later => ((), later) := by
  change (effect (context.schedule delay) >>= fun reached => _).outcome = _
  simp only [effect, bind_assoc, pure_bind, Journaled.outcome_bind]
  cases (context.schedule delay).outcome <;> rfl

/-- A queue takes every delay that leads to a tick, and no other: what it arms is due at that tick,
which is to come. So does an agent that schedules, and so does a rule. A delay whose count of ticks
has to be cut leads to a tick at the beginning of time, and at no other moment. -/
theorem delay_taken_iff_lands (repertoire : Repertoire vocabulary) (context : Context vocabulary)
    (owner : AgentId) (delay : Span) :
    ((context.timers.clock.landing delay < 2 ^ 64 ∧
        (∃ handle later,
          TimerQueue.keeper.perform context.timers (.create owner delay) =
              .ok (.created handle, later) ∧
            later.Landed context.timers.clock delay handle) ∧
        (∃ later, (context.schedule delay).outcome = .ok later ∧
          (context.run repertoire (repertoire.walker.arm delay)).outcome = .ok ((), later) ∧
            later.Landed context.timers.clock delay)) ∨
      (¬context.timers.clock.landing delay < 2 ^ 64 ∧
        TimerQueue.keeper.perform context.timers (.create owner delay) = .error .addOverflow ∧
        (context.schedule delay).outcome = .error .addOverflow ∧
        (context.run repertoire (repertoire.walker.arm delay)).outcome = .error .addOverflow)) ∧
      (context.timers.clock.ticksFor delay <
          delay.nanoseconds ⌈/⌉ context.timers.clock.tickNanoseconds →
        (context.timers.clock.landing delay < 2 ^ 64 ↔ context.timers.now = .zero)) := by
  refine ⟨?_, Clock.landing_of_cut⟩
  rw [outcome_run_arm]
  rcases TimerQueue.arm_cases context.timers owner delay with
    ⟨fits, timer, queue, armed⟩ | ⟨beyond, refused⟩
  · refine .inl ⟨fits, ⟨timer.handle, queue, TimerQueue.perform_create armed,
      TimerQueue.landed_of_arm armed⟩, ?_⟩
    rcases context.schedule_cases delay with ⟨_, later, scheduled, landed⟩ | ⟨beyond, _⟩
    · rw [scheduled]
      exact ⟨later, rfl, rfl, landed⟩
    · exact absurd fits beyond
  · refine .inr ⟨beyond, TimerQueue.perform_create_error refused, ?_⟩
    rcases context.schedule_cases delay with ⟨fits, _⟩ | ⟨_, faulted⟩
    · exact absurd fits beyond
    · rw [faulted]
      exact ⟨rfl, rfl⟩

end Context

namespace TimerQueue

/-- The longest delay is taken at the beginning, and refused a tick later. -/
theorem longest_delay_after_one_tick :
    let owner : AgentId := ⟨0, by decide⟩
    let longest : Span := ⟨2 ^ 64 * 10 ^ 9 - 1, by decide⟩
    let next : Tick := ⟨1, by decide⟩
    ∃ first queue, TimerQueue.start 1 = .ok first ∧
      (∃ timer later, first.arm owner longest = .ok (timer, later) ∧
        timer.due.index = 2 ^ 64 - 1) ∧
      first.performAll [.advanceTo next] = .ok queue ∧ queue.now = next ∧
      queue.clock.ticksFor longest = 2 ^ 64 - 1 ∧
      keeper.perform queue (.create owner longest) = .error .addOverflow := by
  intro owner longest next
  obtain ⟨first, started, facts⟩ : ∃ first, TimerQueue.start 1 = .ok first ∧
      ((first.arm owner longest).toOption.any fun armed =>
        armed.1.due.index = 2 ^ 64 - 1 &&
          (first.performAll [.advanceTo next]).toOption.any fun queue =>
            queue.now = next && queue.clock.ticksFor longest = 2 ^ 64 - 1 &&
              ¬queue.clock.landing longest < 2 ^ 64) = true :=
    exists_ok (by decide +kernel)
  obtain ⟨⟨timer, later⟩, armed, facts⟩ := exists_ok facts
  obtain ⟨due, facts⟩ := (Bool.and_eq_true _ _).mp facts
  obtain ⟨queue, reached, facts⟩ := exists_ok facts
  obtain ⟨facts, beyond⟩ := (Bool.and_eq_true _ _).mp facts
  obtain ⟨now, cut⟩ := (Bool.and_eq_true _ _).mp facts
  refine ⟨first, queue, started, ⟨timer, later, armed, of_decide_eq_true due⟩, reached,
    of_decide_eq_true now, of_decide_eq_true cut, ?_⟩
  rcases arm_cases queue owner longest with ⟨fits, _⟩ | ⟨_, refused⟩
  · exact absurd fits (of_decide_eq_true beyond)
  · exact perform_create_error refused

end TimerQueue

end PriorityAgents
