import PriorityAgents.Proofs.Timer.Handles
import PriorityAgents.Proofs.Timer.Reach

/-!
Two agents, one handle.

An agent that asks for reconsiderations again and again uses up one handle after another. When all
of them have been given out once, its next timer has the handle of the very first one. If that has
been standing all the while and is due at the same tick, the two timers cannot be told apart any
more: whoever calls off one of them calls off both.
-/

set_option autoImplicit false

namespace PriorityAgents

open TimerHandle (supply nth)

def Tick.one : Tick := ⟨1, by decide⟩

namespace TimerQueue

variable {queue later : TimerQueue} {first other : AgentId} {timer : Timer} {count : Nat}

/-- A queue at the beginning of time. One agent has the first timer of all, and another one the
timer that was armed after a number of others. -/
structure Crowded (queue : TimerQueue) (first other : AgentId) (count : Nat) : Prop where
  now : queue.now = .zero
  next : queue.nextHandle = nth (count + 1)
  shelf : queue.shelf .one = [⟨nth 0, first, .one⟩, ⟨nth count, other, .one⟩]
  elsewhere (tick : Tick) : tick ≠ .one → queue.shelf tick = []
  due : queue.dueTick? (nth count) = some .one

private theorem line_of_arm (now : queue.now = .zero)
    (armed : queue.arm first .zero = .ok (timer, later)) :
    timer = ⟨queue.nextHandle, first, .one⟩ ∧ later.now = .zero ∧
      later.nextHandle = queue.nextHandle.next := by
  obtain ⟨_, _, same, due, laterNow⟩ := arm_at_beginning now first
  cases armed.symm.trans same
  obtain ⟨_, handle, owner, rfl⟩ := arm_eq_ok.mp armed
  exact ⟨Timer.ext handle owner (Tick.ext due), laterNow, congrArg TimerHandle.next handle⟩

namespace Crowded

private theorem replace (crowded : queue.Crowded first other count) (positive : 0 < count)
    (short : count < supply) :
    ∃ timer later, (queue.disarm (nth count)).arm other .zero = .ok (timer, later) ∧
      timer.handle = nth (count + 1) ∧ later.Crowded first other (count + 1) := by
  have now : (queue.disarm (nth count)).now = .zero := by
    unfold TimerQueue.now
    rw [clock_disarm]
    exact crowded.now
  obtain ⟨timer, later, armed, _⟩ := arm_at_beginning now other
  obtain ⟨line, laterNow, follows⟩ := line_of_arm now armed
  have next : (queue.disarm (nth count)).nextHandle = nth (count + 1) := by
    rw [← crowded.next]
    unfold disarm
    split <;> rfl
  rw [next] at line follows
  have apart : nth 0 ≠ nth count := by
    intro same
    have equal := TimerHandle.nth_eq_iff.mp same
    unfold Nat.ModEq at equal
    rw [Nat.zero_mod, Nat.mod_eq_of_lt short] at equal
    omega
  refine ⟨timer, later, armed, congrArg Timer.handle line, ?_⟩
  refine
    { now := laterNow
      next := follows.trans (TimerHandle.next_nth _)
      shelf := ?_
      elsewhere := ?_
      due := ?_ }
  · rw [shelf_of_arm armed, shelf_disarm, crowded.shelf, line, if_pos rfl, crowded.due]
    simp [apart]
  · intro tick foreign
    rw [shelf_of_arm armed, shelf_disarm, crowded.elsewhere tick foreign, line,
      if_neg (Ne.symm foreign)]
    rfl
  · rw [dueTick?_of_arm armed, line, if_pos rfl]

/-- After a round of handles the timers of both agents go when one of them is called off. -/
theorem disarm_empties (crowded : queue.Crowded first other supply) (tick : Tick) :
    (queue.disarm (nth 0)).shelf tick = [] := by
  have round : nth supply = nth 0 := TimerHandle.nth_eq_iff.mpr (Nat.mod_self supply)
  have due := crowded.due
  have shelf := crowded.shelf
  -- The index knows of the last timer only, but both are on the shelf where it is looked for.
  rw [round] at due shelf
  rw [shelf_disarm]
  by_cases chosen : tick = .one
  · rw [chosen, shelf, due]
    simp
  · rw [crowded.elsewhere tick chosen]
    rfl

end Crowded

private theorem crowded_of_arm {tickMillis : UInt32} {between : TimerQueue} {held : Timer}
    (started : TimerQueue.start tickMillis = .ok queue)
    (armed : queue.arm first .zero = .ok (timer, between))
    (further : between.arm other .zero = .ok (held, later)) :
    timer.handle = nth 0 ∧ held.handle = nth 1 ∧ later.Crowded first other 1 := by
  have blank (tick : Tick) : queue.shelf tick = [] := by
    unfold shelf
    rw [(Holds.start started).buckets]
    rfl
  obtain ⟨line, still, next⟩ := line_of_arm (now_of_start started) armed
  obtain ⟨heldLine, laterNow, follows⟩ := line_of_arm still further
  have opening : queue.nextHandle = nth 0 := (Numbered.start started).next
  rw [opening] at line next
  rw [next, TimerHandle.next_nth] at heldLine follows
  refine ⟨congrArg Timer.handle line, congrArg Timer.handle heldLine, ?_⟩
  refine
    { now := laterNow
      next := follows.trans (TimerHandle.next_nth _)
      shelf := ?_
      elsewhere := ?_
      due := ?_ }
  · rw [shelf_of_arm further, shelf_of_arm armed, blank, line, heldLine, if_pos rfl]
    rfl
  · intro tick foreign
    rw [shelf_of_arm further, shelf_of_arm armed, blank, line, heldLine,
      if_neg (Ne.symm foreign)]
    exact if_neg (Ne.symm foreign)
  · rw [dueTick?_of_arm further, heldLine, if_pos rfl]

end TimerQueue

/-! ### An agent that asks again and again -/

/-- To ask for a reconsideration a number of times. -/
def Program.pester {vocabulary : Vocabulary} : Nat → Program vocabulary Unit
  | 0 => pure ()
  | count + 1 => .ask (.schedule .zero) fun _ => pester count

namespace Context

variable {vocabulary : Vocabulary} {context : Context vocabulary} {first : AgentId} {count : Nat}

/-- An agent whose slot holds the last of the timers that it has armed beside the first one. -/
structure Crowds (context : Context vocabulary) (first : AgentId) (count : Nat) : Prop where
  timers : context.timers.Crowded first context.controller.id count
  pending : context.controller.pending = some (nth count)

def moved (context : Context vocabulary) (scheduler : Scheduler) (timers : TimerQueue) :
    Context vocabulary :=
  ⟨{ context.controller with scheduler }, timers⟩

private theorem Crowds.schedule (crowds : context.Crowds first count) (positive : 0 < count)
    (short : count < supply) :
    ∃ timers, (context.schedule .zero).outcome =
        .ok (context.moved ⟨some (nth (count + 1))⟩ timers) ∧
      (context.moved ⟨some (nth (count + 1))⟩ timers).Crowds first (count + 1) := by
  obtain ⟨timer, later, armed, handle, crowded⟩ := crowds.timers.replace positive short
  have released : context.controller.scheduler.release context.timers =
      context.timers.disarm (nth count) := by
    have slot : context.controller.scheduler.slot = some (nth count) := crowds.pending
    unfold Scheduler.release
    rw [slot]
  refine ⟨later, ?_, crowded, rfl⟩
  rw [outcome_schedule, released, armed, ← handle]
  rfl

theorem outcome_run_ask {α : Type} (repertoire : Repertoire vocabulary)
    (context : Context vocabulary) (delay : Span) (next : Unit → Program vocabulary α) :
    (context.run repertoire (.ask (.schedule delay) next)).outcome =
      (context.schedule delay).outcome >>= fun later =>
        (later.run repertoire (next ())).outcome := by
  change (effect (context.schedule delay) >>= fun reached => _).outcome = _
  rw [effect, bind_assoc, Journaled.outcome_bind]
  refine congrArg _ (funext fun later => ?_)
  rw [pure_bind]

private theorem Crowds.pester (repertoire : Repertoire vocabulary) (more : Nat)
    (crowds : context.Crowds first count) (positive : 0 < count) (short : count + more ≤ supply) :
    ∃ timers, (context.run repertoire (Program.pester more)).outcome =
        .ok ((), context.moved ⟨some (nth (count + more))⟩ timers) ∧
      (context.moved ⟨some (nth (count + more))⟩ timers).Crowds first (count + more) := by
  induction more generalizing context count with
  | zero =>
      have slot : context.controller.scheduler = ⟨some (nth count)⟩ :=
        Scheduler.ext crowds.pending
      have same : context.moved ⟨some (nth count)⟩ context.timers = context := by
        unfold moved
        rw [← slot]
      refine ⟨context.timers, ?_, ?_⟩
      · rw [Nat.add_zero, same]
        rfl
      · rwa [Nat.add_zero, same]
  | succ more ih =>
      -- Each request calls off the timer of the one before, so there are never more than two.
      obtain ⟨between, scheduled, further⟩ := crowds.schedule positive (by omega)
      obtain ⟨timers, ran, last⟩ := ih further (by omega) (by omega)
      have total : count + 1 + more = count + (more + 1) := by omega
      rw [total] at ran last
      refine ⟨timers, ?_, last⟩
      rw [Program.pester, outcome_run_ask, scheduled]
      exact ran

/-- An agent that comes second and asks as often as there are handles has the last of them. -/
theorem crowds_of_pester (repertoire : Repertoire vocabulary) (context : Context vocabulary)
    {tickMillis : UInt32} {queue : TimerQueue} {timer : Timer} {more : Nat}
    (started : TimerQueue.start tickMillis = .ok queue)
    (armed : queue.arm first .zero = .ok (timer, context.timers))
    (idle : context.controller.scheduler = .idle) (short : more + 1 ≤ supply) :
    ∃ timers, (context.run repertoire (Program.pester (more + 1))).outcome =
        .ok ((), context.moved ⟨some (nth (more + 1))⟩ timers) ∧
      (context.moved ⟨some (nth (more + 1))⟩ timers).Crowds first (more + 1) := by
  have still : context.timers.now = .zero := by
    unfold TimerQueue.now
    rw [TimerQueue.clock_of_arm armed]
    exact TimerQueue.now_of_start started
  obtain ⟨held, later, further, _⟩ :=
    TimerQueue.arm_at_beginning still context.controller.id
  obtain ⟨_, handle, crowded⟩ := TimerQueue.crowded_of_arm started armed further
  have crowds : (context.moved ⟨some held.handle⟩ later).Crowds first 1 :=
    ⟨crowded, congrArg some handle⟩
  obtain ⟨timers, ran, last⟩ := crowds.pester repertoire more (by decide) (by omega)
  rw [Nat.add_comm 1 more] at ran last
  refine ⟨timers, ?_, last⟩
  have released : context.controller.scheduler.release context.timers = context.timers := by
    rw [idle]
    rfl
  rw [Program.pester, outcome_run_ask, outcome_schedule, released, further]
  exact ran

end Context

end PriorityAgents
