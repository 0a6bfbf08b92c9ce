import PriorityAgents.Proofs.Journal.Docket
import PriorityAgents.Proofs.Time.Adjunction
import PriorityAgents.Proofs.Timer.Handles

/-!
Timers are never early, and less than a tick late.

A timer is due a whole number of ticks after it is armed: the least number that covers its delay,
and one at the least. Draining gives back nothing that is due later. A delay of more ticks than 64
bits can count is cut down, so its timer would come too early; but such a timer can only be armed
at the beginning of time, it is due in the last tick of all, and that tick cannot be drained.
-/

set_option autoImplicit false

namespace PriorityAgents

namespace Clock

variable {clock : Clock} {delay : Span}

/-- The number of ticks after which a delay has passed, one at the least. -/
def wait (clock : Clock) (delay : Span) : Nat :=
  max 1 (delay.nanoseconds ⌈/⌉ clock.tickNanoseconds)

private theorem wait_pos (clock : Clock) (delay : Span) :
    1 ≤ clock.wait delay :=
  Nat.le_max_left _ _

private theorem le_wait_mul (clock : Clock) (delay : Span) :
    delay.nanoseconds ≤ clock.wait delay * clock.tickNanoseconds := by
  rw [Nat.mul_comm]
  exact (ceilDiv_le_iff_le_mul clock.tickNanoseconds_pos).mp (Nat.le_max_right _ _)

private theorem wait_pred_mul_lt (clock : Clock) (positive : 0 < delay.nanoseconds) :
    (clock.wait delay - 1) * clock.tickNanoseconds < delay.nanoseconds := by
  by_contra covered
  have fewer : delay.nanoseconds ⌈/⌉ clock.tickNanoseconds ≤ clock.wait delay - 1 := by
    rw [ceilDiv_le_iff_le_mul clock.tickNanoseconds_pos, Nat.mul_comm]
    exact Nat.not_lt.mp covered
  have some : ¬delay.nanoseconds ⌈/⌉ clock.tickNanoseconds ≤ 0 := by
    rw [ceilDiv_le_iff_le_mul clock.tickNanoseconds_pos, Nat.mul_zero]
    exact Nat.not_le.mpr positive
  unfold wait at fewer
  omega

end Clock

/-- A tick that comes once a delay has passed, and less than a tick later. Ticks are counted from
the one in which the delay begins, and delays in nanoseconds. -/
structure Tick.Prompt (tickNanoseconds : Nat) (armed due : Tick) (delay : Span) : Prop where
  ahead : armed.index + 1 ≤ due.index
  covers : delay.nanoseconds ≤ (due.index - armed.index) * tickNanoseconds
  least : 0 < delay.nanoseconds →
    (due.index - armed.index - 1) * tickNanoseconds < delay.nanoseconds

namespace TimerQueue

variable {first queue later : TimerQueue} {history : List TimerOperation}
  {operation : TimerOperation} {answer : TimerAnswer} {owner : AgentId} {delay : Span}
  {timer : Timer} {fired : List Timer} {now tick : Tick} {tickMillis : UInt32}

/-! ### One operation -/

theorem due_of_arm (armed : queue.arm owner delay = .ok (timer, later))
    (uncut : 0 < queue.now.index ∨ timer.due.index + 1 < 2 ^ 64) :
    timer.due.index = queue.now.index + queue.clock.wait delay := by
  obtain ⟨moved, _, _, _⟩ := arm_eq_ok.mp armed
  have due := Tick.offset_eq_ok.mp moved
  have bound := timer.due.index_lt
  rw [Clock.ticksFor_eq] at due
  unfold Clock.wait
  generalize delay.nanoseconds ⌈/⌉ queue.clock.tickNanoseconds = covered at due ⊢
  omega

private theorem prompt_of_arm (armed : queue.arm owner delay = .ok (timer, later))
    (room : timer.due.index + 1 < 2 ^ 64) :
    Tick.Prompt queue.clock.tickNanoseconds queue.now timer.due delay := by
  have due := due_of_arm armed (.inr room)
  have waited : timer.due.index - queue.now.index = queue.clock.wait delay := by omega
  refine
    { ahead := ?_
      covers := ?_
      least := ?_ }
  · have positive := queue.clock.wait_pos delay
    omega
  · rw [waited]
    exact queue.clock.le_wait_mul delay
  · intro positive
    rw [waited]
    exact queue.clock.wait_pred_mul_lt positive

theorem due_of_drain (shelved : queue.Shelved) (drained : queue.drain tick = .ok (fired, later))
    (returned : timer ∈ fired) :
    timer ∈ queue.timers ∧ timer.due ≤ tick ∧ tick.index + 1 < 2 ^ 64 := by
  obtain ⟨room, rfl, rfl⟩ := drain_eq_ok.mp drained
  obtain ⟨⟨due, bucket⟩, kept, member⟩ := List.mem_flatMap.mp returned
  rw [Std.ExtTreeMap.mem_toList_iff_getElem?_eq_some, Std.ExtTreeMap.getElem?_filter',
    Option.filter_eq_some_iff, decide_eq_true_eq] at kept
  obtain ⟨found, before⟩ := kept
  have onShelf : timer ∈ queue.shelf due := by
    unfold shelf
    rw [found]
    exact member
  refine ⟨mem_timers.mpr ⟨due, onShelf⟩, ?_, room⟩
  rw [shelved due timer onShelf]
  exact before

theorem clock_of_drain (drained : queue.drain tick = .ok (fired, later)) :
    later.clock = (queue.advanceTo tick).clock := by
  obtain ⟨_, rfl, rfl⟩ := drain_eq_ok.mp drained
  rfl

theorem now_of_drain (drained : queue.drain tick = .ok (fired, later)) :
    later.now.index = max queue.now.index tick.index := by
  rw [now, clock_of_drain drained]
  exact Tick.index_latest _ _

private theorem tickMillis_of_perform
    (performed : keeper.perform queue operation = .ok (answer, later)) :
    later.clock.tickMillis = queue.clock.tickMillis := by
  rcases of_perform performed with ⟨_, _, _, _, armed, _⟩ | ⟨handle, _, rfl⟩ |
    ⟨_, _, rfl⟩ | ⟨tick, _, _, drained⟩
  · rw [clock_of_arm armed]
  · rw [clock_disarm]
  · rfl
  · rw [clock_of_drain drained]
    rfl

/-! ### Many operations -/

private theorem tickMillis_of_start (started : TimerQueue.start tickMillis = .ok queue) :
    queue.clock.tickMillis = tickMillis.toNat := by
  unfold TimerQueue.start Clock.start at started
  split at started
  · rename_i clock begun
    split at begun
    · cases begun
      cases started
      rfl
    · cases begun
  · cases started

private theorem tickMillis_of_performAll (reached : first.performAll history = .ok queue) :
    queue.clock.tickMillis = first.clock.tickMillis := by
  induction history generalizing first with
  | nil =>
      cases reached
      rfl
  | cons operation history ih =>
      obtain ⟨_, next, performed, rest⟩ := performAll_cons.mp reached
      rw [ih rest, tickMillis_of_perform performed]

theorem due_pos (started : TimerQueue.start tickMillis = .ok first)
    (reached : first.performAll history = .ok queue) (armed : timer ∈ queue.timers) :
    0 < timer.due.index := by
  obtain ⟨_, _, _, _, before, _, _, _, _, arm⟩ :=
    (numbered_of_performAll started reached).armed timer armed
  obtain ⟨moved, _, _, _⟩ := arm_eq_ok.mp arm
  have due := Tick.offset_eq_ok.mp moved
  omega

def ArmsAt (first : TimerQueue) (history : List TimerOperation) (now : Tick) (delay : Span)
    (timer : Timer) : Prop :=
  ∃ earlier further before after, history = earlier ++ .create timer.owner delay :: further ∧
    first.performAll earlier = .ok before ∧ before.now = now ∧
      before.arm timer.owner delay = .ok (timer, after)

private theorem Arms.armsAt {number : Nat} (arms : first.Arms history number timer) :
    ∃ now delay, first.ArmsAt history now delay timer := by
  obtain ⟨earlier, delay, further, before, after, split, _, reached, armed⟩ := arms
  exact ⟨before.now, delay, earlier, further, before, after, split, reached, rfl, armed⟩

/-- Whenever a queue that was started with a tick length armed a timer, the timer is prompt, or
else due in the last tick. -/
theorem ArmsAt.prompt (started : TimerQueue.start tickMillis = .ok first)
    (armed : first.ArmsAt history now delay timer) (room : timer.due.index + 1 < 2 ^ 64) :
    Tick.Prompt (tickMillis.toNat * 10 ^ 6) now timer.due delay := by
  obtain ⟨earlier, further, before, after, _, reached, rfl, arm⟩ := armed
  have length : before.clock.tickNanoseconds = tickMillis.toNat * 10 ^ 6 := by
    unfold Clock.tickNanoseconds
    rw [tickMillis_of_performAll reached, tickMillis_of_start started]
  rw [← length]
  exact prompt_of_arm arm room

/-- After any operations, draining a tick gives back only timers that are due by then. Each of them
was armed with some delay at some tick, and whenever that was, its delay has passed when it is due,
and had not passed a tick before. -/
theorem prompt_of_drain (started : TimerQueue.start tickMillis = .ok first)
    (reached : first.performAll history = .ok queue)
    (drained : keeper.perform queue (.drain tick) = .ok (.drained fired, later))
    (returned : timer ∈ fired) :
    timer.due ≤ tick ∧ (∃ now delay, first.ArmsAt history now delay timer) ∧
      ∀ now delay, first.ArmsAt history now delay timer →
        Tick.Prompt (tickMillis.toNat * 10 ^ 6) now timer.due delay := by
  have numbered := numbered_of_performAll started reached
  have drain : queue.drain tick = .ok (fired, later) := by
    simp only [keeper] at drained
    cases given : queue.drain tick with
    | error fault =>
        rw [given] at drained
        cases drained
    | ok reached =>
        rw [given] at drained
        cases drained
        rfl
  obtain ⟨member, before, last⟩ := due_of_drain numbered.shelved drain returned
  obtain ⟨_, arms⟩ := numbered.armed timer member
  refine ⟨before, arms.armsAt, ?_⟩
  intro now delay armed
  rw [Tick.le_def] at before
  exact armed.prompt started (by omega)

/-- A delay longer than all ticks is asked for at the beginning, then delays of two ticks and, a
tick later, of two more; draining the third tick gives back the two timers that were armed last. -/
theorem prompt_of_drain_endless_delay :
    let owner : AgentId := ⟨0, by decide⟩
    let history : List TimerOperation :=
      [.create owner ⟨(2 ^ 64 - 1) * 10 ^ 9, by decide⟩,
        .create owner (.ofMilliseconds 2 (by decide)), .advanceTo ⟨1, by decide⟩,
        .create owner ⟨1500000, by decide⟩]
    ∃ first queue fired later, TimerQueue.start 1 = .ok first ∧
      first.performAll history = .ok queue ∧ queue.timers.length = 3 ∧
      keeper.perform queue (.drain ⟨3, by decide⟩) = .ok (.drained fired, later) ∧
      fired.map (·.due.index) = [2, 3] ∧
      ∀ timer ∈ fired, ∃ now delay, first.ArmsAt history now delay timer ∧
        Tick.Prompt (10 ^ 6) now timer.due delay := by
  intro owner history
  obtain ⟨first, started, facts⟩ : ∃ first, TimerQueue.start 1 = .ok first ∧
      ((first.performAll history).toOption.any fun queue =>
        queue.timers.length = 3 &&
          (queue.drain ⟨3, by decide⟩).toOption.any fun drained =>
            drained.1.map (·.due.index) = [2, 3]) = true :=
    exists_ok (by decide +kernel)
  obtain ⟨queue, reached, facts⟩ := exists_ok facts
  obtain ⟨three, facts⟩ := (Bool.and_eq_true _ _).mp facts
  obtain ⟨⟨fired, later⟩, drain, two⟩ := exists_ok facts
  have drained := perform_drain drain
  refine ⟨first, queue, fired, later, started, reached, of_decide_eq_true three, drained,
    of_decide_eq_true two, ?_⟩
  intro timer returned
  obtain ⟨_, ⟨now, delay, armed⟩, prompt⟩ := prompt_of_drain started reached drained returned
  exact ⟨now, delay, armed, prompt now delay armed⟩

end TimerQueue

end PriorityAgents
