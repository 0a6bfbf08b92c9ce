import PriorityAgents.Proofs.Controller.Attest
import PriorityAgents.Proofs.Controller.Course
import PriorityAgents.Proofs.Timer.Reach

/-!
What is pending while an agent's code runs is never overdue.

That needs no bound on the number of timers, for it is a matter of the index of the queue alone.
Handles may have been given out twice and timers may have been called off by strangers; what the
index knows is on the shelf of its tick, and shelves are cleared in the order of time.
-/

set_option autoImplicit false

namespace PriorityAgents

/-! ### Computations that may be abandoned -/

namespace Journaled

variable {ε α β : Type}

/-- All that is entered is good, also if the computation is abandoned; if it is not, its answer is
as it should be. -/
structure Stays (good : ε → Prop) (holds : α → Prop) (computation : Journaled ε α) : Prop where
  entries : ∀ entry ∈ computation.journal, good entry
  answer (answer : α) : computation.outcome = .ok answer → holds answer

namespace Stays

variable {good : ε → Prop} {holds : α → Prop} {next : α → Journaled ε β}
  {follows : β → Prop} {first : Journaled ε α}

theorem pure {answer : α} (fits : holds answer) :
    (Pure.pure answer : Journaled ε α).Stays good holds where
  entries := nofun
  answer := by
    intro _ same
    cases same
    exact fits

theorem bind (stays : first.Stays good holds)
    (rest : ∀ answer, holds answer → (next answer).Stays good follows) :
    (first >>= next).Stays good follows := by
  obtain ⟨outcome, journal⟩ := first
  cases outcome with
  | error fault => exact ⟨stays.entries, nofun⟩
  | ok reached =>
      have later := rest reached (stays.answer reached rfl)
      refine ⟨fun entry member => ?_, later.answer⟩
      change entry ∈ continued journal (next reached).journal at member
      rw [continued_eq] at member
      rcases List.mem_append.mp member with early | late
      · exact stays.entries entry early
      · exact later.entries entry late

theorem enter {entry : ε} {holds : Unit → Prop} (fits : good entry) (after : holds ()) :
    (Journaled.enter entry).Stays good holds where
  entries := by
    intro other member
    rw [List.mem_singleton.mp member]
    exact fits
  answer := fun _ _ => after

theorem lift {outcome : Except Fault α} (fits : ∀ answer, outcome = .ok answer → holds answer) :
    (liftM outcome : Journaled ε α).Stays good holds where
  entries := nofun
  answer := fits

end Stays

end Journaled

private theorem Clock.landing_of_short {clock : Clock} {delay : Span}
    (short : delay.nanoseconds ≤ clock.tickMillis * 10 ^ 6) :
    clock.landing delay = clock.now.index + 1 := by
  have covered : delay.nanoseconds ⌈/⌉ clock.tickNanoseconds ≤ 1 := by
    rw [ceilDiv_le_iff_le_mul clock.tickNanoseconds_pos, Nat.mul_one]
    exact short
  unfold landing
  rw [ticksFor_eq]
  omega

/-! ### What the index of a queue knows -/

namespace TimerQueue

variable {queue later : TimerQueue} {bound : Nat} {owner : AgentId} {delay : Span} {timer : Timer}
  {tick : Tick} {fired : List Timer}

/-- Whatever the index knows is on the shelf of its tick, and that is not before a bound. -/
structure Abreast (queue : TimerQueue) (bound : Nat) : Prop where
  indexed (handle : TimerHandle) (due : Tick) : queue.dueTick? handle = some due →
    ∃ timer ∈ queue.shelf due, timer.handle = handle
  ahead (handle : TimerHandle) (due : Tick) : queue.dueTick? handle = some due →
    bound ≤ due.index

private theorem mem_of_drain {due : Tick} (drained : queue.drain tick = .ok (fired, later))
    (member : timer ∈ queue.shelf due) (passed : due ≤ tick) : timer ∈ fired := by
  obtain ⟨_, rfl, rfl⟩ := drain_eq_ok.mp drained
  unfold shelf at member
  cases found : queue.buckets[due]? with
  | none =>
      rw [found] at member
      cases member
  | some bucket =>
      rw [found] at member
      refine List.mem_flatMap.mpr ⟨(due, bucket), ?_, member⟩
      rw [Std.ExtTreeMap.mem_toList_iff_getElem?_eq_some, Std.ExtTreeMap.getElem?_filter',
        Option.filter_eq_some_iff]
      exact ⟨found, decide_eq_true passed⟩

namespace Abreast

theorem start {tickMillis : UInt32} (started : TimerQueue.start tickMillis = .ok queue)
    (bound : Nat) : queue.Abreast bound := by
  have empty (handle : TimerHandle) : queue.dueTick? handle = none := by
    unfold dueTick?
    rw [(Holds.start started).live]
    rfl
  exact
    { indexed := fun handle due known => nomatch (empty handle).symm.trans known
      ahead := fun handle due known => nomatch (empty handle).symm.trans known }

private theorem arm (abreast : queue.Abreast bound) (near : bound ≤ queue.now.index + 1)
    (armed : queue.arm owner delay = .ok (timer, later)) : later.Abreast bound := by
  constructor
  · intro handle due known
    rw [dueTick?_of_arm armed] at known
    rw [shelf_of_arm armed]
    by_cases new : timer.handle = handle
    · rw [if_pos new, Option.some.injEq] at known
      rw [if_pos known]
      exact ⟨timer, List.mem_append_right _ List.mem_cons_self, new⟩
    · rw [if_neg new] at known
      obtain ⟨held, member, same⟩ := abreast.indexed handle due known
      exact ⟨held, List.mem_append_left _ member, same⟩
  · intro handle due known
    rw [dueTick?_of_arm armed] at known
    by_cases new : timer.handle = handle
    · rw [if_pos new, Option.some.injEq] at known
      have landing := Tick.offset_eq_ok.mp (arm_eq_ok.mp armed).1
      rw [← known, landing]
      omega
    · rw [if_neg new] at known
      exact abreast.ahead handle due known

private theorem disarm (abreast : queue.Abreast bound) (handle : TimerHandle) :
    (queue.disarm handle).Abreast bound := by
  constructor
  · intro other due known
    rw [dueTick?_disarm] at known
    by_cases gone : handle = other
    · rw [if_pos gone] at known
      cases known
    · rw [if_neg gone] at known
      obtain ⟨held, member, same⟩ := abreast.indexed other due known
      refine ⟨held, ?_, same⟩
      rw [shelf_disarm]
      refine List.mem_filter.mpr ⟨member, decide_eq_true fun taken => ?_⟩
      exact gone (taken.1.symm.trans same)
  · intro other due known
    rw [dueTick?_disarm] at known
    split at known
    · cases known
    · exact abreast.ahead other due known

theorem advanceTo (abreast : queue.Abreast bound) (tick : Tick) :
    (queue.advanceTo tick).Abreast bound := ⟨abreast.indexed, abreast.ahead⟩

/-- What a drained tick leaves in the index is due later, for what was on its shelves is not in the
index any more. -/
theorem drain (abreast : queue.Abreast bound) (drained : queue.drain tick = .ok (fired, later)) :
    later.Abreast (tick.index + 1) := by
  have cleared (handle : TimerHandle) : later.dueTick? handle =
      if fired.any (·.handle = handle) then none else queue.dueTick? handle := by
    obtain ⟨_, rfl, rfl⟩ := drain_eq_ok.mp drained
    exact getElem?_eraseAll _ queue.live handle
  have beyond (handle : TimerHandle) (due : Tick) (known : later.dueTick? handle = some due) :
      queue.dueTick? handle = some due ∧ ¬due ≤ tick := by
    rw [cleared] at known
    split at known
    · cases known
    · rename_i kept
      refine ⟨known, fun passed => kept ?_⟩
      obtain ⟨held, member, same⟩ := abreast.indexed handle due known
      exact List.any_eq_true.mpr ⟨held, mem_of_drain drained member passed, decide_eq_true same⟩
  constructor
  · intro handle due known
    obtain ⟨before, ahead⟩ := beyond handle due known
    rw [shelf_of_drain drained, if_neg ahead]
    exact abreast.indexed handle due before
  · intro handle due known
    have ahead := (beyond handle due known).2
    rw [Tick.le_def] at ahead
    omega

end Abreast

end TimerQueue

/-! ### An agent's code at work -/

variable {vocabulary : Vocabulary} {α β : Type}

namespace Context

variable {context later : Context vocabulary} {journal : List Entry} {clock : Clock} {delay : Span}
  {bound : Nat}

structure Steady (context : Context vocabulary) (clock : Clock) (delay : Span) (bound : Nat) :
    Prop where
  clock : context.timers.clock = clock
  delay : context.controller.reconsiderNow = delay
  abreast : context.timers.Abreast bound

private theorem Steady.course (steady : context.Steady clock delay bound)
    (near : bound ≤ clock.now.index + 1) (course : Course context later journal) :
    later.Steady clock delay bound := by
  -- To schedule is to release first, so both steps share this.
  have released {context : Context vocabulary} (steady : context.Steady clock delay bound) :
      (context.controller.scheduler.release context.timers).Abreast bound := by
    unfold Scheduler.release
    split
    · exact steady.abreast.disarm _
    · exact steady.abreast
  induction course with
  | aside context mind tree surface silent => exact ⟨steady.clock, steady.delay, steady.abreast⟩
  | cancel given =>
      rw [(gives_cancel.mp given).1]
      exact ⟨(clock_release _).trans steady.clock, steady.delay, released steady⟩
  | schedule given =>
      obtain ⟨timer, timers, armed, rfl, _⟩ := gives_schedule.mp given
      have same := (clock_release _).trans steady.clock
      refine ⟨(TimerQueue.clock_of_arm armed).trans same, steady.delay,
        (released steady).arm ?_ armed⟩
      rwa [TimerQueue.now, same]
  | trans _ _ ihBefore ihAfter => exact ihAfter (ihBefore steady)

/-- A moment at which nothing that is pending is overdue, nor due at once if the code runs in a
walk. -/
structure Timely (context : Context vocabulary) (occasion : Occasion) (tickMillis : Nat)
    (delay : Span) : Prop where
  length : context.timers.clock.tickMillis = tickMillis
  delay : context.controller.reconsiderNow = delay
  due (handle : TimerHandle) (due : Tick) : context.timers.dueTick? handle = some due →
    context.timers.now ≤ due
  ahead (handle : TimerHandle) (due : Tick) : context.timers.dueTick? handle = some due →
    occasion = .walk → context.timers.now < due

private theorem Steady.timely {occasion : Occasion} (steady : context.Steady clock delay bound)
    (reached : clock.now.index ≤ bound) (ahead : occasion = .walk → clock.now.index < bound) :
    context.Timely occasion clock.tickMillis delay where
  length := congrArg Clock.tickMillis steady.clock
  delay := steady.delay
  due := by
    intro handle due known
    rw [Tick.le_def, TimerQueue.now, steady.clock]
    exact Nat.le_trans reached (steady.abreast.ahead handle due known)
  ahead := by
    intro handle due known walking
    rw [Tick.lt_def, TimerQueue.now, steady.clock]
    exact Nat.lt_of_lt_of_le (ahead walking) (steady.abreast.ahead handle due known)

/-- What comes of it if an agent asks for a reconsideration at once while one is pending: the next
tick is due, and that is no later than what was pending before, unless that was due in this very
tick and no walk is under way. There may be no next tick. -/
def Hastens (context : Context vocabulary) (occasion : Occasion) (due : Tick) : Prop :=
  (∃ later renewed next, context.reconsiderNow.outcome = .ok later ∧
    later.controller.pending = some renewed ∧ later.timers.dueTick? renewed = some next ∧
    next.index = context.timers.now.index + 1 ∧
    (next ≤ due ∨ due = context.timers.now ∧ occasion ≠ .walk)) ∨
  (context.timers.now.index + 1 = 2 ^ 64 ∧
    context.reconsiderNow.outcome = .error .addOverflow)

theorem Timely.hastens {occasion : Occasion} {tickMillis : Nat}
    (timely : context.Timely occasion tickMillis delay)
    (short : delay.nanoseconds ≤ tickMillis * 10 ^ 6) {handle : TimerHandle} {due : Tick}
    (known : context.timers.dueTick? handle = some due) : context.Hastens occasion due := by
  have landing : context.timers.clock.landing context.controller.reconsiderNow =
      context.timers.now.index + 1 := by
    rw [timely.delay]
    exact context.timers.clock.landing_of_short (timely.length ▸ short)
  rcases context.schedule_cases context.controller.reconsiderNow with
    ⟨_, later, scheduled, renewed, pending, timer, _, _, indexed, next, _⟩ | ⟨beyond, faulted⟩
  · rw [landing] at next
    refine .inl ⟨later, renewed, timer.due, scheduled, pending, indexed, next, ?_⟩
    -- The next tick is late only for what is due at once, and in a walk nothing is.
    have bound := timely.due handle due known
    rw [Tick.le_def] at bound ⊢
    by_cases soon : timer.due.index ≤ due.index
    · exact .inl soon
    · refine .inr ⟨Tick.ext (by omega), fun walking => ?_⟩
      have ahead := timely.ahead handle due known walking
      rw [Tick.lt_def] at ahead
      omega
  · rw [landing] at beyond
    have last := context.timers.now.index_lt
    exact .inr ⟨by omega, faulted⟩

end Context

namespace Incident

def IsTimely (tickMillis : Nat) (delay : Span) : Incident vocabulary → Prop
  | .asked occasion context _ => context.Timely occasion tickMillis delay
  | _ => True

end Incident

namespace Attested

variable {clock : Clock} {delay : Span} {bound : Nat}

def Upholds (attested : Attested vocabulary α) (clock : Clock) (delay : Span) (bound : Nat) :
    Prop :=
  ∀ context, context.Steady clock delay bound →
    (attested context).Stays (Incident.IsTimely clock.tickMillis delay)
      fun reached => reached.2.Steady clock delay bound

namespace Upholds

theorem pure (answer : α) :
    (Pure.pure answer : Attested vocabulary α).Upholds clock delay bound :=
  fun _ steady => .pure steady

theorem bind {first : Attested vocabulary α} {next : α → Attested vocabulary β}
    (upholds : first.Upholds clock delay bound)
    (further : ∀ answer, (next answer).Upholds clock delay bound) :
    (first >>= next).Upholds clock delay bound :=
  fun context steady => (upholds context steady).bind fun reached later =>
    further reached.1 reached.2 later

theorem get_bind {next : Context vocabulary → Attested vocabulary α}
    (upholds : ∀ context, (next context).Upholds clock delay bound) :
    (get >>= next).Upholds clock delay bound :=
  .bind (fun _ steady => .pure steady) upholds

private theorem note {incident : Incident vocabulary}
    (timely : incident.IsTimely clock.tickMillis delay) :
    (Attested.note incident).Upholds clock delay bound := by
  intro context steady
  refine ⟨fun other member => ?_, fun reached same => ?_⟩
  · rw [List.mem_singleton.mp member]
    exact timely
  · cases same
    exact steady

private theorem carry {step : Context vocabulary → Logged (α × Context vocabulary)}
    (near : bound ≤ clock.now.index + 1)
    (course : ∀ context answer later journal, (step context).Gives (answer, later) journal →
      Context.Course context later journal) :
    (Attested.carry step).Upholds clock delay bound := by
  intro context steady
  refine ⟨fun incident member => ?_, fun reached same => ?_⟩
  · obtain ⟨entry, _, rfl⟩ := List.mem_map.mp member
    exact trivial
  · have ran := course context reached.1 reached.2 _ (Journaled.gives_of_outcome same)
    exact steady.course near ran

variable (repertoire : Repertoire vocabulary)

theorem attest (reached : clock.now.index ≤ bound) (near : bound ≤ clock.now.index + 1)
    {occasion : Occasion} (ahead : occasion = .walk → clock.now.index < bound)
    (program : Program vocabulary α) :
    (repertoire.attest occasion program).Upholds clock delay bound := by
  induction program with
  | pure answer => exact .pure answer
  | ask request next ih =>
      intro context steady
      have asked : Incident.IsTimely clock.tickMillis delay (.asked occasion context request) :=
        steady.timely reached ahead
      rw [repertoire.attest_ask]
      exact Upholds.bind (.note asked)
        (fun _ => .bind (.carry near fun _ _ _ _ given => .perform given) ih) context steady

private theorem told (near : bound ≤ clock.now.index + 1) (severity : Severity) (message : String)
    (fields : Context vocabulary → List (String × String)) :
    (Attested.carry fun context => do
      context.report severity message (fields context)
      Pure.pure ((), context)).Upholds clock delay bound := by
  refine .carry near fun context answer later journal given => ?_
  obtain ⟨_, early, _, said, rest, rfl⟩ := Journaled.gives_bind.mp given
  obtain ⟨same, rfl⟩ := Journaled.gives_pure.mp rest
  cases same
  rw [Context.gives_report.mp said, List.append_nil]
  exact .told _ _

private theorem closed (ahead : bound = clock.now.index + 1) :
    repertoire.attester.Closed fun attested => attested.Upholds clock delay bound where
  pure := pure
  bind := bind
  test _ := attest repertoire (by omega) (by omega) (fun _ => by omega) _
  perform _ := attest repertoire (by omega) (by omega) (fun _ => by omega) _
  arm _ := .get_bind fun _ => .bind (.note trivial) fun _ =>
    .carry (by omega) fun _ _ _ _ given => .perform given
  visited _ _ _ := .carry (by omega) fun _ _ _ _ given => .run given

private theorem choice (ahead : bound = clock.now.index + 1) (rules : List (Rule vocabulary)) :
    (repertoire.attestedChoice rules).Upholds clock delay bound := by
  refine .bind ((closed repertoire ahead).walk rules) fun chosen => ?_
  cases chosen with
  | none => exact .bind (told (by omega) _ _ _) fun _ => .pure _
  | some chosen =>
      exact .bind (told (by omega) _ _ _) fun _ =>
        .bind ((closed repertoire ahead).perform chosen) fun _ => .pure _

theorem onTimer (ahead : bound = clock.now.index + 1) (fired : TimerHandle) :
    (repertoire.attestedOnTimer fired).Upholds clock delay bound := by
  intro context steady
  have detached : context.detached.Steady clock delay bound :=
    ⟨steady.clock, steady.delay, steady.abreast⟩
  by_cases pending : context.controller.pending = some fired
  · rw [repertoire.attestedOnTimer_of_pending pending]
    split
    · exact choice repertoire ahead _ _ detached
    · exact .pure detached
  · rw [repertoire.attestedOnTimer_of_stale pending]
    exact Upholds.bind (told (by omega) _ _ _) (fun _ => .pure _) context steady

theorem handleEvent (reached : clock.now.index ≤ bound) (near : bound ≤ clock.now.index + 1)
    (name : EventName) (payload : vocabulary.Payload) :
    (repertoire.attestedHandleEvent name payload).Upholds clock delay bound := by
  refine .get_bind fun context => ?_
  cases context.controller.surface.handler? name with
  | none => exact .pure false
  | some handler =>
      have walking : Occasion.event = .walk → clock.now.index < bound := nofun
      exact .bind (attest repertoire reached near walking _) fun _ => .pure true

theorem teardown (near : bound ≤ clock.now.index + 1) :
    (Attested.teardown : Attested vocabulary Unit).Upholds clock delay bound := by
  refine .get_bind fun context => .bind (.note trivial) fun _ => .carry near ?_
  intro context answer later journal given
  obtain ⟨reached, early, _, torn, rest, rfl⟩ := Journaled.gives_bind.mp given
  obtain ⟨same, rfl⟩ := Journaled.gives_pure.mp rest
  cases same
  rw [List.append_nil]
  exact .teardown torn

end Upholds

end Attested

end PriorityAgents
