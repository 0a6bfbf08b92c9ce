import PriorityAgents.Proofs.Controller.Blindness
import PriorityAgents.Proofs.Controller.Keeping

/-!
The same controller on other timers.

Two contexts are alike when only the handle in the slot and the timers of others tell them apart.
Blind code has the same answers in both and leaves them alike; `Alike.perform` is the step lemma,
one case for each request, and `Alike.run` carries it through a program.
-/

set_option autoImplicit false

namespace PriorityAgents.Context

variable {vocabulary : Vocabulary} {α : Type}

def due? (context : Context vocabulary) : Option Tick :=
  context.controller.pending.bind context.timers.dueTick?

structure Alike (context other : Context vocabulary) : Prop where
  controller : context.detached.controller = other.detached.controller
  clock : context.timers.clock = other.timers.clock
  slot : context.controller.pending.isSome = other.controller.pending.isSome
  due : context.due? = other.due?

variable {context other later : Context vocabulary} {journal : List Entry}
  {repertoire : Repertoire vocabulary} {reach : Reach vocabulary}

/-! ### What stays within reach -/

private theorem within_of_scheduler (within : context.controller.Within reach)
    (scheduler : Scheduler) :
    ({ context.controller with scheduler } : Controller vocabulary).Within reach :=
  ⟨within.mind, within.tree, within.surface⟩

private theorem within_of_schedule {delay : Span} (within : context.controller.Within reach)
    (given : (context.schedule delay).Gives later journal) : later.controller.Within reach := by
  obtain ⟨timer, timers, _, rfl, _⟩ := gives_schedule.mp given
  exact within_of_scheduler within _

private theorem within_of_communicate (blind : repertoire.Blind reach)
    (within : context.controller.Within reach) {key substitution : String}
    (given : (context.communicate repertoire key substitution).Gives later journal) :
    later.controller.Within reach := by
  unfold communicate at given
  cases rendered : context.controller.mind.phrases.render? key substitution with
  | none =>
      rw [rendered] at given
      obtain ⟨rfl, _⟩ := Journaled.gives_pure.mp given
      exact within
  | some message =>
      rw [rendered] at given
      obtain ⟨agent, _, _, received, rest, _⟩ := Journaled.gives_bind.mp given
      obtain ⟨rfl, _⟩ := Journaled.gives_pure.mp rest
      obtain ⟨_, heard, _⟩ := Told.gives_logged.mp received
      exact ⟨blind.receive message _ agent within.mind heard.outcome, within.tree, within.surface⟩

private theorem within_of_perform (blind : repertoire.Blind reach)
    (within : context.controller.Within reach) {request : Request vocabulary}
    (asked : request.Within reach) {answer : request.Answer}
    (given : (context.perform repertoire request).Gives (answer, later) journal) :
    later.controller.Within reach ∧ request.Admits reach answer := by
  have finished {kept : Context vocabulary} {reply : request.Answer} {entries : List Entry}
      (same : (pure (reply, kept) : Logged (request.Answer × Context vocabulary)).Gives
        (answer, later) entries)
      (stays : kept.controller.Within reach) (found : request.Admits reach reply) :
      later.controller.Within reach ∧ request.Admits reach answer := by
    obtain ⟨reached, _⟩ := Journaled.gives_pure.mp same
    cases reached
    exact ⟨stays, found⟩
  cases request with
  | standing => exact finished given within trivial
  | tree => exact finished given within within.tree
  | mind => exact finished given within within.mind
  | setMind mind => exact finished given ⟨asked, within.tree, within.surface⟩ trivial
  | communicate key substitution =>
      exact ⟨within_of_communicate blind within (gives_effect.mp given), trivial⟩
  | surface => exact finished given within within.surface
  | bind name handler =>
      exact finished given ⟨within.mind, within.tree, within.surface.bind name asked⟩ trivial
  | unbind name =>
      exact finished given ⟨within.mind, within.tree, within.surface.unbind name⟩ trivial
  | install set =>
      exact finished given ⟨within.mind, within.tree, within.surface.install asked⟩ trivial
  | pending => exact finished given within trivial
  | reconsiderNow => exact ⟨within_of_schedule within (gives_effect.mp given), trivial⟩
  | schedule delay => exact ⟨within_of_schedule within (gives_effect.mp given), trivial⟩
  | cancel =>
      obtain ⟨rfl, _⟩ := gives_cancel.mp (gives_effect.mp given)
      exact ⟨within_of_scheduler within _, trivial⟩
  | setPriorities tree =>
      obtain ⟨_, rest, _⟩ := gives_setPriorities.mp (gives_effect.mp given)
      refine ⟨within_of_schedule ?_ rest, trivial⟩
      exact ⟨within.mind, asked, within.surface⟩
  | note record =>
      obtain ⟨_, _, _, _, rest, _⟩ := Journaled.gives_bind.mp given
      exact finished rest within trivial
  | fail fault => exact answer.elim

/-! ### What is done alike -/

namespace Alike

private theorem exists_eq (alike : context.Alike other) :
    ∃ scheduler timers, other = ⟨{ context.controller with scheduler }, timers⟩ := by
  have same := alike.controller
  obtain ⟨⟨id, name, reconsiderNow, mind, tree, surface, scheduler⟩, timers⟩ := other
  cases same
  exact ⟨scheduler, timers, rfl⟩

theorem of_detached (controller : context.detached.controller = other.detached.controller)
    (clock : context.timers.clock = other.timers.clock) :
    context.detached.Alike other.detached where
  controller := controller
  clock := clock
  slot := rfl
  due := rfl

private theorem arm {timers otherTimers laterTimers : TimerQueue} {owner : AgentId} {delay : Span}
    {timer : Timer} (clock : timers.clock = otherTimers.clock)
    (armed : timers.arm owner delay = .ok (timer, laterTimers)) :
    ∃ twin twinTimers, otherTimers.arm owner delay = .ok (twin, twinTimers) ∧
      twin.due = timer.due := by
  obtain ⟨moved, _⟩ := TimerQueue.arm_eq_ok.mp armed
  refine ⟨⟨otherTimers.nextHandle, owner, timer.due⟩, _,
    TimerQueue.arm_eq_ok.mpr ⟨?_, rfl, rfl, rfl⟩, rfl⟩
  rw [TimerQueue.now, ← clock]
  exact moved

private theorem schedule {delay : Span} (alike : context.Alike other)
    (given : (context.schedule delay).Gives later journal) :
    ∃ reached entries, (other.schedule delay).Gives reached entries ∧ later.Alike reached := by
  obtain ⟨scheduler, otherTimers, rfl⟩ := alike.exists_eq
  obtain ⟨timer, timers, armed, rfl, _⟩ := gives_schedule.mp given
  have clock : (context.controller.scheduler.release context.timers).clock =
      (scheduler.release otherTimers).clock :=
    (clock_release context).trans (alike.clock.trans (clock_release _).symm)
  obtain ⟨twin, twinTimers, twinArmed, due⟩ := arm clock armed
  refine ⟨_, _, gives_schedule.mpr ⟨twin, twinTimers, twinArmed, rfl, rfl⟩, ?_⟩
  refine
    { controller := rfl
      clock := ?_
      slot := rfl
      due := ?_ }
  · change timers.clock = twinTimers.clock
    rw [TimerQueue.clock_of_arm armed, TimerQueue.clock_of_arm twinArmed, clock]
  · change timers.dueTick? timer.handle = twinTimers.dueTick? twin.handle
    rw [TimerQueue.dueTick?_of_arm armed, TimerQueue.dueTick?_of_arm twinArmed, if_pos rfl,
      if_pos rfl, due]

private theorem cancel (alike : context.Alike other) (given : context.cancel.Gives later journal) :
    ∃ reached entries, other.cancel.Gives reached entries ∧ later.Alike reached := by
  obtain ⟨rfl, _⟩ := gives_cancel.mp given
  refine ⟨_, _, gives_cancel.mpr ⟨rfl, rfl⟩, ?_⟩
  exact
    { controller := alike.controller
      clock := (clock_release context).trans
        (alike.clock.trans (clock_release other).symm)
      slot := rfl
      due := rfl }

private theorem setPriorities {tree : PriorityTree vocabulary} (alike : context.Alike other)
    (given : (context.setPriorities tree).Gives later journal) :
    ∃ reached entries, (other.setPriorities tree).Gives reached entries ∧ later.Alike reached := by
  obtain ⟨scheduler, otherTimers, rfl⟩ := alike.exists_eq
  obtain ⟨_, rest, _⟩ := gives_setPriorities.mp given
  have swapped : Alike ⟨{ context.controller with tree }, context.timers⟩
      ⟨{ context.controller with tree, scheduler }, otherTimers⟩ :=
    ⟨rfl, alike.clock, alike.slot, alike.due⟩
  obtain ⟨reached, entries, scheduled, same⟩ := swapped.schedule rest
  exact ⟨reached, _, gives_setPriorities.mpr ⟨entries, scheduled, rfl⟩, same⟩

private theorem communicate {key substitution : String} (alike : context.Alike other)
    (given : (context.communicate repertoire key substitution).Gives later journal) :
    ∃ reached entries, (other.communicate repertoire key substitution).Gives reached entries ∧
      later.Alike reached := by
  obtain ⟨scheduler, otherTimers, rfl⟩ := alike.exists_eq
  unfold Context.communicate at given ⊢
  cases rendered : context.controller.mind.phrases.render? key substitution with
  | none =>
      rw [rendered] at given
      obtain ⟨rfl, _⟩ := Journaled.gives_pure.mp given
      exact ⟨_, [], Journaled.gives_pure.mpr ⟨rfl, rfl⟩, alike⟩
  | some message =>
      rw [rendered] at given
      obtain ⟨agent, early, _, received, rest, _⟩ := Journaled.gives_bind.mp given
      obtain ⟨rfl, _⟩ := Journaled.gives_pure.mp rest
      exact ⟨_, _, Journaled.gives_bind.mpr ⟨agent, early, [], received,
        Journaled.gives_pure.mpr ⟨rfl, rfl⟩, rfl⟩, rfl, alike.clock, alike.slot, alike.due⟩

private theorem perform {request : Request vocabulary} {answer : request.Answer}
    (alike : context.Alike other)
    (given : (context.perform repertoire request).Gives (answer, later) journal) :
    ∃ reply reached entries,
      (other.perform repertoire request).Gives (reply, reached) entries ∧
        request.SameAnswer answer reply ∧ later.Alike reached := by
  obtain ⟨scheduler, timers, rfl⟩ := alike.exists_eq
  have finished {kept twin : Context vocabulary} {reply twinReply : request.Answer}
      (same : (pure (reply, kept) : Logged (request.Answer × Context vocabulary)).Gives
        (answer, later) journal)
      (twinSame : perform repertoire ⟨{ context.controller with scheduler }, timers⟩ request =
        pure (twinReply, twin))
      (replies : request.SameAnswer reply twinReply) (alikeStill : kept.Alike twin) :
      ∃ reply reached entries,
        (perform repertoire ⟨{ context.controller with scheduler }, timers⟩ request).Gives
          (reply, reached) entries ∧ request.SameAnswer answer reply ∧ later.Alike reached := by
    obtain ⟨reached, _⟩ := Journaled.gives_pure.mp same
    cases reached
    refine ⟨twinReply, twin, [], ?_, replies, alikeStill⟩
    rw [twinSame]
    exact Journaled.gives_pure.mpr ⟨rfl, rfl⟩
  cases request with
  | standing => exact finished given rfl rfl alike
  | tree => exact finished given rfl rfl alike
  | mind => exact finished given rfl rfl alike
  | setMind mind => exact finished given rfl rfl ⟨rfl, alike.clock, alike.slot, alike.due⟩
  | communicate key substitution =>
      obtain ⟨reached, entries, said, same⟩ := alike.communicate (gives_effect.mp given)
      exact ⟨(), reached, entries, gives_effect.mpr said, rfl, same⟩
  | surface => exact finished given rfl rfl alike
  | bind name handler => exact finished given rfl rfl ⟨rfl, alike.clock, alike.slot, alike.due⟩
  | unbind name => exact finished given rfl rfl ⟨rfl, alike.clock, alike.slot, alike.due⟩
  | install set => exact finished given rfl rfl ⟨rfl, alike.clock, alike.slot, alike.due⟩
  | pending => exact finished given rfl alike.slot alike
  | reconsiderNow =>
      obtain ⟨reached, entries, scheduled, same⟩ := alike.schedule (gives_effect.mp given)
      exact ⟨(), reached, entries, gives_effect.mpr scheduled, rfl, same⟩
  | schedule delay =>
      obtain ⟨reached, entries, scheduled, same⟩ := alike.schedule (gives_effect.mp given)
      exact ⟨(), reached, entries, gives_effect.mpr scheduled, rfl, same⟩
  | cancel =>
      obtain ⟨reached, entries, cancelled, same⟩ := alike.cancel (gives_effect.mp given)
      exact ⟨(), reached, entries, gives_effect.mpr cancelled, rfl, same⟩
  | setPriorities tree =>
      obtain ⟨reached, entries, swapped, same⟩ := alike.setPriorities (gives_effect.mp given)
      exact ⟨(), reached, entries, gives_effect.mpr swapped, rfl, same⟩
  | note record =>
      obtain ⟨_, _, _, reported, rest, _⟩ := Journaled.gives_bind.mp given
      obtain ⟨reached, _⟩ := Journaled.gives_pure.mp rest
      cases reached
      exact ⟨(), _, _, Journaled.gives_bind.mpr ⟨(), _, [], reported,
        Journaled.gives_pure.mpr ⟨rfl, rfl⟩, rfl⟩, rfl, alike⟩
  | fail fault => exact answer.elim

theorem run {program : Program vocabulary α} {answers : α → Prop} {answer : α}
    (alike : context.Alike other) (blind : repertoire.Blind reach)
    (within : context.controller.Within reach) (unseeing : program.Blind reach answers)
    (given : (context.run repertoire program).Gives (answer, later) journal) :
    later.controller.Within reach ∧ answers answer ∧
      ∃ reached entries, (other.run repertoire program).Gives (answer, reached) entries ∧
        later.Alike reached := by
  induction program generalizing context other journal with
  | pure reply =>
      obtain ⟨reached, _⟩ := Journaled.gives_pure.mp given
      cases reached
      exact ⟨within, unseeing, other, [], Journaled.gives_pure.mpr ⟨rfl, rfl⟩, alike⟩
  | ask request next ih =>
      obtain ⟨asked, same, rest⟩ := unseeing
      obtain ⟨⟨reply, middle⟩, _, _, performed, ran, _⟩ := Journaled.gives_bind.mp given
      obtain ⟨stays, admitted⟩ := within_of_perform blind within asked performed
      obtain ⟨twinReply, twin, early, twinPerformed, replies, middleAlike⟩ :=
        alike.perform performed
      obtain ⟨kept, found, reached, late, twinRan, laterAlike⟩ :=
        ih reply middleAlike stays (rest reply admitted) ran
      rw [same reply twinReply replies] at twinRan
      exact ⟨kept, found, reached, early ++ late,
        Journaled.gives_bind.mpr ⟨_, early, late, twinPerformed, twinRan, rfl⟩, laterAlike⟩

private theorem reconsider {outcome : Reconsideration} (alike : context.Alike other)
    (blind : repertoire.Blind reach) (within : context.controller.Within reach)
    (given : (context.reconsider repertoire).Gives (outcome, later) journal) :
    later.controller.Within reach ∧
      ∃ reached entries, (other.reconsider repertoire).Gives (outcome, reached) entries ∧
        later.Alike reached := by
  have tree : context.controller.tree = other.controller.tree := by
    obtain ⟨scheduler, timers, rfl⟩ := alike.exists_eq
    rfl
  obtain ⟨⟨chosen, middle⟩, first, second, walked, rest, rfl⟩ := Journaled.gives_bind.mp given
  obtain ⟨stays, named, twin, early, twinWalked, middleAlike⟩ :=
    alike.run blind within (blind.evaluate within.tree) walked
  rw [tree] at twinWalked
  cases chosen with
  | none =>
      obtain ⟨_, _, _, _, final, _⟩ := Journaled.gives_bind.mp rest
      obtain ⟨reached, _⟩ := Journaled.gives_pure.mp final
      cases reached
      exact ⟨stays, twin, _, Journaled.gives_bind.mpr ⟨_, early, _, twinWalked,
        Journaled.gives_bind.mpr ⟨(), _, [], gives_report.mpr rfl,
          Journaled.gives_pure.mpr ⟨rfl, rfl⟩, rfl⟩, rfl⟩, middleAlike⟩
  | some behaviour =>
      obtain ⟨_, _, _, _, acted, _⟩ := Journaled.gives_bind.mp rest
      obtain ⟨⟨_, reached⟩, _, _, ran, final, _⟩ := Journaled.gives_bind.mp acted
      obtain ⟨same, _⟩ := Journaled.gives_pure.mp final
      cases same
      obtain ⟨kept, _, twinReached, late, twinRan, laterAlike⟩ :=
        middleAlike.run blind stays (blind.action behaviour (named behaviour rfl)) ran
      exact ⟨kept, twinReached, _, Journaled.gives_bind.mpr ⟨_, early, _, twinWalked,
        Journaled.gives_bind.mpr ⟨(), _, _, gives_report.mpr rfl,
          Journaled.gives_bind.mpr ⟨_, late, [], twinRan, Journaled.gives_pure.mpr ⟨rfl, rfl⟩,
            rfl⟩, rfl⟩, rfl⟩, laterAlike⟩

theorem handleEvent {name : EventName} {payload : vocabulary.Payload} {handled : Bool}
    (alike : context.Alike other) (blind : repertoire.Blind reach)
    (within : context.controller.Within reach) (brought : reach.payload payload)
    (given : (context.handleEvent repertoire name payload).Gives (handled, later) journal) :
    later.controller.Within reach ∧
      ∃ reached entries,
        (other.handleEvent repertoire name payload).Gives (handled, reached) entries ∧
          later.Alike reached := by
  have surface : other.controller.surface = context.controller.surface := by
    obtain ⟨scheduler, timers, rfl⟩ := alike.exists_eq
    rfl
  unfold Context.handleEvent at given ⊢
  rw [surface]
  cases bound : context.controller.surface.handler? name with
  | none =>
      rw [bound] at given
      obtain ⟨reached, _⟩ := Journaled.gives_pure.mp given
      cases reached
      exact ⟨within, other, [], Journaled.gives_pure.mpr ⟨rfl, rfl⟩, alike⟩
  | some handler =>
      rw [bound] at given
      obtain ⟨⟨_, reached⟩, _, _, ran, final, _⟩ := Journaled.gives_bind.mp given
      obtain ⟨same, _⟩ := Journaled.gives_pure.mp final
      cases same
      obtain ⟨kept, _, twin, entries, twinRan, laterAlike⟩ :=
        alike.run blind within (blind.handle (within.surface name handler bound) brought) ran
      exact ⟨kept, twin, _, Journaled.gives_bind.mpr ⟨_, entries, [], twinRan,
        Journaled.gives_pure.mpr ⟨rfl, rfl⟩, rfl⟩, laterAlike⟩

/-- A timer that fires while it is in the slot has the same outcome whatever its handle is. -/
theorem onTimer {fired twinFired : TimerHandle} {outcome : Reconsideration}
    (alike : context.detached.Alike other.detached) (blind : repertoire.Blind reach)
    (within : context.controller.Within reach)
    (pending : context.controller.pending = some fired)
    (twinPending : other.controller.pending = some twinFired)
    (given : (context.onTimer repertoire fired).Gives (outcome, later) journal) :
    later.controller.Within reach ∧
      ∃ reached entries, (other.onTimer repertoire twinFired).Gives (outcome, reached) entries ∧
        later.Alike reached := by
  have agent : other.controller.agent = context.controller.agent :=
    (congrArg Controller.agent alike.controller).symm
  rw [onTimer_of_pending pending] at given
  rw [onTimer_of_pending twinPending, agent]
  split at given
  · rename_i present
    rw [if_pos present]
    exact alike.reconsider blind ⟨within.mind, within.tree, within.surface⟩ given
  · rename_i gone
    rw [if_neg gone]
    obtain ⟨reached, _⟩ := Journaled.gives_pure.mp given
    cases reached
    exact ⟨⟨within.mind, within.tree, within.surface⟩, other.detached, [],
      Journaled.gives_pure.mpr ⟨rfl, rfl⟩, alike⟩

end Alike

end PriorityAgents.Context
