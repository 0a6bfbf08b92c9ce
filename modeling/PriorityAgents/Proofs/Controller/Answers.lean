import PriorityAgents.Controller.Delivery
import PriorityAgents.Proofs.Journal.Docket

/-!
What the operations on a controller and its timers answer, and what they enter.
-/

set_option autoImplicit false

namespace PriorityAgents

variable {vocabulary : Vocabulary} {α : Type}

namespace Scheduler

def release (scheduler : Scheduler) (timers : TimerQueue) : TimerQueue :=
  match scheduler.slot with
  | some handle => timers.disarm handle
  | none => timers

def disarmings (scheduler : Scheduler) (timers : TimerQueue) : List Entry :=
  match scheduler.slot with
  | some handle => ((timers.dueTick? handle).map (Entry.disarmed handle)).toList
  | none => []

theorem silent_disarmings (scheduler : Scheduler) (timers : TimerQueue) :
    ∀ entry ∈ scheduler.disarmings timers, entry.IsSilent := by
  unfold disarmings
  cases scheduler.slot with
  | none => exact nofun
  | some handle =>
      intro entry member
      obtain ⟨due, _, rfl⟩ := Option.map_eq_some_iff.mp (Option.mem_toList.mp member)
      exact trivial

theorem gives_cancel {scheduler later : Scheduler} {timers laterTimers : TimerQueue}
    {wasPending : Bool} {journal : List Entry} :
    (scheduler.cancel timers).Gives (wasPending, later, laterTimers) journal ↔
      wasPending = scheduler.isPending ∧ later = idle ∧ laterTimers = scheduler.release timers ∧
        journal = scheduler.disarmings timers := by
  obtain ⟨slot⟩ := scheduler
  cases slot with
  | none =>
      simp only [cancel, Journaled.gives_pure, Prod.mk.injEq, isPending, release, disarmings,
        Option.isSome_none]
      constructor
      · intro given
        rcases given with ⟨⟨rfl, rfl, rfl⟩, rfl⟩
        exact ⟨rfl, rfl, rfl, rfl⟩
      · intro given
        rcases given with ⟨rfl, rfl, rfl, rfl⟩
        exact ⟨⟨rfl, rfl, rfl⟩, rfl⟩
  | some handle =>
      simp only [cancel, Journaled.gives_bind, TimerQueue.gives_cancel, Journaled.gives_pure,
        Prod.mk.injEq, isPending, release, disarmings, Option.isSome_some]
      constructor
      · intro given
        rcases given with ⟨_, _, _, ⟨rfl, rfl⟩, ⟨⟨rfl, rfl, rfl⟩, rfl⟩, rfl⟩
        exact ⟨rfl, rfl, rfl, List.append_nil _⟩
      · intro given
        rcases given with ⟨rfl, rfl, rfl, rfl⟩
        exact ⟨_, _, _, ⟨rfl, rfl⟩, ⟨⟨rfl, rfl, rfl⟩, rfl⟩, (List.append_nil _).symm⟩

private theorem gives_schedule {scheduler later : Scheduler} {timers laterTimers : TimerQueue}
    {owner : AgentId} {delay : Span} {handle : TimerHandle} {journal : List Entry} :
    (scheduler.schedule timers owner delay).Gives (handle, later, laterTimers) journal ↔
      ∃ timer, (scheduler.release timers).arm owner delay = .ok (timer, laterTimers) ∧
        handle = timer.handle ∧ later = ⟨some timer.handle⟩ ∧
        journal = scheduler.disarmings timers ++
          [.armed timer, .scheduled owner timer.handle delay] := by
  simp only [schedule, Journaled.gives_bind, Journaled.gives_enter, Journaled.gives_pure,
    Prod.exists, gives_cancel, TimerQueue.gives_create, Prod.mk.injEq]
  constructor
  · intro given
    rcases given with ⟨_, _, _, _, _, ⟨rfl, rfl, rfl, rfl⟩, ⟨_, _, _, _, ⟨timer, armed, rfl, rfl⟩,
      ⟨_, _, _, rfl, ⟨⟨rfl, rfl, rfl⟩, rfl⟩, rfl⟩, rfl⟩, rfl⟩
    exact ⟨timer, armed, rfl, rfl, rfl⟩
  · intro given
    rcases given with ⟨timer, armed, rfl, rfl, rfl⟩
    exact ⟨_, _, _, _, _, ⟨rfl, rfl, rfl, rfl⟩, ⟨_, _, _, _, ⟨timer, armed, rfl, rfl⟩,
      ⟨(), _, _, rfl, ⟨⟨rfl, rfl, rfl⟩, rfl⟩, rfl⟩, rfl⟩, rfl⟩

end Scheduler

namespace Context

variable {context later : Context vocabulary} {journal : List Entry}

theorem gives_cancel :
    context.cancel.Gives later journal ↔
      later =
          { controller := { context.controller with scheduler := .idle }
            timers := context.controller.scheduler.release context.timers } ∧
        journal = context.controller.scheduler.disarmings context.timers ++
          if context.controller.scheduler.isPending then [.withdrawn context.controller.id]
          else [] := by
  simp only [cancel, Journaled.gives_bind, Prod.exists, Scheduler.gives_cancel]
  cases context.controller.scheduler.isPending with
  | false =>
      simp only [Bool.false_eq_true, if_false]
      constructor
      · intro given
        rcases given with ⟨_, _, _, _, _, ⟨rfl, rfl, rfl, rfl⟩, given, rfl⟩
        simp only [Bool.false_eq_true, if_false, Journaled.gives_pure] at given
        obtain ⟨rfl, rfl⟩ := given
        exact ⟨rfl, rfl⟩
      · intro given
        rcases given with ⟨rfl, rfl⟩
        refine ⟨_, _, _, _, [], ⟨rfl, rfl, rfl, rfl⟩, ?_, rfl⟩
        simp only [Bool.false_eq_true, if_false, Journaled.gives_pure, and_self]
  | true =>
      simp only [if_true]
      constructor
      · intro given
        rcases given with ⟨_, _, _, _, _, ⟨rfl, rfl, rfl, rfl⟩, given, rfl⟩
        simp only [if_true, Journaled.gives_bind, Journaled.gives_enter,
          Journaled.gives_pure] at given
        obtain ⟨_, _, _, rfl, ⟨rfl, rfl⟩, rfl⟩ := given
        exact ⟨rfl, rfl⟩
      · intro given
        rcases given with ⟨rfl, rfl⟩
        refine ⟨_, _, _, _, _, ⟨rfl, rfl, rfl, rfl⟩, ?_, rfl⟩
        simp only [if_true, Journaled.gives_bind, Journaled.gives_enter, Journaled.gives_pure]
        exact ⟨(), _, _, rfl, ⟨trivial, rfl⟩, rfl⟩

theorem gives_schedule {delay : Span} :
    (context.schedule delay).Gives later journal ↔
      ∃ timer timers,
        (context.controller.scheduler.release context.timers).arm context.controller.id delay =
            .ok (timer, timers) ∧
          later = ⟨{ context.controller with scheduler := ⟨some timer.handle⟩ }, timers⟩ ∧
          journal = context.controller.scheduler.disarmings context.timers ++
            [.armed timer, .scheduled context.controller.id timer.handle delay] := by
  simp only [schedule, Journaled.gives_bind, Journaled.gives_pure, Prod.exists,
    Scheduler.gives_schedule]
  constructor
  · intro given
    rcases given with ⟨_, _, _, _, _, ⟨timer, armed, rfl, rfl, rfl⟩, ⟨rfl, rfl⟩, rfl⟩
    exact ⟨timer, _, armed, rfl, List.append_nil _⟩
  · intro given
    rcases given with ⟨timer, _, armed, rfl, rfl⟩
    exact ⟨_, _, _, _, _, ⟨timer, armed, rfl, rfl, rfl⟩, ⟨rfl, rfl⟩, (List.append_nil _).symm⟩

@[simp] theorem gives_effect {outcome : Logged (Context vocabulary)} {answer : Unit} :
    (effect outcome).Gives (answer, later) journal ↔ outcome.Gives later journal := by
  simp only [effect, Journaled.gives_bind, Journaled.gives_pure, Prod.mk.injEq, true_and]
  constructor
  · intro given
    rcases given with ⟨_, _, _, given, ⟨rfl, rfl⟩, rfl⟩
    rwa [List.append_nil]
  · intro given
    exact ⟨later, journal, [], given, ⟨rfl, rfl⟩, (List.append_nil _).symm⟩

@[simp] theorem gives_report {severity : Severity} {message : String}
    {fields : List (String × String)} {answer : Unit} :
    (context.report severity message fields).Gives answer journal ↔
      journal = [.told
        { severity, message, fields := ("agent", context.controller.id.text) :: fields }] :=
  Logged.gives_report

/-- What is told of a tree that may leave its agent without an answer. -/
def complaints (context : Context vocabulary) (tree : PriorityTree vocabulary) : List Record :=
  match tree.checkFallback with
  | .ok () => []
  | .error cause =>
      [{ severity := .warn
         message := cause.message
         fields := [("agent", context.controller.id.text), ("ai", context.controller.name)] }]

theorem gives_setPriorities {tree : PriorityTree vocabulary} :
    (context.setPriorities tree).Gives later journal ↔
      ∃ entries,
        (reconsiderNow { context with controller := { context.controller with tree } }).Gives
          later entries ∧
        journal = (context.complaints tree).map Entry.told ++ entries := by
  unfold setPriorities complaints
  cases tree.checkFallback with
  | ok _ =>
      simp only [List.map_nil, List.nil_append]
      constructor
      · intro given
        exact ⟨journal, given, rfl⟩
      · intro given
        rcases given with ⟨_, given, rfl⟩
        exact given
  | error cause =>
      simp only [Journaled.gives_bind, gives_report]
      constructor
      · intro given
        rcases given with ⟨_, _, entries, rfl, given, rfl⟩
        exact ⟨entries, given, rfl⟩
      · intro given
        rcases given with ⟨entries, given, rfl⟩
        exact ⟨(), _, entries, rfl, given, rfl⟩

end Context

end PriorityAgents
