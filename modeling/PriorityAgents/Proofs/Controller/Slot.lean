import PriorityAgents.Proofs.Controller.Course
import PriorityAgents.Proofs.Timer.Contents

/-!
An agent's slot and the queue, also when the timer in the slot has left the queue.

A host may drain a timer and hand it out late. Until it does, the slot of the owner holds a handle
that the queue has no timer for, and a slot that is filled anew leaves a drained timer behind. What
is always kept is that the queue has nothing of the agent but the timer in its slot.
-/

set_option autoImplicit false

namespace PriorityAgents

namespace Context

variable {vocabulary : Vocabulary} {context later : Context vocabulary} {journal : List Entry}
  {issued : Nat} {docket : Docket}

theorem clock_release (context : Context vocabulary) :
    (context.controller.scheduler.release context.timers).clock = context.timers.clock := by
  unfold Scheduler.release
  split
  · exact TimerQueue.clock_disarm _ _
  · rfl

private theorem pending_of_idle (idle : context.controller.scheduler.isPending = false) :
    context.controller.pending = none := by
  rwa [Scheduler.isPending, Option.isSome_eq_false_iff, Option.isNone_iff_eq_none] at idle

/-- The timers that a controller works on hold what a docket says. Of the agent's own they have
none but the one in its slot, and the one in its slot is nobody else's. -/
structure Covers (context : Context vocabulary) (issued : Nat) (docket : Docket) : Prop where
  clock : context.timers.clock = docket.clock
  holds : context.timers.Holds issued docket.timers
  own : ∀ timer ∈ docket.timers, timer.owner = context.controller.id →
    context.controller.pending = some timer.handle
  sole : ∀ timer ∈ docket.timers, context.controller.pending = some timer.handle →
    timer.owner = context.controller.id
  known : ∀ handle, context.controller.pending = some handle → handle.index < issued

namespace Covers

theorem others_eq (covers : context.Covers issued docket)
    (idle : context.controller.pending = none) :
    docket.others context.controller.id = docket.timers := by
  unfold Docket.others
  rw [List.filter_eq_self]
  intro timer member
  simp only [ne_eq, decide_eq_true_eq]
  intro mine
  have impossible := covers.own timer member mine
  rw [idle] at impossible
  cases impossible

private theorem release (covers : context.Covers issued docket) :
    (context.controller.scheduler.release context.timers).Holds issued
      (docket.others context.controller.id) := by
  unfold Scheduler.release
  cases slot : context.controller.scheduler.slot with
  | none =>
      rw [covers.others_eq slot]
      exact covers.holds
  | some handle =>
      have same : docket.others context.controller.id =
          docket.timers.filter (·.handle ≠ handle) := by
        apply List.filter_congr
        intro timer member
        rw [decide_eq_decide]
        apply not_congr
        constructor
        · intro mine
          exact (Option.some.inj ((covers.own timer member mine).symm.trans slot))
        · intro sameHandle
          exact covers.sole timer member (by rw [sameHandle]; exact slot)
      rw [same]
      exact covers.holds.disarm handle

theorem single (covers : context.Covers issued docket) :
    (context.timers.timers.filter (·.owner = context.controller.id)).length ≤ 1 := by
  rw [covers.holds.timers_eq, ← Timer.inDueOrder_filter, (Timer.inDueOrder_perm _).length_eq]
  have handles :
      ((docket.timers.filter (·.owner = context.controller.id)).map Timer.handle).Nodup :=
    covers.holds.nodup_handles.sublist (List.filter_sublist.map _)
  have own (timer : Timer)
      (member : timer ∈ docket.timers.filter (·.owner = context.controller.id)) :
      context.controller.pending = some timer.handle := by
    obtain ⟨held, mine⟩ := List.mem_filter.mp member
    exact covers.own timer held (of_decide_eq_true mine)
  generalize docket.timers.filter (·.owner = context.controller.id) = mine at handles own ⊢
  match mine with
  | [] => exact Nat.zero_le 1
  | [_] => exact Nat.le_refl 1
  | first :: second :: _ =>
      have same : some first.handle = some second.handle :=
        (own first List.mem_cons_self).symm.trans
          (own second (List.mem_cons_of_mem _ List.mem_cons_self))
      rw [List.map_cons, List.map_cons, Option.some.inj same] at handles
      exact absurd List.mem_cons_self (List.nodup_cons.mp handles).1

theorem of_same (covers : context.Covers issued docket)
    (id : later.controller.id = context.controller.id)
    (scheduler : later.controller.scheduler = context.controller.scheduler)
    (timers : later.timers = context.timers) : later.Covers issued docket := by
  have pending : later.controller.pending = context.controller.pending :=
    congrArg Scheduler.pending scheduler
  refine ⟨?_, ?_, ?_, ?_, ?_⟩
  · rw [timers]
    exact covers.clock
  · rw [timers]
    exact covers.holds
  · rw [id, pending]
    exact covers.own
  · rw [id, pending]
    exact covers.sole
  · rw [pending]
    exact covers.known

theorem cancel (covers : context.Covers issued docket)
    (given : context.cancel.Gives later journal) :
    later.Covers issued (docket.read journal) ∧ journal.countP Entry.isArming = 0 ∧
      (docket.read journal).timers = docket.others context.controller.id := by
  obtain ⟨rfl, rfl⟩ := gives_cancel.mp given
  have silent := context.controller.scheduler.silent_disarmings context.timers
  have struck : docket.read (context.controller.scheduler.disarmings context.timers ++
      if context.controller.scheduler.isPending then [.withdrawn context.controller.id]
      else []) = { docket with timers := docket.others context.controller.id } := by
    rw [Docket.read_append, Docket.read_silent silent]
    cases pending : context.controller.scheduler.isPending with
    | true => rfl
    | false =>
        rw [covers.others_eq (pending_of_idle pending)]
        rfl
  refine ⟨?_, ?_, congrArg Docket.timers struck⟩
  · rw [struck]
    exact
      { clock := (clock_release context).trans covers.clock
        holds := covers.release
        own := fun timer member mine => absurd mine (Docket.mem_others.mp member).2
        sole := nofun
        known := nofun }
  · rw [List.countP_append, armings_silent silent]
    split <;> rfl

theorem schedule {delay : Span} (covers : context.Covers issued docket)
    (given : (context.schedule delay).Gives later journal)
    (room : issued + journal.countP Entry.isArming ≤ 2 ^ 32 - 1) :
    later.Covers (issued + journal.countP Entry.isArming) (docket.read journal) ∧
      ∃ timer, (docket.read journal).timers = docket.others context.controller.id ++ [timer] ∧
        later.controller.pending = some timer.handle ∧ timer.handle.index = issued := by
  obtain ⟨timer, timers, armed, rfl, rfl⟩ := gives_schedule.mp given
  have silent := context.controller.scheduler.silent_disarmings context.timers
  have one : (context.controller.scheduler.disarmings context.timers ++
      [Entry.armed timer, .scheduled context.controller.id timer.handle delay]).countP
        Entry.isArming = 1 := by
    rw [List.countP_append, armings_silent silent]
    rfl
  rw [one] at room ⊢
  obtain ⟨moved, next, owner, _⟩ := TimerQueue.arm_eq_ok.mp armed
  have fresh : timer.handle.index = issued := by
    rw [next]
    exact covers.release.nextIssued (by omega)
  rw [TimerQueue.now, clock_release] at moved
  have line : timer = ⟨timer.handle, context.controller.id, docket.clock.tickAfter delay⟩ := by
    rw [← covers.clock]
    exact Timer.ext rfl owner (Tick.eq_later_of_offset moved)
  rw [Docket.read_append, Docket.read_silent silent]
  change Covers _ _
      { docket with
        timers := docket.others context.controller.id ++
          [⟨timer.handle, context.controller.id, docket.clock.tickAfter delay⟩] } ∧
    ∃ held, docket.others context.controller.id ++
        [⟨timer.handle, context.controller.id, docket.clock.tickAfter delay⟩] =
          docket.others context.controller.id ++ [held] ∧
      some timer.handle = some held.handle ∧ held.handle.index = issued
  rw [← line]
  refine ⟨?_, timer, rfl, rfl, fresh⟩
  refine
    { clock := (TimerQueue.clock_of_arm armed).trans ((clock_release context).trans covers.clock)
      holds := covers.release.arm (by omega) armed
      own := ?_
      sole := ?_
      known := ?_ }
  · intro held member mine
    rcases List.mem_append.mp member with other | last
    · exact absurd mine (Docket.mem_others.mp other).2
    · rw [List.mem_singleton.mp last]
      rfl
  · intro held member filled
    have sameHandle : held.handle = timer.handle := (Option.some.inj filled).symm
    rcases List.mem_append.mp member with other | last
    · have before := covers.release.issuedBefore held other
      rw [sameHandle, fresh] at before
      exact absurd before (Nat.lt_irrefl _)
    · rw [List.mem_singleton.mp last]
      exact owner
  · intro handle filled
    rw [← Option.some.inj filled, fresh]
    exact Nat.lt_succ_self issued

/-- Whatever course an agent's code takes, the queue has nothing of the agent but the timer in its
slot, and what comes into the slot or into the queue is new. -/
theorem course (covers : context.Covers issued docket) (taken : Course context later journal)
    (room : issued + journal.countP Entry.isArming ≤ 2 ^ 32 - 1) :
    later.Covers (issued + journal.countP Entry.isArming) (docket.read journal) ∧
      (∀ handle, later.controller.pending = some handle →
        context.controller.pending = some handle ∨ issued ≤ handle.index) ∧
      ∀ timer ∈ (docket.read journal).timers,
        timer ∈ docket.timers ∨ issued ≤ timer.handle.index := by
  induction taken generalizing issued docket with
  | aside context mind tree surface silent =>
      rw [armings_silent silent, Docket.read_silent silent]
      exact ⟨covers.of_same rfl rfl rfl, fun handle filled => .inl filled,
        fun timer member => .inl member⟩
  | cancel given =>
      obtain ⟨kept, none, struck⟩ := covers.cancel given
      refine ⟨by rwa [none], ?_, ?_⟩
      · rw [(gives_cancel.mp given).1]
        exact nofun
      · intro timer member
        rw [struck] at member
        exact .inl (Docket.mem_others.mp member).1
  | schedule given =>
      obtain ⟨kept, timer, lines, filled, fresh⟩ := covers.schedule given room
      refine ⟨kept, ?_, ?_⟩
      · intro handle held
        rw [filled] at held
        rw [← Option.some.inj held]
        exact .inr (Nat.le_of_eq fresh.symm)
      · intro held member
        rw [lines] at member
        rcases List.mem_append.mp member with other | last
        · exact .inl (Docket.mem_others.mp other).1
        · rw [List.mem_singleton.mp last]
          exact .inr (Nat.le_of_eq fresh.symm)
  | @trans _ _ _ first second before after ihBefore ihAfter =>
      rw [List.countP_append] at room ⊢
      obtain ⟨kept, slotBefore, queueBefore⟩ := ihBefore covers (by omega)
      obtain ⟨laterKept, slotAfter, queueAfter⟩ := ihAfter kept (by omega)
      rw [Docket.read_append, ← Nat.add_assoc]
      refine ⟨laterKept, ?_, ?_⟩
      · intro handle filled
        rcases slotAfter handle filled with held | new
        · exact slotBefore handle held
        · exact .inr (by omega)
      · intro timer member
        rcases queueAfter timer member with held | new
        · exact queueBefore timer held
        · exact .inr (by omega)

end Covers

end Context

end PriorityAgents
