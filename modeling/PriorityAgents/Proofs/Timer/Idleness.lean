import PriorityAgents.Proofs.Timer.Handles

/-!
Timers in an idle tick: to drain a tick by which nothing is due is to move on to it.

Buckets are kept under the ticks at which their timers are due, and there is a bucket only where
there is a timer. However many timers have been armed, a queue stays like that, so no bucket with a
timer that is overdue, and none that is empty, is cut off when nothing is due.
-/

set_option autoImplicit false

namespace PriorityAgents.TimerQueue

variable {first queue later : TimerQueue} {history : List TimerOperation}
  {operation : TimerOperation} {answer : TimerAnswer} {tick : Tick} {tickMillis : UInt32}

/-- Every timer is kept under the tick at which it is due, and a tick under which nothing is kept
has no bucket. -/
structure Tidy (queue : TimerQueue) : Prop where
  shelved : queue.Shelved
  filled (tick : Tick) : queue.buckets[tick]? ≠ some []

namespace Tidy

theorem start (started : TimerQueue.start tickMillis = .ok queue) : queue.Tidy where
  shelved := (Numbered.start started).shelved
  filled tick := by
    rw [(Holds.start started).buckets]
    exact (Option.some_ne_none []).symm

theorem advanceTo (tidy : queue.Tidy) (tick : Tick) : (queue.advanceTo tick).Tidy :=
  ⟨tidy.shelved, tidy.filled⟩

theorem perform (tidy : queue.Tidy)
    (performed : keeper.perform queue operation = .ok (answer, later)) : later.Tidy := by
  refine ⟨shelved_of_perform tidy.shelved performed, fun tick => ?_⟩
  rcases of_perform performed with ⟨_, _, timer, _, armed, _⟩ | ⟨handle, _, rfl⟩ |
    ⟨_, _, rfl⟩ | ⟨_, _, _, drained⟩
  · obtain ⟨_, _, _, rfl⟩ := arm_eq_ok.mp armed
    change (queue.buckets.alter timer.due _)[tick]? ≠ _
    rw [Std.ExtTreeMap.getElem?_alter]
    split
    · simp
    · exact tidy.filled tick
  · unfold disarm
    split
    · exact tidy.filled tick
    · rename_i due _
      change (queue.buckets.alter due _)[tick]? ≠ _
      rw [Std.ExtTreeMap.getElem?_alter]
      split
      · -- A bucket that has lost its last timer is given up.
        cases queue.buckets[due]? with
        | none => exact (Option.some_ne_none []).symm
        | some bucket =>
            rw [Option.bind_some, withoutHandle]
            split
            · exact (Option.some_ne_none []).symm
            · rename_i kept
              intro empty
              exact kept (List.isEmpty_iff.mpr (Option.some.inj empty))
      · exact tidy.filled tick
  · exact tidy.filled tick
  · obtain ⟨_, rfl, rfl⟩ := drain_eq_ok.mp drained
    change (queue.buckets.filter _)[tick]? ≠ _
    rw [Std.ExtTreeMap.getElem?_filter']
    intro found
    exact tidy.filled tick (Option.filter_eq_some_iff.mp found).1

theorem performAll (tidy : queue.Tidy) (reached : queue.performAll history = .ok later) :
    later.Tidy := by
  induction history generalizing queue with
  | nil =>
      cases reached
      exact tidy
  | cons operation history ih =>
      obtain ⟨_, next, performed, rest⟩ := performAll_cons.mp reached
      exact ih (tidy.perform performed) rest

private theorem exists_due (tidy : queue.Tidy) {bucket : List Timer}
    (found : queue.buckets[tick]? = some bucket) : ∃ timer ∈ queue.timers, timer.due = tick := by
  obtain ⟨timer, member⟩ : ∃ timer, timer ∈ bucket :=
    List.exists_mem_of_ne_nil bucket fun empty => tidy.filled tick (empty ▸ found)
  have onShelf : timer ∈ queue.shelf tick := by
    unfold shelf
    rw [found]
    exact member
  exact ⟨timer, mem_timers.mpr ⟨tick, onShelf⟩, tidy.shelved tick timer onShelf⟩

theorem drain_of_ahead (tidy : queue.Tidy) (room : tick.index + 1 < 2 ^ 64)
    (ahead : ∀ timer ∈ queue.timers, tick < timer.due) :
    queue.drain tick = .ok ([], queue.advanceTo tick) := by
  have beyond : ∀ due bucket, queue.buckets[due]? = some bucket → ¬due ≤ tick := by
    intro due bucket found passed
    obtain ⟨timer, armed, rfl⟩ := tidy.exists_due found
    exact Nat.not_le_of_lt (ahead timer armed) passed
  have none : queue.dueBy tick = [] := by
    unfold dueBy
    rw [List.flatMap_eq_nil_iff]
    intro entry member
    rw [Std.ExtTreeMap.mem_toList_iff_getElem?_eq_some, Std.ExtTreeMap.getElem?_filter',
      Option.filter_eq_some_iff, decide_eq_true_eq] at member
    exact absurd member.2 (beyond entry.1 entry.2 member.1)
  have all : queue.buckets.filter (fun due _ => !(due ≤ tick)) = queue.buckets := by
    apply Std.ExtTreeMap.ext_getElem?
    intro due
    rw [Std.ExtTreeMap.getElem?_filter']
    cases found : queue.buckets[due]? with
    | none => rfl
    | some bucket => exact Option.filter_some_pos (by simp [beyond due bucket found])
  have same : queue.past tick = queue.advanceTo tick := by
    unfold past
    rw [none, all]
    rfl
  rw [drain_eq_ok, none, same]
  exact ⟨room, rfl, rfl⟩

end Tidy

end PriorityAgents.TimerQueue
