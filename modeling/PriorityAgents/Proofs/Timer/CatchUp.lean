import PriorityAgents.Proofs.Timer.Promptness

/-!
Catching up: to drain tick after tick, some of them long past, is to drain the last of them.

What is taken out comes by its buckets, and buckets stand in the order of their ticks. So a drained
tick cuts off a first part of them, and the ticks after it cut off the parts that follow.
-/

set_option autoImplicit false

namespace PriorityAgents.TimerQueue

variable {queue : TimerQueue} {early late : Tick}

/-- Drain one tick after another, with nothing in between: what each of them gives back. -/
def drainEach (queue : TimerQueue) : List Tick → Except Fault (List (List Timer) × TimerQueue)
  | [] => pure ([], queue)
  | tick :: ticks => do
      let (fired, later) ← queue.drain tick
      let (rounds, last) ← later.drainEach ticks
      pure (fired :: rounds, last)

/-! ### Two ticks -/

private theorem filter_append_filter_not {entries : List (Tick × List Timer)}
    (sorted : entries.Pairwise fun before after => compare before.1 after.1 = .lt) (tick : Tick) :
    entries.filter (·.1 ≤ tick) ++ (entries.filter fun entry => !(entry.1 ≤ tick)) = entries := by
  induction entries with
  | nil => rfl
  | cons entry entries ih =>
      obtain ⟨least, rest⟩ := List.pairwise_cons.mp sorted
      by_cases first : entry.1 ≤ tick
      · simp [first, ih rest]
      · have beyond : ∀ after ∈ entries, ¬after.1 ≤ tick := by
          intro after member
          have before := Nat.compare_eq_lt.mp (least after member)
          rw [Tick.le_def] at first ⊢
          omega
        have none : entries.filter (·.1 ≤ tick) = [] := by
          apply List.filter_eq_nil_iff.mpr
          intro after member
          simp [beyond after member]
        have all : (entries.filter fun entry => !(entry.1 ≤ tick)) = entries := by
          apply List.filter_eq_self.mpr
          intro after member
          simp [beyond after member]
        simp [first, none, all]

private theorem dueBy_append_dueBy_past (queue : TimerQueue) (ordered : early ≤ late) :
    queue.dueBy early ++ (queue.past early).dueBy late = queue.dueBy late := by
  unfold dueBy past
  simp only [Std.ExtTreeMap.toList_filter]
  have sorted := (Std.ExtTreeMap.ordered_keys_toList (t := queue.buckets)).filter (·.1 ≤ late)
  have parts := filter_append_filter_not sorted early
  have first : (queue.buckets.toList.filter (·.1 ≤ late)).filter (·.1 ≤ early) =
      queue.buckets.toList.filter (·.1 ≤ early) := by
    rw [List.filter_filter]
    apply List.filter_congr
    intro entry _
    by_cases passed : entry.1 ≤ early
    · have reached : entry.1 ≤ late := Nat.le_trans passed ordered
      simp [passed, reached]
    · simp [passed]
  rw [first, List.filter_comm] at parts
  rw [← List.flatMap_append, parts]

private theorem past_past (queue : TimerQueue) (ordered : early ≤ late) :
    (queue.past early).past late = queue.past late := by
  have now : (queue.now.latest early).latest late = queue.now.latest late := by
    apply Tick.ext
    simp only [Tick.index_latest]
    rw [Tick.le_def] at ordered
    omega
  have buckets : (queue.past early).buckets.filter (fun due _ => !(due ≤ late)) =
      queue.buckets.filter fun due _ => !(due ≤ late) := by
    apply Std.ExtTreeMap.toList_inj.mp
    unfold past
    simp only [Std.ExtTreeMap.toList_filter, List.filter_filter]
    apply List.filter_congr
    intro entry _
    by_cases passed : entry.1 ≤ early
    · have reached : entry.1 ≤ late := Nat.le_trans passed ordered
      simp [passed, reached]
    · simp [passed]
  have live : ((queue.past early).dueBy late).foldl (fun live timer => live.erase timer.handle)
      (queue.past early).live =
        (queue.dueBy late).foldl (fun live timer => live.erase timer.handle) queue.live := by
    rw [← dueBy_append_dueBy_past queue ordered, List.foldl_append]
    rfl
  change TimerQueue.mk _ _ _ _ = TimerQueue.mk _ _ _ _
  rw [buckets, live]
  change TimerQueue.mk { queue.clock with now := (queue.now.latest early).latest late } _ _ _ = _
  rw [now]
  rfl

/-! ### Many ticks -/

private theorem drain_of_room (queue : TimerQueue) {tick : Tick} (room : tick.index + 1 < 2 ^ 64) :
    queue.drain tick = .ok (queue.dueBy tick, queue.past tick) :=
  drain_eq_ok.mpr ⟨room, rfl, rfl⟩

/-- Ticks that ascend to a last one, drained one after another with nothing in between, give back
one after the other what the last one alone gives back, and leave the same queue. -/
theorem drainEach_eq_drain (queue : TimerQueue) {ticks : List Tick} {last : Tick}
    (ascending : (ticks ++ [last]).Pairwise (· ≤ ·)) (room : last.index < 2 ^ 64 - 1) :
    ∃ rounds later, queue.drainEach (ticks ++ [last]) = .ok (rounds, later) ∧
      queue.drain last = .ok (rounds.flatten, later) := by
  induction ticks generalizing queue with
  | nil =>
      have drained : queue.drain last = .ok (queue.dueBy last, queue.past last) :=
        queue.drain_of_room (by omega)
      refine ⟨[queue.dueBy last], queue.past last, ?_, ?_⟩
      · simp only [List.nil_append, drainEach, drained]
        rfl
      · simpa using drained
  | cons tick ticks ih =>
      obtain ⟨least, rest⟩ := List.pairwise_cons.mp ascending
      have ordered : tick ≤ last := least last (by simp)
      have reached : tick.index + 1 < 2 ^ 64 := by
        rw [Tick.le_def] at ordered
        omega
      obtain ⟨rounds, later, each, alone⟩ := ih (queue.past tick) rest
      obtain ⟨_, flat, rfl⟩ := drain_eq_ok.mp alone
      refine ⟨queue.dueBy tick :: rounds, (queue.past tick).past last, ?_, ?_⟩
      · simp only [List.cons_append, drainEach, drain_of_room queue reached]
        change ((queue.past tick).drainEach (ticks ++ [last]) >>= _) = _
        rw [each]
        rfl
      · rw [List.flatten_cons, flat, dueBy_append_dueBy_past queue ordered,
          past_past queue ordered]
        exact queue.drain_of_room (by omega)

/-- Four timers are armed and the queue is moved on, past the first tick to be drained. -/
theorem drainEach_eq_drain_overdue :
    let owner : AgentId := ⟨0, by decide⟩
    let delays : List Span := [.ofMilliseconds 700 (by decide), .zero,
      .ofMilliseconds 500 (by decide), .ofMilliseconds 600 (by decide)]
    let ticks : List Tick := [⟨1, by decide⟩, ⟨1, by decide⟩, ⟨2, by decide⟩]
    let last : Tick := ⟨5, by decide⟩
    ∃ empty queue rounds later, TimerQueue.start 250 = .ok empty ∧
      delays.foldlM (fun queue delay => Prod.snd <$> arm queue owner delay) empty = .ok queue ∧
      (ticks ++ [last]).Pairwise (· ≤ ·) ∧ last.index < 2 ^ 64 - 1 ∧
      (queue.advanceTo last).drainEach (ticks ++ [last]) = .ok (rounds, later) ∧
      (queue.advanceTo last).drain last = .ok (rounds.flatten, later) ∧
      rounds.map (·.map (·.handle.index)) = [[1], [], [2], [0, 3]] := by
  intro owner delays ticks last
  obtain ⟨empty, started, rest⟩ : ∃ empty, TimerQueue.start 250 = .ok empty ∧
      ((delays.foldlM (fun queue delay => Prod.snd <$> arm queue owner delay)
        empty).toOption.any fun queue =>
          ((queue.advanceTo last).drainEach (ticks ++ [last])).toOption.any fun drained =>
            drained.1.map (·.map (·.handle.index)) = [[1], [], [2], [0, 3]]) = true :=
    exists_ok (by decide +kernel)
  obtain ⟨queue, armed, rest⟩ := exists_ok rest
  obtain ⟨⟨rounds, later⟩, drained, handles⟩ := exists_ok rest
  have ascending : (ticks ++ [last]).Pairwise (· ≤ ·) := by decide
  obtain ⟨_, _, each, alone⟩ :=
    drainEach_eq_drain (queue.advanceTo last) ascending (by decide)
  cases drained.symm.trans each
  exact ⟨empty, queue, rounds, later, started, armed, ascending, by decide, drained, alone,
    of_decide_eq_true handles⟩

end PriorityAgents.TimerQueue
