import Mathlib.Data.List.Dedup
import Mathlib.Data.List.MinMax
import PriorityAgents.Timer.Queue

/-!
What a timer queue holds: a list of timers in the order of arming.

The buckets and the index of a queue are both read off this list, so that each operation of the
queue is an operation on the list. Handles ascend along the list as long as they have not all been
given out once; what is armed after that is outside of these statements.
-/

set_option autoImplicit false

namespace PriorityAgents

/-! ### Timers in the order in which they are due -/

namespace Timer

/-- Timers by the ticks at which they are due; those of one tick stay in order. -/
def inDueOrder (timers : List Timer) : List Timer :=
  timers.mergeSort fun earlier later => earlier.due ≤ later.due

private theorem dueOrder_trans (first second third : Timer)
    (below : decide (first.due ≤ second.due) = true)
    (above : decide (second.due ≤ third.due) = true) : decide (first.due ≤ third.due) = true := by
  simp only [decide_eq_true_eq, Tick.le_def] at below above ⊢
  omega

private theorem dueOrder_total (first second : Timer) :
    (decide (first.due ≤ second.due) || decide (second.due ≤ first.due)) = true := by
  simp only [Bool.or_eq_true, decide_eq_true_eq, Tick.le_def]
  omega

theorem inDueOrder_perm (timers : List Timer) : (inDueOrder timers).Perm timers :=
  List.mergeSort_perm timers _

private theorem inDueOrder_sorted (timers : List Timer) :
    (inDueOrder timers).Pairwise fun earlier later => earlier.due.index ≤ later.due.index := by
  have sorted := List.pairwise_mergeSort dueOrder_trans dueOrder_total timers
  exact sorted.imp fun ordered => of_decide_eq_true ordered

private theorem filter_inDueOrder (timers : List Timer) (tick : Tick) :
    (inDueOrder timers).filter (·.due = tick) = timers.filter (·.due = tick) := by
  have flat : (timers.filter (·.due = tick)).Pairwise
      fun earlier later => decide (earlier.due ≤ later.due) = true := by
    apply List.pairwise_of_forall_mem_list
    intro earlier earlierMember later laterMember
    have earlierDue := (List.mem_filter.mp earlierMember).2
    have laterDue := (List.mem_filter.mp laterMember).2
    simp only [decide_eq_true_eq] at earlierDue laterDue ⊢
    rw [earlierDue, laterDue]
    exact Nat.le_refl tick.index
  have kept : (timers.filter (·.due = tick)).Sublist (inDueOrder timers) :=
    List.sublist_mergeSort dueOrder_trans dueOrder_total flat List.filter_sublist
  have sublist : (timers.filter (·.due = tick)).Sublist
      ((inDueOrder timers).filter (·.due = tick)) := by
    have filtered := kept.filter (·.due = tick)
    simpa only [List.filter_filter, Bool.and_self] using filtered
  exact (sublist.eq_of_length ((inDueOrder_perm timers).filter _).length_eq.symm).symm

theorem inDueOrder_of_due {timers : List Timer} {tick : Tick}
    (due : ∀ timer ∈ timers, timer.due = tick) : inDueOrder timers = timers := by
  have all : timers.filter (·.due = tick) = timers :=
    List.filter_eq_self.mpr fun timer member => by simpa using due timer member
  have allSorted : (inDueOrder timers).filter (·.due = tick) = inDueOrder timers :=
    List.filter_eq_self.mpr fun timer member => by
      simpa using due timer ((inDueOrder_perm timers).mem_iff.mp member)
  rw [← allSorted, filter_inDueOrder, all]

private theorem eq_of_sorted {left right : List Timer}
    (leftSorted : left.Pairwise fun earlier later => earlier.due.index ≤ later.due.index)
    (rightSorted : right.Pairwise fun earlier later => earlier.due.index ≤ later.due.index)
    (same : ∀ tick, left.filter (·.due = tick) = right.filter (·.due = tick)) : left = right := by
  have members (timer : Timer) : timer ∈ left ↔ timer ∈ right := by
    have filtered := congrArg (timer ∈ ·) (same timer.due)
    simpa using filtered
  induction left generalizing right with
  | nil =>
      cases right with
      | nil => rfl
      | cons head tail => exact absurd ((members head).mpr List.mem_cons_self) List.not_mem_nil
  | cons first rest ih =>
      cases right with
      | nil => exact absurd ((members first).mp List.mem_cons_self) List.not_mem_nil
      | cons head tail =>
          have firstLeast := (List.pairwise_cons.mp leftSorted).1
          have headLeast := (List.pairwise_cons.mp rightSorted).1
          have sameDue : first.due = head.due := by
            have below : first.due.index ≤ head.due.index := by
              rcases List.mem_cons.mp ((members head).mpr List.mem_cons_self) with rfl | later
              · exact Nat.le_refl _
              · exact firstLeast head later
            have above : head.due.index ≤ first.due.index := by
              rcases List.mem_cons.mp ((members first).mp List.mem_cons_self) with rfl | later
              · exact Nat.le_refl _
              · exact headLeast first later
            exact Tick.ext (Nat.le_antisymm below above)
          have heads := same first.due
          rw [List.filter_cons_of_pos (by simp), List.filter_cons_of_pos (by simp [sameDue])]
            at heads
          obtain ⟨rfl, _⟩ := List.cons.inj heads
          have tails (tick : Tick) :
              rest.filter (·.due = tick) = tail.filter (·.due = tick) := by
            have filtered := same tick
            by_cases due : first.due = tick
            · rw [List.filter_cons_of_pos (by simp [due]),
                List.filter_cons_of_pos (by simp [due])] at filtered
              exact (List.cons.inj filtered).2
            · rwa [List.filter_cons_of_neg (by simp [due]),
                List.filter_cons_of_neg (by simp [due])] at filtered
          rw [ih (List.pairwise_cons.mp leftSorted).2 (List.pairwise_cons.mp rightSorted).2 tails
            fun timer => by
              have filtered := congrArg (timer ∈ ·) (tails timer.due)
              simpa using filtered]

theorem inDueOrder_filter (timers : List Timer) (kept : Timer → Bool) :
    inDueOrder (timers.filter kept) = (inDueOrder timers).filter kept := by
  apply eq_of_sorted
  · exact inDueOrder_sorted _
  · exact (inDueOrder_sorted timers).filter _
  · intro tick
    rw [filter_inDueOrder, List.filter_comm, ← filter_inDueOrder, List.filter_comm]

end Timer

/-! ### What a queue holds -/

namespace TimerQueue

/-- The bucket of the timers of one tick: there is none if there are no timers. -/
def filed (timers : List Timer) : Option (List Timer) :=
  if timers.isEmpty then none else some timers

theorem filed_eq_none {timers : List Timer} : filed timers = none ↔ timers = [] := by
  cases timers <;> simp [filed]

theorem filed_eq_some {timers bucket : List Timer} :
    filed timers = some bucket ↔ timers ≠ [] ∧ timers = bucket := by
  cases timers <;> simp [filed]

@[simp] theorem filed_getD (timers : List Timer) : (filed timers).getD [] = timers := by
  cases timers <;> rfl

theorem filed_append_singleton (timers : List Timer) (timer : Timer) :
    filed (timers ++ [timer]) = some (timers ++ [timer]) := by
  simp [filed]

private theorem filed_bind_withoutHandle (timers : List Timer) (handle : TimerHandle) :
    (filed timers).bind (withoutHandle handle) = filed (timers.filter (·.handle ≠ handle)) := by
  cases timers <;> rfl

private theorem filed_filter (keep : Tick → Bool) (timers : List Timer) (tick : Tick) :
    (filed (timers.filter (·.due = tick))).filter (fun _ => keep tick) =
      filed ((timers.filter (keep ·.due)).filter (·.due = tick)) := by
  have chosen : (timers.filter (keep ·.due)).filter (·.due = tick) =
      if keep tick then timers.filter (·.due = tick) else [] := by
    rw [List.filter_comm]
    split
    · rename_i kept
      rw [List.filter_eq_self]
      intro held member
      have heldDue : held.due = tick := by simpa using (List.mem_filter.mp member).2
      rwa [heldDue]
    · rename_i dropped
      rw [List.filter_eq_nil_iff]
      intro held member
      have heldDue : held.due = tick := by simpa using (List.mem_filter.mp member).2
      rwa [heldDue]
  rw [chosen]
  cases keep tick <;> cases timers.filter (·.due = tick) <;> rfl

theorem getElem?_eraseAll (fired : List Timer) (live : Std.ExtTreeMap TimerHandle Tick)
    (handle : TimerHandle) :
    (fired.foldl (fun live timer => live.erase timer.handle) live)[handle]? =
      if fired.any (·.handle = handle) then none else live[handle]? := by
  induction fired generalizing live with
  | nil => rfl
  | cons timer rest ih =>
      rw [List.foldl_cons, ih, List.any_cons, Std.ExtTreeMap.getElem?_erase]
      simp only [Std.compare_eq_iff_eq]
      by_cases same : timer.handle = handle
      · simp [same]
      · simp [same]

/-- A queue holds timers, in the order of arming, after a number of timers have been armed. -/
structure Holds (queue : TimerQueue) (issued : Nat) (timers : List Timer) : Prop where
  buckets (tick : Tick) : queue.buckets[tick]? = filed (timers.filter (·.due = tick))
  live (handle : TimerHandle) :
    queue.live[handle]? = (timers.find? (·.handle = handle)).map Timer.due
  ascending : timers.Pairwise fun earlier later => earlier.handle.index < later.handle.index
  issuedBefore : ∀ timer ∈ timers, timer.handle.index < issued
  nextIssued : issued < 2 ^ 32 - 1 → queue.nextHandle.index = issued

variable {queue later : TimerQueue} {issued : Nat} {timers : List Timer} {timer : Timer}

/-- An armed timer has the next handle and its owner, and is due at least a tick from now. -/
theorem arm_eq_ok {owner : AgentId} {delay : Span} :
    queue.arm owner delay = .ok (timer, later) ↔
      queue.now.offset (max 1 (queue.clock.ticksFor delay)) = .ok timer.due ∧
        timer.handle = queue.nextHandle ∧ timer.owner = owner ∧
        later =
          { queue with
            buckets := queue.buckets.alter timer.due fun bucket => some (bucket.getD [] ++ [timer])
            live := queue.live.insert timer.handle timer.due
            nextHandle := timer.handle.next } := by
  unfold arm
  cases due : queue.now.offset (max 1 (queue.clock.ticksFor delay)) with
  | error fault => simp [bind, Except.bind]
  | ok tick =>
      simp only [bind, Except.bind, pure, Except.pure, Except.ok.injEq, Prod.mk.injEq]
      constructor
      · intro given
        rcases given with ⟨rfl, rfl⟩
        exact ⟨rfl, rfl, rfl, rfl⟩
      · intro given
        rcases given with ⟨rfl, handle, owner, rfl⟩
        have same : timer = ⟨queue.nextHandle, _, timer.due⟩ := Timer.ext handle owner rfl
        rw [same]
        exact ⟨rfl, rfl⟩

def dueBy (queue : TimerQueue) (tick : Tick) : List Timer :=
  (queue.buckets.filter fun due _ => due ≤ tick).toList.flatMap (·.2)

/-- A queue without the timers due at a tick or before it, moved on to that tick. -/
def past (queue : TimerQueue) (tick : Tick) : TimerQueue :=
  { queue.advanceTo tick with
    buckets := queue.buckets.filter fun due _ => !(due ≤ tick)
    live := (queue.dueBy tick).foldl (fun live timer => live.erase timer.handle) queue.live }

theorem drain_eq_ok {tick : Tick} {fired : List Timer} :
    queue.drain tick = .ok (fired, later) ↔
      tick.index + 1 < 2 ^ 64 ∧ fired = queue.dueBy tick ∧ later = queue.past tick := by
  unfold drain Tick.offset
  by_cases room : tick.index + 1 < 2 ^ 64
  · rw [dif_pos room]
    change Except.ok (queue.dueBy tick, queue.past tick) = Except.ok (fired, later) ↔ _
    rw [Except.ok.injEq, Prod.mk.injEq]
    constructor
    · rintro ⟨rfl, rfl⟩
      exact ⟨room, rfl, rfl⟩
    · rintro ⟨_, rfl, rfl⟩
      exact ⟨rfl, rfl⟩
  · rw [dif_neg room]
    constructor
    · intro impossible
      cases impossible
    · intro given
      exact absurd given.1 room

theorem clock_of_arm {owner : AgentId} {delay : Span}
    (armed : queue.arm owner delay = .ok (timer, later)) : later.clock = queue.clock := by
  obtain ⟨_, _, _, rfl⟩ := arm_eq_ok.mp armed
  rfl

@[simp] theorem clock_disarm (queue : TimerQueue) (handle : TimerHandle) :
    (queue.disarm handle).clock = queue.clock := by
  unfold disarm
  split <;> rfl

namespace Holds

theorem nodup_handles (holds : queue.Holds issued timers) : (timers.map Timer.handle).Nodup := by
  rw [List.Nodup, List.pairwise_map]
  apply holds.ascending.imp
  intro earlier later before same
  rw [same] at before
  exact Nat.lt_irrefl _ before

theorem eq_of_handle (holds : queue.Holds issued timers) {left right : Timer}
    (leftMember : left ∈ timers) (rightMember : right ∈ timers)
    (same : left.handle = right.handle) : left = right :=
  List.inj_on_of_nodup_map holds.nodup_handles leftMember rightMember same

private theorem find?_of_mem (holds : queue.Holds issued timers) (member : timer ∈ timers) :
    timers.find? (·.handle = timer.handle) = some timer := by
  cases found : timers.find? (·.handle = timer.handle) with
  | none =>
      have missed := List.find?_eq_none.mp found timer member
      simp only [decide_true, not_true_eq_false] at missed
  | some other =>
      have sameHandle : other.handle = timer.handle := by simpa using List.find?_some found
      rw [holds.eq_of_handle (List.mem_of_find?_eq_some found) member sameHandle]

private theorem find?_filter (holds : queue.Holds issued timers) (keep : Timer → Bool)
    (handle : TimerHandle) :
    (timers.filter keep).find? (·.handle = handle) =
      (timers.find? (·.handle = handle)).filter keep := by
  cases found : timers.find? (·.handle = handle) with
  | none =>
      rw [Option.filter_none, List.find?_eq_none]
      intro held member
      exact List.find?_eq_none.mp found held (List.mem_of_mem_filter member)
  | some target =>
      have targetHandle : target.handle = handle := by simpa using List.find?_some found
      have targetMember := List.mem_of_find?_eq_some found
      have only {held : Timer} (member : held ∈ timers.filter keep)
          (same : held.handle = handle) : held = target :=
        holds.eq_of_handle (List.mem_of_mem_filter member) targetMember
          (same.trans targetHandle.symm)
      cases kept : keep target with
      | false =>
          rw [Option.filter_some_neg (by simp [kept]), List.find?_eq_none]
          intro held member
          simp only [decide_eq_true_eq]
          intro same
          have heldKept := (List.mem_filter.mp member).2
          rw [only member same, kept] at heldKept
          cases heldKept
      | true =>
          rw [Option.filter_some_pos kept]
          cases again : (timers.filter keep).find? (·.handle = handle) with
          | none =>
              have missed := List.find?_eq_none.mp again target
                (List.mem_filter.mpr ⟨targetMember, kept⟩)
              exact absurd targetHandle (by simpa using missed)
          | some held =>
              rw [only (List.mem_of_find?_eq_some again) (by simpa using List.find?_some again)]

theorem start {tickMillis : UInt32} (started : TimerQueue.start tickMillis = .ok queue) :
    queue.Holds 0 [] := by
  unfold TimerQueue.start at started
  cases begun : Clock.start tickMillis with
  | error cause =>
      rw [begun] at started
      cases started
  | ok clock =>
      rw [begun] at started
      cases started
      exact
        { buckets := fun tick => Std.ExtTreeMap.getElem?_empty
          live := fun handle => Std.ExtTreeMap.getElem?_empty
          ascending := List.Pairwise.nil
          issuedBefore := fun timer member => absurd member List.not_mem_nil
          nextIssued := fun _ => rfl }

theorem advanceTo (holds : queue.Holds issued timers) (tick : Tick) :
    (queue.advanceTo tick).Holds issued timers :=
  ⟨holds.buckets, holds.live, holds.ascending, holds.issuedBefore, holds.nextIssued⟩

theorem of_advanceTo {tick : Tick} (holds : (queue.advanceTo tick).Holds issued timers) :
    queue.Holds issued timers :=
  ⟨holds.buckets, holds.live, holds.ascending, holds.issuedBefore, holds.nextIssued⟩

theorem arm (holds : queue.Holds issued timers) (room : issued < 2 ^ 32 - 1) {owner : AgentId}
    {delay : Span} (armed : queue.arm owner delay = .ok (timer, later)) :
    later.Holds (issued + 1) (timers ++ [timer]) := by
  obtain ⟨_, handle, _, rfl⟩ := arm_eq_ok.mp armed
  have handleIndex : timer.handle.index = issued := by
    rw [handle]
    exact holds.nextIssued room
  refine
    { buckets := ?_
      live := ?_
      ascending := ?_
      issuedBefore := ?_
      nextIssued := ?_ }
  · intro tick
    rw [Std.ExtTreeMap.getElem?_alter, List.filter_append]
    simp only [Std.compare_eq_iff_eq]
    by_cases due : timer.due = tick
    · rw [if_pos due, List.filter_cons_of_pos (by simp [due]), List.filter_nil,
        filed_append_singleton, ← due, holds.buckets, filed_getD]
    · rw [if_neg due, List.filter_cons_of_neg (by simp [due]), List.filter_nil,
        List.append_nil, holds.buckets]
  · intro other
    rw [Std.ExtTreeMap.getElem?_insert, List.find?_append]
    simp only [Std.compare_eq_iff_eq]
    by_cases same : timer.handle = other
    · have absent : timers.find? (·.handle = other) = none := by
        rw [List.find?_eq_none]
        intro held member
        have before := holds.issuedBefore held member
        simp only [decide_eq_true_eq]
        intro impossible
        rw [impossible, ← same] at before
        omega
      rw [if_pos same, absent, Option.none_or, List.find?_cons_of_pos (by simp [same]),
        Option.map_some]
    · rw [if_neg same, List.find?_cons_of_neg (by simp [same]), List.find?_nil,
        Option.or_none, holds.live]
  · rw [List.pairwise_append]
    refine ⟨holds.ascending, List.pairwise_singleton _ _, ?_⟩
    intro earlier member last lastMember
    rw [List.mem_singleton.mp lastMember, handleIndex]
    exact holds.issuedBefore earlier member
  · intro held member
    rcases List.mem_append.mp member with earlier | last
    · exact Nat.lt_succ_of_lt (holds.issuedBefore held earlier)
    · rw [List.mem_singleton.mp last, handleIndex]
      exact Nat.lt_succ_self issued
  · intro further
    change timer.handle.next.index = issued + 1
    unfold TimerHandle.next
    rw [dif_pos (by omega)]
    exact congrArg (· + 1) handleIndex

theorem disarm (holds : queue.Holds issued timers) (handle : TimerHandle) :
    (queue.disarm handle).Holds issued (timers.filter (·.handle ≠ handle)) := by
  unfold TimerQueue.disarm
  rw [holds.live]
  cases found : timers.find? (·.handle = handle) with
  | none =>
      have all : timers.filter (·.handle ≠ handle) = timers := by
        rw [List.filter_eq_self]
        intro held member
        simpa using List.find?_eq_none.mp found held member
      rw [all]
      exact holds
  | some target =>
      simp only [Option.map_some]
      have targetHandle : target.handle = handle := by simpa using List.find?_some found
      have targetMember := List.mem_of_find?_eq_some found
      refine
        { buckets := ?_
          live := ?_
          ascending := holds.ascending.filter _
          issuedBefore := fun held member => holds.issuedBefore held (List.mem_of_mem_filter member)
          nextIssued := holds.nextIssued }
      · intro tick
        rw [Std.ExtTreeMap.getElem?_alter, List.filter_comm]
        simp only [Std.compare_eq_iff_eq]
        by_cases due : target.due = tick
        · rw [if_pos due, holds.buckets, filed_bind_withoutHandle, due]
        · have untouched : (timers.filter (·.due = tick)).filter (·.handle ≠ handle) =
              timers.filter (·.due = tick) := by
            rw [List.filter_eq_self]
            intro held member
            obtain ⟨heldMember, heldDue⟩ := List.mem_filter.mp member
            simp only [decide_eq_true_eq] at heldDue ⊢
            intro same
            have sameTimer :=
              holds.eq_of_handle heldMember targetMember (same.trans targetHandle.symm)
            exact due (sameTimer ▸ heldDue)
          rw [if_neg due, holds.buckets, untouched]
      · intro other
        rw [Std.ExtTreeMap.getElem?_erase, holds.find?_filter, holds.live]
        simp only [Std.compare_eq_iff_eq]
        by_cases same : handle = other
        · subst same
          rw [if_pos rfl, found, Option.filter_some_neg (by simp [targetHandle]), Option.map_none]
        · rw [if_neg same]
          cases sought : timers.find? (·.handle = other) with
          | none => rfl
          | some held =>
              have heldHandle : held.handle = other := by simpa using List.find?_some sought
              rw [Option.filter_some_pos (by simp [heldHandle, Ne.symm same])]

private theorem flatten_buckets {map : Std.ExtTreeMap Tick (List Timer)}
    (buckets : ∀ tick : Tick, map[tick]? = filed (timers.filter (·.due = tick))) :
    map.toList.flatMap (·.2) = Timer.inDueOrder timers := by
  have bucketOf {tick : Tick} {bucket : List Timer} (member : (tick, bucket) ∈ map.toList) :
      timers.filter (·.due = tick) ≠ [] ∧ timers.filter (·.due = tick) = bucket := by
    rw [Std.ExtTreeMap.mem_toList_iff_getElem?_eq_some, buckets] at member
    exact filed_eq_some.mp member
  have dueOf {tick : Tick} {bucket : List Timer} (member : (tick, bucket) ∈ map.toList)
      {held : Timer} (inBucket : held ∈ bucket) : held.due = tick := by
    rw [← (bucketOf member).2] at inBucket
    simpa using (List.mem_filter.mp inBucket).2
  apply Timer.eq_of_sorted
  · rw [List.pairwise_flatMap]
    constructor
    · rintro ⟨tick, bucket⟩ member
      apply List.pairwise_of_forall_mem_list
      intro earlier earlierMember last lastMember
      exact Nat.le_of_eq (by rw [dueOf member earlierMember, dueOf member lastMember])
    · refine (Std.ExtTreeMap.ordered_keys_toList (t := map)).imp_of_mem ?_
      rintro ⟨tick, bucket⟩ ⟨laterTick, laterBucket⟩ member laterMember before
      intro earlier earlierMember last lastMember
      rw [dueOf member earlierMember, dueOf laterMember lastMember]
      exact Nat.le_of_lt (Nat.compare_eq_lt.mp before)
  · exact Timer.inDueOrder_sorted timers
  · intro tick
    rw [Timer.filter_inDueOrder]
    have elsewhere (entries : List (Tick × List Timer)) (part : entries ⊆ map.toList)
        (other : ∀ entry ∈ entries, entry.1 ≠ tick) :
        (entries.flatMap (·.2)).filter (·.due = tick) = [] := by
      rw [List.filter_eq_nil_iff]
      intro held member
      obtain ⟨⟨key, bucket⟩, entryMember, inBucket⟩ := List.mem_flatMap.mp member
      have heldDue := dueOf (part entryMember) inBucket
      simp only [decide_eq_true_eq]
      exact fun same => other _ entryMember (heldDue.symm.trans same)
    cases found : map[tick]? with
    | none =>
        rw [buckets] at found
        rw [filed_eq_none.mp found]
        apply elsewhere _ (List.Subset.refl _)
        rintro ⟨key, bucket⟩ member rfl
        exact (bucketOf member).1 (filed_eq_none.mp found)
    | some bucket =>
        have member := Std.ExtTreeMap.mem_toList_iff_getElem?_eq_some.mpr found
        have bucketAll : bucket.filter (·.due = tick) = bucket := by
          rw [List.filter_eq_self]
          exact fun held inBucket => decide_eq_true (dueOf member inBucket)
        have distinct := Std.ExtTreeMap.distinct_keys_toList (t := map)
        obtain ⟨before, after, split⟩ := List.append_of_mem member
        rw [split, List.pairwise_append, List.pairwise_cons] at distinct
        have beforeNil := elsewhere before (by rw [split]; simp) fun entry inBefore same =>
          distinct.2.2 entry inBefore _ List.mem_cons_self (Std.compare_eq_iff_eq.mpr same)
        have afterNil := elsewhere after (by rw [split]; simp) fun entry inAfter same =>
          distinct.2.1.1 entry inAfter (Std.compare_eq_iff_eq.mpr same.symm)
        rw [split, List.flatMap_append, List.flatMap_cons, List.filter_append, List.filter_append,
          beforeNil, afterNil, bucketAll, List.append_nil, List.nil_append, (bucketOf member).2]

theorem timers_eq (holds : queue.Holds issued timers) :
    queue.timers = Timer.inDueOrder timers :=
  flatten_buckets holds.buckets

theorem mem_timers (holds : queue.Holds issued timers) :
    timer ∈ queue.timers ↔ timer ∈ timers := by
  rw [holds.timers_eq]
  exact (Timer.inDueOrder_perm timers).mem_iff

/-- Draining takes out what is due, in the order in which it is due, and holds the rest. -/
theorem drain (holds : queue.Holds issued timers) {tick : Tick} {fired : List Timer}
    (drained : queue.drain tick = .ok (fired, later)) :
    fired = Timer.inDueOrder (timers.filter (·.due ≤ tick)) ∧
      later.Holds issued (timers.filter (tick < ·.due)) ∧
      later.clock = (queue.advanceTo tick).clock := by
  obtain ⟨_, rfl, rfl⟩ := drain_eq_ok.mp drained
  have firedBuckets (other : Tick) : (queue.buckets.filter fun due _ => due ≤ tick)[other]? =
      filed ((timers.filter (·.due ≤ tick)).filter (·.due = other)) := by
    rw [Std.ExtTreeMap.getElem?_filter', holds.buckets, filed_filter fun due => due ≤ tick]
  have flat : queue.dueBy tick = Timer.inDueOrder (timers.filter (·.due ≤ tick)) :=
    flatten_buckets firedBuckets
  refine ⟨flat, ?_, rfl⟩
  unfold past
  rw [flat]
  have remains : (fun timer : Timer => decide (tick < timer.due)) =
      fun timer => !decide (timer.due ≤ tick) := by
    funext held
    rw [← decide_not, decide_eq_decide, Tick.lt_def, Tick.le_def]
    omega
  refine
    { buckets := ?_
      live := ?_
      ascending := holds.ascending.filter _
      issuedBefore := fun held member => holds.issuedBefore held (List.mem_of_mem_filter member)
      nextIssued := holds.nextIssued }
  · intro other
    rw [Std.ExtTreeMap.getElem?_filter', holds.buckets, remains,
      filed_filter fun due => !decide (due ≤ tick)]
  · intro handle
    have taken : (Timer.inDueOrder (timers.filter (·.due ≤ tick))).any (·.handle = handle) =
        ((timers.find? (·.handle = handle)).filter (·.due ≤ tick)).isSome := by
      rw [(Timer.inDueOrder_perm _).any_eq, ← holds.find?_filter, List.isSome_find?]
    rw [getElem?_eraseAll, holds.find?_filter, remains, taken, holds.live]
    cases timers.find? (·.handle = handle) with
    | none => rfl
    | some held => by_cases due : held.due ≤ tick <;> simp [Option.filter, due]

/-! What a queue tells about itself is told by the list. -/

theorem dueTick?_eq (holds : queue.Holds issued timers) (handle : TimerHandle) :
    queue.dueTick? handle = (timers.find? (·.handle = handle)).map Timer.due :=
  holds.live handle

theorem dueTick?_of_mem (holds : queue.Holds issued timers) (member : timer ∈ timers) :
    queue.dueTick? timer.handle = some timer.due := by
  rw [holds.dueTick?_eq, holds.find?_of_mem member, Option.map_some]

theorem dueTick?_eq_some (holds : queue.Holds issued timers) {handle : TimerHandle} {due : Tick} :
    queue.dueTick? handle = some due ↔
      ∃ timer ∈ timers, timer.handle = handle ∧ timer.due = due := by
  constructor
  · intro known
    rw [holds.dueTick?_eq] at known
    obtain ⟨timer, found, sameDue⟩ := Option.map_eq_some_iff.mp known
    exact ⟨timer, List.mem_of_find?_eq_some found, by simpa using List.find?_some found, sameDue⟩
  · intro given
    rcases given with ⟨timer, member, rfl, rfl⟩
    exact holds.dueTick?_of_mem member

theorem isLive_eq (holds : queue.Holds issued timers) (handle : TimerHandle) :
    queue.isLive handle = timers.any (·.handle = handle) := by
  unfold isLive
  rw [Std.ExtTreeMap.contains_eq_isSome_getElem?, holds.live, Option.isSome_map,
    List.isSome_find?]

theorem size_eq (holds : queue.Holds issued timers) : queue.size = timers.length := by
  have keys : queue.live.keys.Perm (timers.map Timer.handle) := by
    rw [List.perm_ext_iff_of_nodup Std.ExtTreeMap.nodup_keys holds.nodup_handles]
    intro handle
    rw [Std.ExtTreeMap.mem_keys, Std.ExtTreeMap.mem_iff_isSome_getElem?, holds.live,
      Option.isSome_map, List.find?_isSome, List.mem_map]
    simp only [decide_eq_true_eq]
  unfold size
  rw [← Std.ExtTreeMap.length_keys, keys.length_eq, List.length_map]

theorem isEmpty_eq (holds : queue.Holds issued timers) : queue.isEmpty = timers.isEmpty := by
  unfold isEmpty
  rw [Std.ExtTreeMap.isEmpty_eq_size_beq_zero]
  change (queue.size == 0) = _
  rw [holds.size_eq]
  cases timers <;> rfl

theorem mem_buckets (holds : queue.Holds issued timers) (tick : Tick) :
    tick ∈ queue.buckets ↔ tick ∈ timers.map Timer.due := by
  rw [Std.ExtTreeMap.mem_iff_isSome_getElem?, holds.buckets, Option.isSome_iff_ne_none, ne_eq,
    filed_eq_none, List.filter_eq_nil_iff, List.mem_map]
  simp only [decide_eq_true_eq, not_forall, not_not, exists_prop]

theorem tickCount_eq (holds : queue.Holds issued timers) :
    queue.tickCount = (timers.map Timer.due).dedup.length := by
  have keys : queue.buckets.keys.Perm (timers.map Timer.due).dedup := by
    rw [List.perm_ext_iff_of_nodup Std.ExtTreeMap.nodup_keys (List.nodup_dedup _)]
    intro tick
    rw [Std.ExtTreeMap.mem_keys, holds.mem_buckets, List.mem_dedup]
  unfold tickCount
  rw [← Std.ExtTreeMap.length_keys, keys.length_eq]

theorem nextTick?_eq (holds : queue.Holds issued timers) :
    queue.nextTick? = (timers.argmin (·.due.index)).map Timer.due := by
  unfold nextTick?
  cases least : timers.argmin (·.due.index) with
  | none =>
      rw [List.argmin_eq_none] at least
      subst least
      rw [Option.map_none, Std.ExtTreeMap.minKey?_eq_none_iff,
        Std.ExtTreeMap.eq_empty_iff_forall_not_mem]
      intro tick
      rw [holds.mem_buckets]
      exact List.not_mem_nil
  | some first =>
      rw [Option.map_some, Std.ExtTreeMap.minKey?_eq_some_iff_mem_and_forall]
      refine ⟨(holds.mem_buckets _).mpr (List.mem_map_of_mem (List.argmin_mem least)), ?_⟩
      intro tick member
      obtain ⟨held, heldMember, rfl⟩ := List.mem_map.mp ((holds.mem_buckets tick).mp member)
      have below :=
        List.le_of_mem_argmin (f := fun timer : Timer => timer.due.index) heldMember least
      exact Nat.isLE_compare.mpr below

end Holds

end TimerQueue

end PriorityAgents
