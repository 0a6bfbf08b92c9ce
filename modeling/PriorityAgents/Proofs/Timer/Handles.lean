import Mathlib.Data.Nat.ModEq
import PriorityAgents.Proofs.Timer.Ledger

/-!
Handles over whole runs of a timer queue, however long.

Handles are given out in turn and there are 2^32 - 1 of them. So a new timer gets the handle of an
armed one exactly when a whole number of rounds of handles has been given out since that one was
armed, and to cancel by a handle is to disarm timers that are whole rounds apart.
-/

set_option autoImplicit false

namespace PriorityAgents

namespace TimerHandle

/-- How many handles there are: all numbers of 32 bits but the one set apart. -/
def supply : Nat := 2 ^ 32 - 1

/-- The handle given out after a number of others. -/
def nth (count : Nat) : TimerHandle :=
  ⟨count % supply, Nat.lt_trans (Nat.mod_lt count (by decide)) (by decide)⟩

theorem next_nth (count : Nat) : (nth count).next = nth (count + 1) := by
  apply TimerHandle.ext
  unfold next
  change (if room : count % supply + 1 < 2 ^ 32 - 1 then _ else first).index =
    (count + 1) % supply
  unfold supply
  split
  · change count % (2 ^ 32 - 1) + 1 = _
    omega
  · change 0 = _
    omega

private theorem nth_ne_invalid (count : Nat) : nth count ≠ invalid := by
  intro same
  have index : count % supply = 2 ^ 32 - 1 := congrArg TimerHandle.index same
  have below : count % supply < supply := Nat.mod_lt count (by decide)
  unfold supply at index below
  omega

theorem nth_eq_iff {left right : Nat} : nth left = nth right ↔ left ≡ right [MOD supply] := by
  constructor
  · intro same
    exact congrArg TimerHandle.index same
  · intro same
    exact TimerHandle.ext same

end TimerHandle

namespace TimerQueue

open TimerHandle (supply nth)

variable {first queue later : TimerQueue} {history : List TimerOperation}
  {operation : TimerOperation} {answer : TimerAnswer} {owner : AgentId} {delay : Span}
  {timer held : Timer} {handle : TimerHandle} {tick : Tick} {number : Nat}

/-! ### Which timers are armed -/

/-- The timers kept under a tick. -/
def shelf (queue : TimerQueue) (tick : Tick) : List Timer := queue.buckets[tick]?.getD []

def Shelved (queue : TimerQueue) : Prop := ∀ tick, ∀ timer ∈ queue.shelf tick, timer.due = tick

theorem mem_timers : timer ∈ queue.timers ↔ ∃ tick, timer ∈ queue.shelf tick := by
  unfold timers shelf
  simp only [List.mem_flatMap, Prod.exists, Std.ExtTreeMap.mem_toList_iff_getElem?_eq_some]
  constructor
  · intro given
    obtain ⟨tick, bucket, found, member⟩ := given
    exact ⟨tick, by rwa [found]⟩
  · intro given
    obtain ⟨tick, member⟩ := given
    cases found : queue.buckets[tick]? with
    | none =>
        rw [found] at member
        exact absurd member List.not_mem_nil
    | some bucket =>
        rw [found] at member
        exact ⟨tick, bucket, found, member⟩

theorem shelf_of_arm (armed : queue.arm owner delay = .ok (timer, later)) (tick : Tick) :
    later.shelf tick = queue.shelf tick ++ if timer.due = tick then [timer] else [] := by
  obtain ⟨_, _, _, rfl⟩ := arm_eq_ok.mp armed
  change (queue.buckets.alter timer.due _)[tick]?.getD [] = _
  rw [Std.ExtTreeMap.getElem?_alter]
  simp only [Std.compare_eq_iff_eq]
  by_cases due : timer.due = tick
  · rw [if_pos due, if_pos due, due]
    rfl
  · rw [if_neg due, if_neg due, List.append_nil]
    rfl

theorem shelf_disarm (queue : TimerQueue) (handle : TimerHandle) (tick : Tick) :
    (queue.disarm handle).shelf tick =
      (queue.shelf tick).filter fun timer =>
        ¬(timer.handle = handle ∧ queue.dueTick? handle = some tick) := by
  unfold dueTick? disarm
  cases known : queue.live[handle]? with
  | none => simp
  | some due =>
      change (queue.buckets.alter due (·.bind (withoutHandle handle)))[tick]?.getD [] = _
      rw [Std.ExtTreeMap.getElem?_alter]
      simp only [Std.compare_eq_iff_eq]
      by_cases same : due = tick
      · subst same
        rw [if_pos rfl]
        unfold shelf
        cases queue.buckets[due]? with
        | none => rfl
        | some bucket =>
            simp only [Option.bind_some, Option.getD_some, withoutHandle, and_true]
            split
            · rename_i empty
              exact (List.isEmpty_iff.mp empty).symm
            · rfl
      · simp [same, shelf]

theorem shelf_of_drain {fired : List Timer} (drained : queue.drain tick = .ok (fired, later))
    (due : Tick) : later.shelf due = if due ≤ tick then [] else queue.shelf due := by
  obtain ⟨_, rfl, rfl⟩ := drain_eq_ok.mp drained
  change (queue.buckets.filter _)[due]?.getD [] = _
  rw [Std.ExtTreeMap.getElem?_filter']
  unfold shelf
  cases queue.buckets[due]? with
  | none =>
      split
      · rfl
      · rfl
  | some bucket => by_cases before : due ≤ tick <;> simp [Option.filter, before]

theorem mem_timers_of_arm (armed : queue.arm owner delay = .ok (timer, later)) :
    held ∈ later.timers ↔ held ∈ queue.timers ∨ held = timer := by
  simp only [mem_timers, shelf_of_arm armed, List.mem_append]
  constructor
  · intro given
    obtain ⟨tick, before | new⟩ := given
    · exact .inl ⟨tick, before⟩
    · by_cases due : timer.due = tick
      · rw [if_pos due] at new
        exact .inr (List.mem_singleton.mp new)
      · rw [if_neg due] at new
        exact absurd new List.not_mem_nil
  · intro given
    rcases given with ⟨tick, before⟩ | rfl
    · exact ⟨tick, .inl before⟩
    · exact ⟨held.due, .inr (by rw [if_pos rfl]; exact List.mem_cons_self)⟩

theorem mem_timers_disarm (shelved : queue.Shelved) (handle : TimerHandle) :
    held ∈ (queue.disarm handle).timers ↔
      held ∈ queue.timers ∧ ¬(held.handle = handle ∧ queue.dueTick? handle = some held.due) := by
  simp only [mem_timers, shelf_disarm, List.mem_filter, decide_eq_true_eq]
  constructor
  · intro given
    obtain ⟨tick, member, kept⟩ := given
    rw [shelved tick held member]
    exact ⟨⟨tick, member⟩, kept⟩
  · intro given
    obtain ⟨⟨tick, member⟩, kept⟩ := given
    rw [shelved tick held member] at kept
    exact ⟨tick, member, kept⟩

/-! ### One operation -/

theorem of_perform (performed : keeper.perform queue operation = .ok (answer, later)) :
    (∃ owner delay timer, operation = .create owner delay ∧
        queue.arm owner delay = .ok (timer, later) ∧ answer = .created timer.handle) ∨
      (∃ handle, operation = .cancel handle ∧ later = queue.disarm handle) ∨
      (∃ tick, operation = .advanceTo tick ∧ later = queue.advanceTo tick) ∨
      (∃ tick fired, operation = .drain tick ∧ queue.drain tick = .ok (fired, later)) := by
  cases operation with
  | create owner delay =>
      simp only [keeper, outcome_create] at performed
      cases armed : queue.arm owner delay with
      | error fault =>
          rw [armed] at performed
          cases performed
      | ok reached =>
          rw [armed] at performed
          cases performed
          exact .inl ⟨owner, delay, reached.1, rfl, armed, rfl⟩
  | cancel handle =>
      simp only [keeper, outcome_cancel] at performed
      cases performed
      exact .inr (.inl ⟨handle, rfl, rfl⟩)
  | advanceTo tick =>
      cases performed
      exact .inr (.inr (.inl ⟨tick, rfl, rfl⟩))
  | drain tick =>
      simp only [keeper] at performed
      cases drained : queue.drain tick with
      | error fault =>
          rw [drained] at performed
          cases performed
      | ok reached =>
          rw [drained] at performed
          cases performed
          exact .inr (.inr (.inr ⟨tick, reached.1, rfl, drained⟩))

theorem perform_create (armed : queue.arm owner delay = .ok (timer, later)) :
    keeper.perform queue (.create owner delay) = .ok (.created timer.handle, later) := by
  simp only [keeper, outcome_create, armed]
  rfl

theorem perform_cancel (queue : TimerQueue) (handle : TimerHandle) :
    keeper.perform queue (.cancel handle) = .ok (.done, queue.disarm handle) := by
  simp only [keeper, outcome_cancel]
  rfl

theorem perform_drain {fired : List Timer} (drained : queue.drain tick = .ok (fired, later)) :
    keeper.perform queue (.drain tick) = .ok (.drained fired, later) := by
  simp only [keeper, drained]
  rfl

private theorem arm_of_perform
    (created : keeper.perform queue (.create owner delay) = .ok (answer, later)) :
    ∃ timer, queue.arm owner delay = .ok (timer, later) ∧ answer = .created timer.handle := by
  rcases of_perform created with ⟨_, _, timer, same, armed, answered⟩ | ⟨_, other, _⟩ |
    ⟨_, other, _⟩ | ⟨_, _, other, _⟩
  · cases same
    exact ⟨timer, armed, answered⟩
  all_goals cases other

private theorem nextHandle_of_perform
    (performed : keeper.perform queue operation = .ok (answer, later)) :
    later.nextHandle =
      if operation.isCreate then queue.nextHandle.next else queue.nextHandle := by
  rcases of_perform performed with ⟨_, _, timer, rfl, armed, _⟩ | ⟨handle, rfl, rfl⟩ |
    ⟨tick, rfl, rfl⟩ | ⟨tick, fired, rfl, drained⟩
  · obtain ⟨_, handle, _, rfl⟩ := arm_eq_ok.mp armed
    exact congrArg TimerHandle.next handle
  · change (queue.disarm handle).nextHandle = queue.nextHandle
    unfold disarm
    split <;> rfl
  · rfl
  · obtain ⟨_, rfl, rfl⟩ := drain_eq_ok.mp drained
    rfl

theorem shelved_of_perform (shelved : queue.Shelved)
    (performed : keeper.perform queue operation = .ok (answer, later)) : later.Shelved := by
  intro tick held member
  rcases of_perform performed with ⟨_, _, timer, _, armed, _⟩ | ⟨handle, _, rfl⟩ |
    ⟨_, _, rfl⟩ | ⟨_, _, _, drained⟩
  · rw [shelf_of_arm armed, List.mem_append] at member
    rcases member with before | new
    · exact shelved tick held before
    · by_cases due : timer.due = tick
      · rw [if_pos due, List.mem_singleton] at new
        rwa [new]
      · rw [if_neg due] at new
        exact absurd new List.not_mem_nil
  · rw [shelf_disarm] at member
    exact shelved tick held (List.mem_of_mem_filter member)
  · exact shelved tick held member
  · rw [shelf_of_drain drained] at member
    split at member
    · exact absurd member List.not_mem_nil
    · exact shelved tick held member

private theorem armed_before_perform
    (performed : keeper.perform queue operation = .ok (answer, later))
    (member : held ∈ later.timers) :
    held ∈ queue.timers ∨ ∃ delay, operation = .create held.owner delay ∧
      queue.arm held.owner delay = .ok (held, later) := by
  rcases of_perform performed with ⟨_, delay, timer, same, armed, _⟩ | ⟨handle, _, rfl⟩ |
    ⟨_, _, rfl⟩ | ⟨_, _, _, drained⟩
  · rcases (mem_timers_of_arm armed).mp member with before | rfl
    · exact .inl before
    · obtain ⟨_, _, rfl, _⟩ := arm_eq_ok.mp armed
      exact .inr ⟨delay, same, armed⟩
  · obtain ⟨tick, shelf⟩ := mem_timers.mp member
    rw [shelf_disarm] at shelf
    exact .inl (mem_timers.mpr ⟨tick, List.mem_of_mem_filter shelf⟩)
  · exact .inl member
  · obtain ⟨due, shelf⟩ := mem_timers.mp member
    rw [shelf_of_drain drained] at shelf
    split at shelf
    · exact absurd shelf List.not_mem_nil
    · exact .inl (mem_timers.mpr ⟨due, shelf⟩)

/-! ### Many operations -/

def performAll (queue : TimerQueue) : List TimerOperation → Except Fault TimerQueue
  | [] => .ok queue
  | operation :: operations => do
      let reached ← keeper.perform queue operation
      reached.2.performAll operations

theorem performAll_cons {operations : List TimerOperation} :
    queue.performAll (operation :: operations) = .ok later ↔
      ∃ answer next, keeper.perform queue operation = .ok (answer, next) ∧
        next.performAll operations = .ok later := by
  rw [performAll]
  cases keeper.perform queue operation with
  | error fault => simp [bind, Except.bind]
  | ok reached => simp [bind, Except.bind, Prod.ext_iff]

theorem performAll_append {earlier further : List TimerOperation} :
    queue.performAll (earlier ++ further) = .ok later ↔
      ∃ between, queue.performAll earlier = .ok between ∧
        between.performAll further = .ok later := by
  induction earlier generalizing queue with
  | nil => simp [performAll]
  | cons operation rest ih =>
      simp only [List.cons_append, performAll_cons, ih]
      constructor
      · intro given
        obtain ⟨answer, next, performed, between, before, after⟩ := given
        exact ⟨between, ⟨answer, next, performed, before⟩, after⟩
      · intro given
        obtain ⟨between, ⟨answer, next, performed, before⟩, after⟩ := given
        exact ⟨answer, next, performed, between, before, after⟩

theorem performAll_snoc {operations : List TimerOperation} {between : TimerQueue}
    (reached : queue.performAll operations = .ok between)
    (performed : keeper.perform between operation = .ok (answer, later)) :
    queue.performAll (operations ++ [operation]) = .ok later :=
  performAll_append.mpr ⟨between, reached, performAll_cons.mpr ⟨answer, later, performed, rfl⟩⟩

/-- How many timers a history has armed. -/
def creations (history : List TimerOperation) : Nat := history.countP TimerOperation.isCreate

/-- A history has armed a timer, after it had armed a number of others. -/
def Arms (first : TimerQueue) (history : List TimerOperation) (number : Nat) (timer : Timer) :
    Prop :=
  ∃ earlier delay further before after,
    history = earlier ++ .create timer.owner delay :: further ∧ creations earlier = number ∧
      first.performAll earlier = .ok before ∧
        before.arm timer.owner delay = .ok (timer, after)

theorem Arms.append (arms : first.Arms history number timer) (further : List TimerOperation) :
    first.Arms (history ++ further) number timer := by
  obtain ⟨earlier, delay, between, before, after, rfl, count, reached, armed⟩ := arms
  exact ⟨earlier, delay, between ++ further, before, after, by simp, count, reached, armed⟩

private theorem Arms.number_lt (arms : first.Arms history number timer) :
    number < creations history := by
  obtain ⟨earlier, delay, further, _, _, rfl, rfl, _⟩ := arms
  unfold creations
  rw [List.countP_append, List.countP_cons_of_pos rfl]
  omega

/-- What is true of a queue at the end of a history, which may be as long as it likes. -/
structure Numbered (first : TimerQueue) (history : List TimerOperation) (queue : TimerQueue) :
    Prop where
  next : queue.nextHandle = nth (creations history)
  shelved : queue.Shelved
  armed (timer : Timer) : timer ∈ queue.timers → ∃ number, first.Arms history number timer

theorem Numbered.start {tickMillis : UInt32} (started : TimerQueue.start tickMillis = .ok first) :
    first.Numbered [] first := by
  have empty (tick : Tick) : first.shelf tick = [] := by
    unfold shelf
    rw [(Holds.start started).buckets]
    rfl
  refine
    { next := ?_
      shelved := ?_
      armed := ?_ }
  · apply TimerHandle.ext
    exact (Holds.start started).nextIssued (by decide)
  · intro tick timer member
    rw [empty] at member
    exact absurd member List.not_mem_nil
  · intro timer member
    obtain ⟨tick, member⟩ := mem_timers.mp member
    rw [empty] at member
    exact absurd member List.not_mem_nil

private theorem Numbered.perform (numbered : first.Numbered history queue)
    (reached : first.performAll history = .ok queue)
    (performed : keeper.perform queue operation = .ok (answer, later)) :
    first.Numbered (history ++ [operation]) later := by
  refine
    { next := ?_
      shelved := shelved_of_perform numbered.shelved performed
      armed := ?_ }
  · rw [nextHandle_of_perform performed, numbered.next, TimerHandle.next_nth]
    unfold creations
    rw [List.countP_append, List.countP_singleton]
    split <;> rfl
  · intro timer member
    rcases armed_before_perform performed member with before | ⟨delay, rfl, armed⟩
    · obtain ⟨number, arms⟩ := numbered.armed timer before
      exact ⟨number, arms.append [operation]⟩
    · exact ⟨creations history, history, delay, [], queue, later, rfl, rfl, reached, armed⟩

theorem numbered_of_performAll {tickMillis : UInt32}
    (started : TimerQueue.start tickMillis = .ok first)
    (reached : first.performAll history = .ok queue) : first.Numbered history queue := by
  induction history using List.reverseRecOn generalizing queue with
  | nil =>
      cases reached
      exact Numbered.start started
  | append_singleton history operation ih =>
      obtain ⟨before, reached, last⟩ := performAll_append.mp reached
      obtain ⟨answer, next, performed, ended⟩ := performAll_cons.mp last
      cases ended
      exact (ih reached).perform reached performed

/-- A timer has the handle whose turn it was when the timer was armed. -/
theorem Arms.handle_eq {tickMillis : UInt32} (started : TimerQueue.start tickMillis = .ok first)
    (arms : first.Arms history number timer) : timer.handle = nth number := by
  obtain ⟨earlier, delay, further, before, after, _, rfl, reached, armed⟩ := arms
  obtain ⟨_, handle, _, _⟩ := arm_eq_ok.mp armed
  rw [handle]
  exact (numbered_of_performAll started reached).next

/-- After any number of operations, the handle of a new timer is one that a timer can have. The
timers that are armed under it are those armed whole rounds of handles before. To cancel by it at
once disarms the new timer and, of those, the ones due at the same tick; to cancel by it later
disarms nothing but timers whole rounds away. -/
theorem told_apart_within_round {tickMillis : UInt32}
    (started : TimerQueue.start tickMillis = .ok first)
    (reached : first.performAll history = .ok queue)
    (created : keeper.perform queue (.create owner delay) = .ok (.created handle, later)) :
    handle ≠ .invalid ∧
      (∀ held ∈ queue.timers, ∃ number < creations history, first.Arms history number held ∧
        (held.handle = handle ↔ supply ∣ creations history - number)) ∧
      (∀ held, held ∈ (later.disarm handle).timers ↔
        held ∈ queue.timers ∧
          ¬(held.handle = handle ∧ later.dueTick? handle = some held.due)) ∧
      ∀ further last, later.performAll further = .ok last →
        ∀ held ∈ last.timers, held ∉ (last.disarm handle).timers →
          ∃ number, first.Arms (history ++ .create owner delay :: further) number held ∧
            number ≡ creations history [MOD supply] := by
  have numbered := numbered_of_performAll started reached
  obtain ⟨timer, armed, answered⟩ := arm_of_perform created
  obtain ⟨_, handleNext, _, _⟩ := arm_eq_ok.mp armed
  obtain rfl : handle = timer.handle := TimerAnswer.created.inj answered
  have turn : timer.handle = nth (creations history) := handleNext.trans numbered.next
  have numberedLater : first.Numbered (history ++ [.create owner delay]) later :=
    numbered.perform reached created
  refine ⟨?_, ?_, ?_, ?_⟩
  · rw [turn]
    exact TimerHandle.nth_ne_invalid _
  · intro held member
    obtain ⟨number, arms⟩ := numbered.armed held member
    have before := arms.number_lt
    refine ⟨number, before, arms, ?_⟩
    rw [arms.handle_eq started, turn, TimerHandle.nth_eq_iff]
    exact Nat.modEq_iff_dvd' (Nat.le_of_lt before)
  · intro held
    rw [mem_timers_disarm numberedLater.shelved, mem_timers_of_arm armed]
    constructor
    · intro given
      obtain ⟨before | rfl, kept⟩ := given
      · exact ⟨before, kept⟩
      · exact absurd ⟨rfl, by rw [dueTick?_of_arm armed, if_pos rfl]⟩ kept
    · intro given
      exact ⟨.inl given.1, given.2⟩
  · intro further last ran held member gone
    have whole : first.performAll (history ++ .create owner delay :: further) = .ok last :=
      performAll_append.mpr ⟨queue, reached, performAll_cons.mpr ⟨_, later, created, ran⟩⟩
    have numberedLast := numbered_of_performAll started whole
    obtain ⟨number, arms⟩ := numberedLast.armed held member
    have same : held.handle = timer.handle := by
      by_contra different
      exact gone ((mem_timers_disarm numberedLast.shelved _).mpr
        ⟨member, fun both => different both.1⟩)
    refine ⟨number, arms, ?_⟩
    rw [← TimerHandle.nth_eq_iff, ← arms.handle_eq started, same, turn]

/-- Between the arming of a timer for half a second and the next one, a timer is disarmed and
another drained. -/
theorem told_apart_within_round_late_drain :
    let owner : AgentId := ⟨0, by decide⟩
    let history : List TimerOperation :=
      [.create owner (.ofMilliseconds 500 (by decide)), .create owner .zero,
        .create owner .zero, .cancel ⟨1, by decide⟩, .drain ⟨1, by decide⟩]
    ∃ first queue handle later, TimerQueue.start 250 = .ok first ∧
      first.performAll history = .ok queue ∧ queue.timers.length = 1 ∧
      keeper.perform queue (.create owner .zero) = .ok (.created handle, later) ∧
      ∀ held ∈ queue.timers, ∃ number < creations history, first.Arms history number held ∧
        (held.handle = handle ↔ supply ∣ creations history - number) := by
  intro owner history
  obtain ⟨first, started, facts⟩ : ∃ first, TimerQueue.start 250 = .ok first ∧
      ((first.performAll history).toOption.any fun queue =>
        queue.timers.length = 1 &&
          (queue.arm owner .zero).toOption.any fun _ => true) = true :=
    exists_ok (by decide +kernel)
  obtain ⟨queue, reached, facts⟩ := exists_ok facts
  obtain ⟨one, room⟩ := (Bool.and_eq_true _ _).mp facts
  obtain ⟨⟨timer, later⟩, armed, _⟩ := exists_ok room
  have created := perform_create armed
  exact ⟨first, queue, timer.handle, later, started, reached, of_decide_eq_true one, created,
    (told_apart_within_round started reached created).2.1⟩

/-! ### A whole round -/

def churn (owner : AgentId) : Nat → List TimerOperation
  | 0 => []
  | count + 1 => churn owner count ++ [.create owner .zero, .cancel (nth (count + 1))]

private theorem creations_churn (owner : AgentId) (count : Nat) :
    creations (churn owner count) = count := by
  induction count with
  | zero => rfl
  | succ count ih =>
      unfold creations at ih ⊢
      rw [churn, List.countP_append, ih]
      rfl

theorem now_of_start {tickMillis : UInt32} (started : TimerQueue.start tickMillis = .ok queue) :
    queue.now = .zero := by
  unfold TimerQueue.start Clock.start at started
  split at started
  · rename_i clock begun
    split at begun
    · cases begun
      cases started
      rfl
    · cases begun
  · cases started

theorem arm_at_beginning (beginning : queue.now = .zero) (owner : AgentId) :
    ∃ timer later, queue.arm owner .zero = .ok (timer, later) ∧ timer.due.index = 1 ∧
      later.now = .zero := by
  have positive : 0 < queue.clock.tickNanoseconds := Nat.mul_pos queue.clock.positive (by decide)
  have none : queue.clock.ticksFor .zero = 0 := by
    unfold Clock.ticksFor
    change min ((0 + queue.clock.tickNanoseconds - 1) / queue.clock.tickNanoseconds) _ = 0
    rw [Nat.div_eq_of_lt (by omega), Nat.zero_min]
  have due : queue.now.offset (max 1 (queue.clock.ticksFor .zero)) = .ok ⟨1, by decide⟩ := by
    rw [none, beginning]
    rfl
  let timer : Timer := ⟨queue.nextHandle, owner, ⟨1, by decide⟩⟩
  have armed : queue.arm owner .zero = .ok (timer, _) := arm_eq_ok.mpr ⟨due, rfl, rfl, rfl⟩
  exact ⟨timer, _, armed, rfl, beginning⟩

/-- The first timer is neither disarmed nor drained while others come and go. -/
theorem first_stays_armed {tickMillis : UInt32}
    (started : TimerQueue.start tickMillis = .ok first) (owner other : AgentId) (count : Nat)
    (short : count < supply) :
    ∃ queue, first.performAll (.create owner .zero :: churn other count) = .ok queue ∧
      queue.now = .zero ∧
        ∃ held ∈ queue.timers, held.owner = owner ∧ held.handle = nth 0 ∧ held.due.index = 1 := by
  induction count with
  | zero =>
      obtain ⟨timer, later, armed, due, still⟩ :=
        arm_at_beginning (now_of_start started) owner
      obtain ⟨_, handle, sameOwner, _⟩ := arm_eq_ok.mp armed
      refine ⟨later, performAll_cons.mpr ⟨_, later, perform_create armed, rfl⟩, still, timer,
        (mem_timers_of_arm armed).mpr (.inr rfl), sameOwner, ?_, due⟩
      exact handle.trans (Numbered.start started).next
  | succ count ih =>
      obtain ⟨before, reached, still, held, member, sameOwner, handle, due⟩ := ih (by omega)
      obtain ⟨timer, between, armed, _, stillBetween⟩ := arm_at_beginning still other
      have numbered := (numbered_of_performAll started reached).perform reached
        (perform_create armed)
      have further : before.performAll [.create other .zero, .cancel (nth (count + 1))] =
          .ok (between.disarm (nth (count + 1))) :=
        performAll_cons.mpr ⟨_, between, perform_create armed,
          performAll_cons.mpr ⟨_, _, perform_cancel between _, rfl⟩⟩
      have stays : held ∈ (between.disarm (nth (count + 1))).timers := by
        refine (mem_timers_disarm numbered.shelved _).mpr
          ⟨(mem_timers_of_arm armed).mpr (.inl member), fun both => ?_⟩
        have same : 0 % supply = (count + 1) % supply :=
          TimerHandle.nth_eq_iff.mp (handle.symm.trans both.1)
        rw [Nat.mod_eq_of_lt short] at same
        cases same
      refine ⟨_, ?_, ?_, held, stays, sameOwner, handle, due⟩
      · rw [churn, ← List.cons_append]
        exact performAll_append.mpr ⟨before, reached, further⟩
      · unfold now
        rw [clock_disarm]
        exact stillBetween

/-- A timer that stays armed while all other handles are given out and called off shares its handle
with the next one, and goes when that one is called off. -/
theorem handle_of_armed_after_round :
    let owner : AgentId := ⟨0, by decide⟩
    let other : AgentId := ⟨1, by decide⟩
    let history : List TimerOperation := .create owner .zero :: churn other (supply - 1)
    ∃ first queue handle later, TimerQueue.start 1 = .ok first ∧
      first.performAll history = .ok queue ∧
      keeper.perform queue (.create other .zero) = .ok (.created handle, later) ∧
      ∃ held ∈ queue.timers, held.owner = owner ∧ held.handle = handle ∧
        held ∉ (later.disarm handle).timers := by
  intro owner other history
  obtain ⟨first, started⟩ : ∃ first, TimerQueue.start 1 = .ok first := ⟨_, rfl⟩
  obtain ⟨queue, reached, still, held, member, sameOwner, handle, due⟩ :=
    first_stays_armed started owner other (supply - 1) (by decide)
  obtain ⟨timer, later, armed, laterDue, _⟩ := arm_at_beginning still other
  have numbered := numbered_of_performAll started reached
  have count : creations history = supply := by
    have rest := creations_churn other (supply - 1)
    unfold creations at rest ⊢
    rw [List.countP_cons_of_pos rfl, rest]
    rfl
  have sameHandle : held.handle = timer.handle := by
    obtain ⟨_, next, _, _⟩ := arm_eq_ok.mp armed
    rw [handle, next, numbered.next, count, TimerHandle.nth_eq_iff]
    exact (Nat.mod_self supply).symm
  have sameDue : later.dueTick? timer.handle = some held.due := by
    rw [dueTick?_of_arm armed, if_pos rfl]
    exact congrArg some (Tick.ext (laterDue.trans due.symm))
  have shelved := shelved_of_perform numbered.shelved (perform_create armed)
  refine ⟨first, queue, timer.handle, later, started, reached, perform_create armed, held, member,
    sameOwner, sameHandle, ?_⟩
  intro kept
  exact ((mem_timers_disarm shelved _).mp kept).2 ⟨sameHandle, sameDue⟩

end TimerQueue

end PriorityAgents
