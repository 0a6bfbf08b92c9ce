import PriorityAgents.Proofs.Timer.Contents

/-!
Timer queues against a plain list of timers.

A ledger keeps its timers in one list in the order of arming: to arm a timer is to append it, to
disarm one is to strike it out, and to drain is to strike out what is due. Whoever works with a
queue, and looks at all that a queue tells about itself after each operation, sees what the ledger
shows, faults included.
-/

set_option autoImplicit false

namespace PriorityAgents

/-! ### What is asked of a keeper of timers, and what is seen of it -/

inductive TimerOperation where
  | create (owner : AgentId) (delay : Span)
  | cancel (handle : TimerHandle)
  | advanceTo (tick : Tick)
  | drain (tick : Tick)

def TimerOperation.isCreate : TimerOperation → Bool
  | .create _ _ => true
  | _ => false

inductive TimerAnswer where
  | done
  | created (handle : TimerHandle)
  | drained (fired : List Timer)

@[ext] structure TimerSight where
  now : Tick
  size : Nat
  isEmpty : Bool
  nextTick? : Option Tick
  tickCount : Nat
  isLive : TimerHandle → Bool
  dueTick? : TimerHandle → Option Tick

/-- A way to keep timers. -/
structure TimerKeeper (State : Type) where
  perform : State → TimerOperation → Except Fault (TimerAnswer × State)
  sight : State → TimerSight

namespace TimerKeeper

variable {State : Type}

/-- The answers to operations, each with what is seen after it. A fault is the end. -/
def transcript (keeper : TimerKeeper State) (state : State) :
    List TimerOperation → List (Except Fault (TimerAnswer × TimerSight))
  | [] => []
  | operation :: operations =>
      match keeper.perform state operation with
      | .error fault => [.error fault]
      | .ok (answer, later) =>
          .ok (answer, keeper.sight later) :: keeper.transcript later operations

end TimerKeeper

def createdHandles (transcript : List (Except Fault (TimerAnswer × TimerSight))) :
    List TimerHandle :=
  transcript.filterMap fun
    | .ok (.created handle, _) => some handle
    | _ => none

def TimerQueue.keeper : TimerKeeper TimerQueue where
  perform queue
    | .create owner delay =>
        (queue.create owner delay).outcome.map fun created => (.created created.1, created.2)
    | .cancel handle => (queue.cancel handle).outcome.map fun later => (.done, later)
    | .advanceTo tick => .ok (.done, queue.advanceTo tick)
    | .drain tick => (queue.drain tick).map fun drained => (.drained drained.1, drained.2)
  sight queue :=
    { now := queue.now
      size := queue.size
      isEmpty := queue.isEmpty
      nextTick? := queue.nextTick?
      tickCount := queue.tickCount
      isLive := queue.isLive
      dueTick? := queue.dueTick? }

/-! ### Ledgers -/

/-- Timers in the order of arming, and how many have ever been armed. -/
structure Ledger where
  clock : Clock
  issued : Nat
  timers : List Timer

namespace Ledger

def start (clock : Clock) : Ledger := { clock, issued := 0, timers := [] }

/-- Handles are counted; the count is cut to 32 bits. -/
def freshHandle (ledger : Ledger) : TimerHandle :=
  ⟨ledger.issued % 2 ^ 32, Nat.mod_lt _ (by decide)⟩

def advanceTo (ledger : Ledger) (tick : Tick) : Ledger :=
  { ledger with clock := { ledger.clock with now := ledger.clock.now.latest tick } }

def keeper : TimerKeeper Ledger where
  perform ledger
    | .create owner delay => do
        let due ← ledger.clock.now.offset (max 1 (ledger.clock.ticksFor delay))
        pure (.created ledger.freshHandle,
          { ledger with
            issued := ledger.issued + 1
            timers := ledger.timers ++ [{ handle := ledger.freshHandle, owner, due }] })
    | .cancel handle =>
        pure (.done, { ledger with timers := ledger.timers.filter (·.handle ≠ handle) })
    | .advanceTo tick => pure (.done, ledger.advanceTo tick)
    | .drain tick => do
        let _ ← tick.offset 1
        pure (.drained (Timer.inDueOrder (ledger.timers.filter (·.due ≤ tick))),
          { ledger.advanceTo tick with timers := ledger.timers.filter (tick < ·.due) })
  sight ledger :=
    { now := ledger.clock.now
      size := ledger.timers.length
      isEmpty := ledger.timers.isEmpty
      nextTick? := (ledger.timers.argmin (·.due.index)).map Timer.due
      tickCount := (ledger.timers.map Timer.due).dedup.length
      isLive := fun handle => ledger.timers.any (·.handle = handle)
      dueTick? := fun handle => (ledger.timers.find? (·.handle = handle)).map Timer.due }

/-- A queue that holds what a ledger has written down. -/
structure Describes (ledger : Ledger) (queue : TimerQueue) : Prop where
  holds : queue.Holds ledger.issued ledger.timers
  clock : queue.clock = ledger.clock

private def Agree :
    Except Fault (TimerAnswer × TimerQueue) → Except Fault (TimerAnswer × Ledger) → Prop
  | .error fault, .error other => fault = other
  | .ok (answer, queue), .ok (other, ledger) => answer = other ∧ ledger.Describes queue
  | _, _ => False

variable {ledger : Ledger} {queue : TimerQueue}

namespace Describes

private theorem sight_eq (describes : ledger.Describes queue) :
    TimerQueue.keeper.sight queue = keeper.sight ledger := by
  have holds := describes.holds
  apply TimerSight.ext
  · exact congrArg Clock.now describes.clock
  · exact holds.size_eq
  · exact holds.isEmpty_eq
  · exact holds.nextTick?_eq
  · exact holds.tickCount_eq
  · exact funext holds.isLive_eq
  · exact funext holds.dueTick?_eq

private theorem create (describes : ledger.Describes queue) (room : ledger.issued < 2 ^ 32 - 1)
    (owner : AgentId) (delay : Span) :
    Agree (TimerQueue.keeper.perform queue (.create owner delay))
      (keeper.perform ledger (.create owner delay)) := by
  have sameOffset : queue.now.offset (max 1 (queue.clock.ticksFor delay)) =
      ledger.clock.now.offset (max 1 (ledger.clock.ticksFor delay)) := by
    unfold TimerQueue.now
    rw [describes.clock]
  have handle : queue.nextHandle = ledger.freshHandle := by
    apply TimerHandle.ext
    rw [describes.holds.nextIssued room]
    exact (Nat.mod_eq_of_lt (by omega)).symm
  cases offset : ledger.clock.now.offset (max 1 (ledger.clock.ticksFor delay)) with
  | error fault =>
      have refused : queue.arm owner delay = .error fault := by
        unfold TimerQueue.arm
        rw [sameOffset, offset]
        rfl
      simp only [TimerQueue.keeper, keeper, TimerQueue.outcome_create, refused, offset]
      rfl
  | ok due =>
      have armed : queue.arm owner delay = .ok (⟨ledger.freshHandle, owner, due⟩, _) :=
        TimerQueue.arm_eq_ok.mpr ⟨sameOffset.trans offset, handle.symm, rfl, rfl⟩
      simp only [TimerQueue.keeper, keeper, TimerQueue.outcome_create, armed, offset]
      exact ⟨rfl, describes.holds.arm room armed, describes.clock⟩

private theorem cancel (describes : ledger.Describes queue) (handle : TimerHandle) :
    Agree (TimerQueue.keeper.perform queue (.cancel handle))
      (keeper.perform ledger (.cancel handle)) := by
  simp only [TimerQueue.keeper, keeper, TimerQueue.outcome_cancel]
  exact ⟨rfl, describes.holds.disarm handle,
    (queue.clock_disarm handle).trans describes.clock⟩

private theorem advanceTo (describes : ledger.Describes queue) (tick : Tick) :
    (ledger.advanceTo tick).Describes (queue.advanceTo tick) := by
  refine ⟨describes.holds.advanceTo tick, ?_⟩
  unfold TimerQueue.advanceTo Ledger.advanceTo
  rw [describes.clock]

private theorem drain (describes : ledger.Describes queue) (tick : Tick) :
    Agree (TimerQueue.keeper.perform queue (.drain tick))
      (keeper.perform ledger (.drain tick)) := by
  cases next : tick.offset 1 with
  | error fault =>
      have refused : queue.drain tick = .error fault := by
        unfold TimerQueue.drain
        rw [next]
        rfl
      simp only [TimerQueue.keeper, keeper, refused, next]
      rfl
  | ok following =>
      obtain ⟨fired, later, drained⟩ : ∃ fired later, queue.drain tick = .ok (fired, later) := by
        unfold TimerQueue.drain
        rw [next]
        exact ⟨_, _, rfl⟩
      obtain ⟨firedEq, holds, clock⟩ := describes.holds.drain drained
      simp only [TimerQueue.keeper, keeper, drained, next]
      refine ⟨congrArg TimerAnswer.drained firedEq, holds, ?_⟩
      rw [clock]
      exact (describes.advanceTo tick).clock

private theorem perform (describes : ledger.Describes queue) (operation : TimerOperation)
    (room : operation.isCreate = true → ledger.issued < 2 ^ 32 - 1) :
    Agree (TimerQueue.keeper.perform queue operation) (keeper.perform ledger operation) := by
  cases operation with
  | create owner delay => exact describes.create (room rfl) owner delay
  | cancel handle => exact describes.cancel handle
  | advanceTo tick => exact ⟨rfl, describes.advanceTo tick⟩
  | drain tick => exact describes.drain tick

private theorem start {tickMillis : UInt32} (started : TimerQueue.start tickMillis = .ok queue) :
    (Ledger.start queue.clock).Describes queue :=
  ⟨TimerQueue.Holds.start started, rfl⟩

end Describes

/-- An operation that arms a timer answers with the fresh handle and raises the count; no other
operation does. -/
theorem issued_of_perform {operation : TimerOperation} {answer : TimerAnswer} {later : Ledger}
    (performed : keeper.perform ledger operation = .ok (answer, later)) :
    (operation.isCreate = true ∧ answer = .created ledger.freshHandle ∧
        later.issued = ledger.issued + 1) ∨
      (operation.isCreate = false ∧ (∀ handle, answer ≠ .created handle) ∧
        later.issued = ledger.issued) := by
  cases operation with
  | create owner delay =>
      simp only [keeper] at performed
      cases offset : ledger.clock.now.offset (max 1 (ledger.clock.ticksFor delay)) with
      | error fault =>
          rw [offset] at performed
          cases performed
      | ok due =>
          rw [offset] at performed
          cases performed
          exact .inl ⟨rfl, rfl, rfl⟩
  | cancel handle =>
      cases performed
      exact .inr ⟨rfl, nofun, rfl⟩
  | advanceTo tick =>
      cases performed
      exact .inr ⟨rfl, nofun, rfl⟩
  | drain tick =>
      simp only [keeper] at performed
      cases next : tick.offset 1 with
      | error fault =>
          rw [next] at performed
          cases performed
      | ok following =>
          rw [next] at performed
          cases performed
          exact .inr ⟨rfl, nofun, rfl⟩

/-- The handles of a ledger ascend from the count, so none comes twice. -/
theorem createdHandles_ascending (ledger : Ledger) (operations : List TimerOperation)
    (few : ledger.issued + operations.countP TimerOperation.isCreate ≤ 2 ^ 32 - 1) :
    (createdHandles (keeper.transcript ledger operations)).Pairwise (·.index < ·.index) ∧
      ∀ handle ∈ createdHandles (keeper.transcript ledger operations),
        ledger.issued ≤ handle.index := by
  induction operations generalizing ledger with
  | nil => exact ⟨List.Pairwise.nil, fun handle member => absurd member List.not_mem_nil⟩
  | cons operation operations ih =>
      unfold TimerKeeper.transcript
      cases performed : keeper.perform ledger operation with
      | error fault =>
          exact ⟨List.Pairwise.nil, fun handle member => absurd member List.not_mem_nil⟩
      | ok reached =>
          obtain ⟨answer, later⟩ := reached
          rw [List.countP_cons] at few
          rcases issued_of_perform performed with ⟨creates, rfl, count⟩ | ⟨keeps, other, count⟩
          · rw [if_pos creates] at few
            obtain ⟨ascending, above⟩ := ih later (by omega)
            have fresh : ledger.freshHandle.index = ledger.issued := Nat.mod_eq_of_lt (by omega)
            constructor
            · refine List.pairwise_cons.mpr ⟨?_, ascending⟩
              intro handle member
              have bound := above handle member
              omega
            · intro handle member
              rcases List.mem_cons.mp member with rfl | laterMember
              · exact Nat.le_of_eq fresh.symm
              · have bound := above handle laterMember
                omega
          · have skipped : createdHandles
                (.ok (answer, keeper.sight later) :: keeper.transcript later operations) =
                  createdHandles (keeper.transcript later operations) := by
              cases answer with
              | created handle => exact absurd rfl (other handle)
              | done => rfl
              | drained fired => rfl
            rw [skipped, ← count]
            exact ih later (by rw [count]; omega)

private theorem Describes.transcript_eq (describes : ledger.Describes queue)
    (operations : List TimerOperation)
    (few : ledger.issued + operations.countP TimerOperation.isCreate ≤ 2 ^ 32 - 1) :
    TimerQueue.keeper.transcript queue operations = keeper.transcript ledger operations := by
  induction operations generalizing ledger queue with
  | nil => rfl
  | cons operation operations ih =>
      rw [List.countP_cons] at few
      have agree := describes.perform operation fun creates => by
        rw [if_pos creates] at few
        omega
      unfold TimerKeeper.transcript
      cases performed : keeper.perform ledger operation with
      | error fault =>
          cases answered : TimerQueue.keeper.perform queue operation with
          | error other =>
              rw [performed, answered] at agree
              exact congrArg (fun fault => [Except.error fault]) agree
          | ok reached =>
              rw [performed, answered] at agree
              exact agree.elim
      | ok reached =>
          obtain ⟨answer, later⟩ := reached
          cases answered : TimerQueue.keeper.perform queue operation with
          | error fault =>
              rw [performed, answered] at agree
              exact agree.elim
          | ok queued =>
              rw [performed, answered] at agree
              obtain ⟨sameAnswer, laterDescribes⟩ := agree
              simp only [sameAnswer, laterDescribes.sight_eq]
              congr 1
              apply ih laterDescribes
              rcases issued_of_perform performed with ⟨creates, _, count⟩ | ⟨keeps, _, count⟩
              · rw [if_pos creates] at few
                omega
              · omega

end Ledger

/-- From its start on, a timer queue answers every sequence of operations as a ledger does and
shows the same after each of them, and no handle is given out twice. -/
theorem TimerQueue.transcript_eq_ledger {tickMillis : UInt32} {queue : TimerQueue}
    (started : TimerQueue.start tickMillis = .ok queue) (operations : List TimerOperation)
    (few : operations.countP TimerOperation.isCreate ≤ 2 ^ 32 - 1) :
    TimerQueue.keeper.sight queue = Ledger.keeper.sight (.start queue.clock) ∧
      TimerQueue.keeper.transcript queue operations =
        Ledger.keeper.transcript (.start queue.clock) operations ∧
      (createdHandles (TimerQueue.keeper.transcript queue operations)).Nodup := by
  have describes := Ledger.Describes.start started
  have fewFromStart : (Ledger.start queue.clock).issued +
      operations.countP TimerOperation.isCreate ≤ 2 ^ 32 - 1 := by
    change 0 + _ ≤ _
    rwa [Nat.zero_add]
  have same := describes.transcript_eq operations fewFromStart
  refine ⟨describes.sight_eq, same, ?_⟩
  rw [same]
  refine (Ledger.createdHandles_ascending _ operations fewFromStart).1.imp ?_
  intro earlier later before equal
  rw [equal] at before
  exact Nat.lt_irrefl _ before

/-- Timers are armed for two ticks and for one, the first is disarmed, and what is left is drained
after its time has passed. -/
theorem TimerQueue.transcript_eq_ledger_late_drain :
    let owner : AgentId := ⟨0, by decide⟩
    let operations : List TimerOperation :=
      [.create owner (.ofMilliseconds 300 (by decide)), .create owner .zero,
        .create owner (.ofMilliseconds 500 (by decide)), .cancel .first,
        .advanceTo ⟨4, by decide⟩, .create owner .zero, .drain ⟨3, by decide⟩]
    ∃ queue, TimerQueue.start 250 = .ok queue ∧
      operations.countP TimerOperation.isCreate ≤ 2 ^ 32 - 1 ∧
      TimerQueue.keeper.transcript queue operations =
        Ledger.keeper.transcript (.start queue.clock) operations :=
  ⟨_, rfl, by decide,
    (TimerQueue.transcript_eq_ledger (show TimerQueue.start 250 = .ok _ from rfl) _
      (by decide)).2.1⟩

end PriorityAgents
