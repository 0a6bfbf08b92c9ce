import PriorityAgents.Logged
import PriorityAgents.Time.Clock

/-!
The timer queue: timers in buckets by the tick at which they are due, and an index from the
handles of armed timers to their buckets.

A timer is never due in the tick in which it is armed. Draining a tick gives back everything due
at it or before it, earlier ticks first and within a tick in the order of arming.
-/

set_option autoImplicit false

namespace PriorityAgents

inductive TimerError where
  | clock (cause : ConfigError)
deriving DecidableEq, Repr, Inhabited

namespace TimerError

def message : TimerError → String
  | .clock cause => "timer configuration error: " ++ cause.message

def outline : TimerError → Text.Outline
  | .clock cause => .variant "Core" [cause.outline]

end TimerError

/-- The armed timers of a world and the clock their delays are measured from. -/
structure TimerQueue where
  clock : Clock
  buckets : Std.ExtTreeMap Tick (List Timer)
  live : Std.ExtTreeMap TimerHandle Tick
  nextHandle : TimerHandle

namespace TimerQueue

def start (tickMillis : UInt32) : Except TimerError TimerQueue :=
  match Clock.start tickMillis with
  | .ok clock => .ok { clock, buckets := ∅, live := ∅, nextHandle := .first }
  | .error cause => .error (.clock cause)

def now (queue : TimerQueue) : Tick := queue.clock.now

/-- Move on to a tick; never back. -/
def advanceTo (queue : TimerQueue) (tick : Tick) : TimerQueue :=
  { queue with clock := { queue.clock with now := queue.clock.now.latest tick } }

def isLive (queue : TimerQueue) (handle : TimerHandle) : Bool := queue.live.contains handle

def dueTick? (queue : TimerQueue) (handle : TimerHandle) : Option Tick := queue.live[handle]?

def nextTick? (queue : TimerQueue) : Option Tick := queue.buckets.minKey?

def size (queue : TimerQueue) : Nat := queue.live.size

def isEmpty (queue : TimerQueue) : Bool := queue.live.isEmpty

def tickCount (queue : TimerQueue) : Nat := queue.buckets.size

/-- Every armed timer, in the order in which they would be drained. -/
def timers (queue : TimerQueue) : List Timer := queue.buckets.toList.flatMap (·.2)

/-- Arm a timer that is due after a delay, one tick from now at the earliest. -/
def arm (queue : TimerQueue) (owner : AgentId) (delay : Span) :
    Except Fault (Timer × TimerQueue) := do
  let due ← queue.now.offset (max 1 (queue.clock.ticksFor delay))
  let timer : Timer := { handle := queue.nextHandle, owner, due }
  pure (timer,
    { queue with
      buckets := queue.buckets.alter due fun bucket => some (bucket.getD [] ++ [timer])
      live := queue.live.insert timer.handle due
      nextHandle := timer.handle.next })

theorem dueTick?_of_arm {queue later : TimerQueue} {owner : AgentId} {delay : Span}
    {timer : Timer} (armed : queue.arm owner delay = .ok (timer, later)) (handle : TimerHandle) :
    later.dueTick? handle =
      if timer.handle = handle then some timer.due else queue.dueTick? handle := by
  unfold arm at armed
  cases due : queue.now.offset (max 1 (queue.clock.ticksFor delay)) with
  | error fault =>
      rw [due] at armed
      cases armed
  | ok tick =>
      rw [due] at armed
      cases armed
      unfold dueTick?
      rw [Std.ExtTreeMap.getElem?_insert]
      simp only [Std.compare_eq_iff_eq]

/-- A bucket without the timer of a handle, if anything is left of it. -/
def withoutHandle (handle : TimerHandle) (bucket : List Timer) : Option (List Timer) :=
  let kept := bucket.filter (·.handle ≠ handle)
  if kept.isEmpty then none else some kept

/-- Disarm the timer of a handle. Handles of no armed timer are passed over. -/
def disarm (queue : TimerQueue) (handle : TimerHandle) : TimerQueue :=
  match queue.live[handle]? with
  | none => queue
  | some due =>
      { queue with
        buckets := queue.buckets.alter due (·.bind (withoutHandle handle))
        live := queue.live.erase handle }

theorem dueTick?_disarm (queue : TimerQueue) (handle other : TimerHandle) :
    (queue.disarm handle).dueTick? other =
      if handle = other then none else queue.dueTick? other := by
  unfold disarm
  cases found : queue.live[handle]? with
  | none =>
      by_cases same : handle = other
      · subst same
        rw [if_pos rfl]
        exact found
      · rw [if_neg same]
  | some due =>
      unfold dueTick?
      rw [Std.ExtTreeMap.getElem?_erase]
      simp only [Std.compare_eq_iff_eq]

/-- Take out every timer due at a tick or before it, and move on to that tick. -/
def drain (queue : TimerQueue) (tick : Tick) : Except Fault (List Timer × TimerQueue) := do
  let _ ← tick.offset 1
  let fired := (queue.buckets.filter fun due _ => due ≤ tick).toList.flatMap (·.2)
  let later := queue.advanceTo tick
  pure (fired,
    { later with
      buckets := queue.buckets.filter fun due _ => !(due ≤ tick)
      live := fired.foldl (fun live timer => live.erase timer.handle) queue.live })

def create (queue : TimerQueue) (owner : AgentId) (delay : Span) :
    Logged (TimerHandle × TimerQueue) := do
  let (timer, queue) ← queue.arm owner delay
  Journaled.enter (.armed timer)
  pure (timer.handle, queue)

/-- Disarm a timer and report it; handles of no armed timer are passed over in silence. -/
def cancel (queue : TimerQueue) (handle : TimerHandle) : Logged TimerQueue := do
  match queue.dueTick? handle with
  | none => pure ()
  | some due => Journaled.enter (.disarmed handle due)
  pure (queue.disarm handle)

@[simp] theorem outcome_create (queue : TimerQueue) (owner : AgentId) (delay : Span) :
    (queue.create owner delay).outcome =
      (queue.arm owner delay).map fun armed => (armed.1.handle, armed.2) := by
  unfold create
  cases armed : queue.arm owner delay <;> rfl

@[simp] theorem outcome_cancel (queue : TimerQueue) (handle : TimerHandle) :
    (queue.cancel handle).outcome = .ok (queue.disarm handle) := by
  unfold cancel
  cases queue.dueTick? handle <;> rfl

theorem gives_create {queue later : TimerQueue} {owner : AgentId} {delay : Span}
    {handle : TimerHandle} {journal : List Entry} :
    (queue.create owner delay).Gives (handle, later) journal ↔
      ∃ timer, queue.arm owner delay = .ok (timer, later) ∧ handle = timer.handle ∧
        journal = [.armed timer] := by
  unfold create
  simp only [Journaled.gives_bind, Journaled.gives_lift, Journaled.gives_enter,
    Journaled.gives_pure, Prod.exists, Prod.mk.injEq]
  constructor
  · intro given
    rcases given with ⟨timer, _, _, _, ⟨armed, rfl⟩, ⟨_, _, _, rfl, ⟨⟨rfl, rfl⟩, rfl⟩, rfl⟩, rfl⟩
    exact ⟨timer, armed, rfl, rfl⟩
  · intro given
    rcases given with ⟨timer, armed, rfl, rfl⟩
    exact ⟨timer, later, _, _, ⟨armed, rfl⟩, ⟨(), _, _, rfl, ⟨⟨rfl, rfl⟩, rfl⟩, rfl⟩, rfl⟩

theorem gives_cancel {queue later : TimerQueue} {handle : TimerHandle} {journal : List Entry} :
    (queue.cancel handle).Gives later journal ↔
      later = queue.disarm handle ∧
        journal = ((queue.dueTick? handle).map (Entry.disarmed handle)).toList := by
  unfold cancel
  cases queue.dueTick? handle with
  | none =>
      simp only [Journaled.gives_pure, Option.map_none, Option.toList_none,
        eq_comm (a := later)]
  | some due =>
      simp only [Journaled.gives_bind, Journaled.gives_enter, Journaled.gives_pure,
        Option.map_some, Option.toList_some]
      constructor
      · intro given
        rcases given with ⟨_, _, _, rfl, ⟨rfl, rfl⟩, rfl⟩
        exact ⟨rfl, rfl⟩
      · intro given
        rcases given with ⟨rfl, rfl⟩
        exact ⟨(), _, _, rfl, ⟨rfl, rfl⟩, rfl⟩

end TimerQueue

end PriorityAgents
