import PriorityAgents.Proofs.Controller.Likeness
import PriorityAgents.Proofs.World.Rounds

/-!
One agent without the others: the same code, on timers that no other agent uses.

What the others do in a world touches neither the controller of an agent nor its line in the
docket, so the agent can be followed by itself. Its image keeps the same controller, except that
the handle in the slot is its own.
-/

set_option autoImplicit false

namespace PriorityAgents

/-- What can happen to an agent: what its host asks of it, and the ticks that go by. -/
inductive Concern (vocabulary : Vocabulary) : Type 1 where
  | spawn (agent : vocabulary.State) (name : String) (setup : Program vocabulary Unit)
  | withAgent {α : Type} (program : Program vocabulary α)
  | post (name : EventName) (payload : vocabulary.Payload)
  | destroy (payload : vocabulary.Payload)
  | tick

/-- A place for one agent, with the events that wait for it. -/
structure Solo (vocabulary : Vocabulary) where
  agent : AgentId
  seed : UInt64
  reconsiderNow : Span
  clock : Clock
  context : Option (Context vocabulary)
  events : List (PendingEvent vocabulary)

variable {vocabulary : Vocabulary}

namespace Solo

def newcomer (solo : Solo vocabulary) (agent : vocabulary.State) (name : String) :
    Context vocabulary where
  controller := Controller.start solo.agent name agent solo.seed solo.reconsiderNow
  timers := { clock := solo.clock, buckets := ∅, live := ∅, nextHandle := .first }

def deliver (repertoire : Repertoire vocabulary) (now : Tick) (event : PendingEvent vocabulary) :
    Option (Context vocabulary) → Logged (Option (Context vocabulary))
  | none => do
      Logged.notify (.event now event.agent event.name false)
      pure none
  | some context => do
      let (handled, context) ← context.handleEvent repertoire event.name event.payload
      Logged.notify (.event now event.agent event.name handled)
      pure (some context)

def deliverAll (repertoire : Repertoire vocabulary) (now : Tick)
    (context : Option (Context vocabulary)) :
    List (PendingEvent vocabulary) → Logged (Option (Context vocabulary))
  | [] => pure context
  | event :: events => do
      let context ← deliver repertoire now event context
      deliverAll repertoire now context events

def ring (repertoire : Repertoire vocabulary) (now : Tick) (agent : AgentId) :
    Option (Context vocabulary) → Logged (Option (Context vocabulary))
  | none => pure none
  | some context =>
      match context.controller.pending with
      | none => pure (some context)
      | some handle =>
          if context.due?.any (· ≤ now) then do
            let (outcome, context) ← context.onTimer repertoire handle
            Logged.notify (.reconsider now agent outcome)
            pure (some context)
          else pure (some context)

def tick (repertoire : Repertoire vocabulary) (solo : Solo vocabulary) :
    Logged (Solo vocabulary) := do
  let context ← deliverAll repertoire solo.clock.now solo.context solo.events
  let context ← ring repertoire solo.clock.now solo.agent context
  let clock ← solo.clock.advance
  pure
    { solo with
      clock
      context := context.map fun context =>
        { context with timers := context.timers.advanceTo clock.now }
      events := [] }

def attend (repertoire : Repertoire vocabulary) (solo : Solo vocabulary) :
    Concern vocabulary → Logged (Solo vocabulary)
  | .spawn agent name setup =>
      if solo.agent.isValid then do
        let ((), context) ← (solo.newcomer agent name).run repertoire setup
        pure { solo with context := some context }
      else pure solo
  | .withAgent program =>
      match solo.context with
      | none => pure solo
      | some context => do
          let (_, context) ← context.run repertoire program
          pure { solo with context := some context }
  | .post name payload =>
      pure (if solo.context.isSome then
        { solo with events := solo.events ++ [{ agent := solo.agent, name, payload }] }
      else solo)
  | .destroy _ => pure { solo with context := none }
  | .tick => solo.tick repertoire

def attendAll (repertoire : Repertoire vocabulary) (solo : Solo vocabulary) :
    List (Concern vocabulary) → Logged (Solo vocabulary)
  | [] => pure solo
  | concern :: concerns => do
      let solo ← solo.attend repertoire concern
      solo.attendAll repertoire concerns

theorem ring_due {repertoire : Repertoire vocabulary} {now due : Tick} {agent : AgentId}
    {context : Context vocabulary} {handle : TimerHandle}
    (pending : context.controller.pending = some handle) (line : context.due? = some due)
    (reached : due ≤ now) :
    ring repertoire now agent (some context) = (do
      let (outcome, context) ← context.onTimer repertoire handle
      Logged.notify (.reconsider now agent outcome)
      pure (some context)) := by
  have rings : context.due?.any (· ≤ now) = true := by
    rw [line]
    exact decide_eq_true reached
  unfold ring
  simp only [pending, rings, if_true]

theorem ring_ahead {repertoire : Repertoire vocabulary} {now : Tick} {agent : AgentId}
    {context : Context vocabulary} (ahead : ∀ due, context.due? = some due → now < due) :
    ring repertoire now agent (some context) = pure (some context) := by
  have silent : context.due?.any (· ≤ now) = false := by
    cases line : context.due? with
    | none => rfl
    | some due =>
        apply decide_eq_false
        have bound := ahead due line
        rw [Tick.lt_def] at bound
        rw [Tick.le_def]
        omega
  unfold ring
  cases pending : context.controller.pending with
  | none => simp only [pending]
  | some handle => simp only [pending, silent, Bool.false_eq_true, if_false]

end Solo

/-! ### What an observer hears of an agent -/

def Notice.isAbout (agent : AgentId) : Notice → Bool
  | .event _ owner _ _ | .reconsider _ owner _ => owner = agent
  | .tickStart _ | .tickEnd _ _ | .runEnd _ => false

/-- The notices of a journal that name an agent. -/
def heard (agent : AgentId) (journal : List Entry) : List Notice :=
  (journal.filterMap Entry.notice?).filter (Notice.isAbout agent)

variable {agent other : AgentId} {journal : List Entry}

@[simp] theorem heard_append (agent : AgentId) (first second : List Entry) :
    heard agent (first ++ second) = heard agent first ++ heard agent second := by
  simp only [heard, List.filterMap_append, List.filter_append]

theorem heard_own (own : ∀ entry ∈ journal, entry.IsOwn other) : heard agent journal = [] := by
  have silent : journal.filterMap Entry.notice? = [] := by
    rw [List.filterMap_eq_nil_iff]
    intro entry member
    have mine := own entry member
    cases entry with
    | noticed notice => exact mine.elim
    | told record => rfl
    | armed timer => rfl
    | disarmed handle due => rfl
    | drained tick => rfl
    | scheduled asker handle delay => rfl
    | withdrawn asker => rfl
    | destroyed asker name => rfl
  rw [heard, silent, List.filter_nil]

theorem heard_told (agent : AgentId) (records : List Record) :
    heard agent (records.map .told) = [] := by
  induction records with
  | nil => rfl
  | cons record records ih => exact ih

theorem heard_noticed (agent : AgentId) (notice : Notice) :
    heard agent [.noticed notice] = if notice.isAbout agent then [notice] else [] := by
  cases about : notice.isAbout agent <;> simp [heard, Entry.notice?, about]

/-! ### A controller and its image -/

/-- A controller within reach and the line of its agent in a docket, and the same controller on
timers of its own. -/
structure Image (reach : Reach vocabulary) (agent : AgentId) (docket : Docket)
    (controller : Controller vocabulary) (alone : Context vocabulary) : Prop where
  same : { controller with scheduler := .idle } = alone.detached.controller
  clock : docket.clock = alone.timers.clock
  due : docket.dueOf agent = alone.due?
  slot : alone.controller.pending.isSome = alone.due?.isSome
  within : controller.Within reach

variable {reach : Reach vocabulary} {docket laterDocket : Docket} {issued : Nat}
  {context alone later reached : Context vocabulary} {controller : Controller vocabulary}

theorem Context.Keeps.due (keeps : context.Keeps issued docket) (single : docket.Single) :
    context.due? = docket.dueOf context.controller.id ∧
      context.controller.pending.isSome = (docket.dueOf context.controller.id).isSome := by
  cases pending : context.controller.pending with
  | none =>
      have noLine : docket.dueOf context.controller.id = none := by
        rw [Option.eq_none_iff_forall_ne_some]
        intro due line
        obtain ⟨timer, member, mine, _⟩ := single.dueOf_eq_some.mp line
        have impossible := (keeps.pending timer.handle).mpr ⟨timer, member, mine, rfl⟩
        rw [pending] at impossible
        cases impossible
      rw [noLine, due?, pending]
      exact ⟨rfl, rfl⟩
  | some handle =>
      obtain ⟨timer, member, mine, rfl⟩ := (keeps.pending handle).mp pending
      rw [single.dueOf_eq_some.mpr ⟨timer, member, mine, rfl⟩, due?, pending]
      exact ⟨keeps.holds.dueTick?_of_mem member, rfl⟩

namespace Image

theorem alike (image : Image reach agent docket context.controller alone)
    (keeps : context.Keeps issued docket) (single : docket.Single)
    (id : context.controller.id = agent) : context.Alike alone := by
  obtain ⟨due, slot⟩ := keeps.due single
  rw [id] at due slot
  refine
    { controller := image.same
      clock := keeps.clock.trans image.clock
      slot := ?_
      due := due.trans image.due }
  rw [slot, image.due, image.slot]

theorem of_alike (keeps : later.Keeps issued docket) (single : docket.Single)
    (id : later.controller.id = agent) (alike : later.Alike reached)
    (within : later.controller.Within reach) :
    Image reach agent docket later.controller reached := by
  obtain ⟨due, slot⟩ := keeps.due single
  rw [id] at due slot
  refine
    { same := alike.controller
      clock := keeps.clock.symm.trans alike.clock
      due := due.symm.trans alike.due
      slot := ?_
      within }
  rw [← alike.slot, slot, ← due, alike.due]

theorem of_line {slot : Option (Controller vocabulary)} {solo : Option (Context vocabulary)}
    (images : Option.Rel (Image reach agent docket) slot solo)
    (clock : laterDocket.clock = docket.clock)
    (due : laterDocket.dueOf agent = docket.dueOf agent) :
    Option.Rel (Image reach agent laterDocket) slot solo := by
  cases images with
  | none => exact .none
  | some image =>
      exact .some ⟨image.same, clock.trans image.clock, due.trans image.due, image.slot,
        image.within⟩

end Image

/-- What became of an agent in company comes of its image alone, and an observer hears the same. -/
def Echoed (reach : Reach vocabulary) (agent : AgentId) (docket : Docket)
    (slot : Option (Controller vocabulary)) (journal : List Entry)
    (alone : Logged (Option (Context vocabulary))) : Prop :=
  ∃ reached entries, alone.Gives reached entries ∧
    Option.Rel (Image reach agent docket) slot reached ∧ heard agent entries = heard agent journal

namespace Roster

variable {roster laterRoster : Roster vocabulary} {now : Tick} {rest : List Timer}
  {repertoire : Repertoire vocabulary} {solo : Option (Context vocabulary)}

/-! ### What the others do -/

/-- What leaves an agent, its line and what is heard of it as they were. -/
structure Spares (agent : AgentId) (roster : Roster vocabulary) (docket : Docket)
    (later : Roster vocabulary) (journal : List Entry) : Prop where
  slot : later.controller? agent = roster.controller? agent
  clock : (docket.read journal).clock = docket.clock
  due : (docket.read journal).dueOf agent = docket.dueOf agent
  unheard : heard agent journal = []

namespace Spares

theorem refl (agent : AgentId) (roster : Roster vocabulary) (docket : Docket) :
    Spares agent roster docket roster [] := ⟨rfl, rfl, rfl, rfl⟩

theorem trans {middle : Roster vocabulary} {first second : List Entry}
    (before : Spares agent roster docket middle first)
    (after : Spares agent middle (docket.read first) laterRoster second) :
    Spares agent roster docket laterRoster (first ++ second) := by
  refine
    { slot := after.slot.trans before.slot
      clock := ?_
      due := ?_
      unheard := ?_ }
  · rw [Docket.read_append, after.clock, before.clock]
  · rw [Docket.read_append, after.due, before.due]
  · rw [heard_append, before.unheard, after.unheard, List.append_nil]

theorem of_own (slot : laterRoster.controller? agent = roster.controller? agent)
    (foreign : agent ≠ other) (own : ∀ entry ∈ journal, entry.IsOwn other) :
    Spares agent roster docket laterRoster journal :=
  ⟨slot, (docket.read_own own).1, Docket.dueOf_eq_of_others foreign (docket.read_own own).2,
    heard_own own⟩

theorem image (spares : Spares agent roster docket laterRoster journal)
    (images : Option.Rel (Image reach agent docket) (roster.controller? agent) solo) :
    Option.Rel (Image reach agent (docket.read journal)) (laterRoster.controller? agent) solo := by
  rw [spares.slot]
  exact Image.of_line images spares.clock spares.due

end Spares

end Roster

end PriorityAgents
