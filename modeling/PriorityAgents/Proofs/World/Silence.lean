import PriorityAgents.Patrol.Rules
import PriorityAgents.Proofs.Controller.Scene
import PriorityAgents.Proofs.World.Echo
import PriorityAgents.Proofs.World.Moves

/-!
An agent that has left falls silent.

Its controller may stay in its slot, and a timer may still be armed for it. Unless somebody turns to
it, the others leave both alone, and when the timer comes due the agent is found gone before its
tree is looked at. After that nothing is pending any more, and only code of its own could change
that.
-/

set_option autoImplicit false

namespace PriorityAgents

variable {vocabulary : Vocabulary} {repertoire : Repertoire vocabulary} {agent : AgentId}
  {controller : Controller vocabulary} {journal : List Entry} {issued : Nat} {docket : Docket}

/-! ### Within a tick -/

namespace Roster

variable {roster later : Roster vocabulary} {now : Tick} {rest : List Timer} {fired : Nat}

private theorem deliverAll_spares {events : List (PendingEvent vocabulary)}
    (keeps : roster.Keeps issued docket []) (foreign : ∀ event ∈ events, event.agent ≠ agent)
    (given : (roster.deliverAll repertoire now events).Gives later journal)
    (room : issued + journal.countP Entry.isArming ≤ 2 ^ 32 - 1) :
    Spares agent roster docket later journal := by
  induction events generalizing roster issued docket journal with
  | nil =>
      obtain ⟨rfl, rfl⟩ := Journaled.gives_pure.mp given
      exact .refl agent _ docket
  | cons event events ih =>
      obtain ⟨first, others⟩ := List.forall_mem_cons.mp foreign
      obtain ⟨middle, early, late, delivered, following, rfl⟩ := Journaled.gives_bind.mp given
      rw [List.countP_append] at room
      have kept := (deliver_served keeps delivered (by omega)).keeps
      exact (deliver_spares keeps first delivered).trans (ih kept others following (by omega))

private theorem gone_of_routeAll (keeps : roster.Keeps issued docket rest)
    (waiting : ∃ timer ∈ rest, timer.owner = agent)
    (occupied : roster.controller? agent = some controller)
    (absent : repertoire.isPresent controller.agent = false)
    (given : (roster.routeAll repertoire now rest).Gives (fired, later) journal)
    (room : issued + journal.countP Entry.isArming ≤ 2 ^ 32 - 1) :
    later.controller? agent = some { controller with scheduler := .idle } ∧
      heard agent journal = [.reconsider now agent .agentGone] := by
  induction rest generalizing roster issued docket journal fired with
  | nil =>
      obtain ⟨_, member, _⟩ := waiting
      exact absurd member List.not_mem_nil
  | cons timer rest ih =>
      obtain ⟨context, found, pending, _⟩ := keeps.detached
      obtain ⟨outcome, done, entries, others, after, ran, routed, rfl, rfl⟩ :=
        (gives_routeAll_cons found).mp given
      rw [List.countP_append, armings_reconsidered] at room
      obtain ⟨kept, _, works, _⟩ := keeps.handOut found ran (by omega)
      rw [heard_append]
      by_cases mine : timer.owner = agent
      · subst mine
        have standing := (context?_eq_some.mp found).1
        cases occupied.symm.trans standing
        rw [Context.onTimer_of_pending pending, if_neg (by rw [absent]; exact nofun)] at ran
        obtain ⟨reached, rfl⟩ := Journaled.gives_pure.mp ran
        cases reached
        have spares := routeAll_spares kept keeps.foreign routed (by omega)
        rw [spares.slot, spares.unheard, controller?_keep standing, if_pos rfl, List.nil_append,
          heard_noticed]
        exact ⟨rfl, by simp [Notice.isAbout]⟩
      · have spares := handOut_spares now outcome keeps mine found works
        obtain ⟨held, member, own⟩ := waiting
        have left : ∃ waiting ∈ rest, waiting.owner = agent := by
          rcases List.mem_cons.mp member with rfl | later
          · exact absurd own mine
          · exact ⟨held, later, own⟩
        obtain ⟨idle, told⟩ := ih kept left (spares.slot.trans occupied) routed (by omega)
        rw [spares.unheard, told]
        exact ⟨idle, rfl⟩

/-- An agent that has left waits while others are woken, until its own timer comes due. -/
theorem fades_of_fire (keeps : roster.Keeps issued docket []) (standing : docket.clock.now = now)
    (occupied : roster.controller? agent = some controller)
    (absent : repertoire.isPresent controller.agent = false)
    (given : (roster.fire repertoire now).Gives (fired, later) journal)
    (room : issued + journal.countP Entry.isArming ≤ 2 ^ 32 - 1) :
    (∃ due ≤ now, docket.dueOf agent = some due ∧
        later.controller? agent = some { controller with scheduler := .idle } ∧
        heard agent journal = [.reconsider now agent .agentGone]) ∨
      later.controller? agent = some controller ∧
        (docket.read journal).dueOf agent = docket.dueOf agent ∧ heard agent journal = [] := by
  obtain ⟨due, timers, routing, drained, routed, rfl⟩ := gives_fire.mp given
  obtain ⟨rfl, kept⟩ := keeps.drain standing drained
  have inDue {timer : Timer} :
      timer ∈ Timer.inDueOrder (docket.timers.filter (·.due ≤ now)) ↔
        timer ∈ docket.timers ∧ timer.due ≤ now := by
    rw [(Timer.inDueOrder_perm _).mem_iff, List.mem_filter, decide_eq_true_eq]
  have told : heard agent (.drained now :: routing) = heard agent routing := rfl
  rw [told, Docket.read_cons]
  by_cases waiting : ∃ timer ∈ docket.timers, timer.owner = agent ∧ timer.due ≤ now
  · obtain ⟨timer, member, mine, overdue⟩ := waiting
    have line := keeps.single.dueOf_eq_some.mpr ⟨timer, member, mine, rfl⟩
    exact .inl ⟨timer.due, overdue, line, gone_of_routeAll kept
      ⟨timer, inDue.mpr ⟨member, overdue⟩, mine⟩ occupied absent routed room⟩
  · have foreign : ∀ timer ∈ Timer.inDueOrder (docket.timers.filter (·.due ≤ now)),
        timer.owner ≠ agent := fun timer member mine =>
      waiting ⟨timer, (inDue.mp member).1, mine, (inDue.mp member).2⟩
    have ahead : ∀ timer ∈ docket.timers, timer.owner = agent → now < timer.due := by
      intro timer member mine
      rw [Tick.lt_def]
      by_contra notLater
      exact waiting ⟨timer, member, mine, by rw [Tick.le_def]; omega⟩
    have spares := routeAll_spares kept foreign routed room
    exact .inr ⟨spares.slot.trans occupied, spares.due.trans (keeps.single.dueOf_drained ahead),
      spares.unheard⟩

end Roster

/-! ### From move to move -/

namespace World

variable {world middle later : World vocabulary} {early late : List Entry}

/-- What becomes of an agent that has left: it waits, or a tick that is stepped is the one at which
its pending reconsideration is due. -/
inductive Fades (agent : AgentId) (docket : Docket) (controller : Controller vocabulary)
    (later : World vocabulary) (journal : List Entry) : Prop
  | waits (slot : later.controller? agent = some controller)
      (line : (docket.read journal).dueOf agent = docket.dueOf agent)
      (unheard : heard agent journal = [])
  | goes (due : Tick) (line : docket.dueOf agent = some due)
      (stepped : .noticed (.tickStart due) ∈ journal)
      (slot : later.controller? agent = some { controller with scheduler := .idle })
      (told : heard agent journal = [.reconsider due agent .agentGone])

def Unaddressed (world : World vocabulary) (agent : AgentId) : Prop :=
  ∀ event ∈ world.events, event.agent ≠ agent

/-- An agent that is in its slot although it has left, and to which nobody turns. -/
structure Left (repertoire : Repertoire vocabulary) (agent : AgentId) (issued : Nat)
    (docket : Docket) (controller : Controller vocabulary) (world : World vocabulary) : Prop where
  keeps : world.Keeps issued docket
  slot : world.controller? agent = some controller
  absent : repertoire.isPresent controller.agent = false
  unaddressed : world.Unaddressed agent

private theorem Keeps.line (keeps : world.Keeps issued docket)
    (slot : world.controller? agent = some controller) :
    docket.dueOf agent = (Context.mk controller world.roster.timers).due? ∧
      controller.pending.isSome = (docket.dueOf agent).isSome := by
  have found : (world.roster.advanceTo world.clock.now).context? agent =
      some ⟨controller, (world.roster.advanceTo world.clock.now).timers⟩ :=
    Roster.context?_eq_some.mpr ⟨slot, rfl⟩
  obtain ⟨id, begun⟩ := keeps.roster.atWork found
  have line := begun.due keeps.roster.single
  rw [id] at line
  exact ⟨line.1.symm, line.2⟩

namespace Fades

private theorem of_spares (spares : Roster.Spares agent world.roster docket later.roster journal)
    (slot : world.controller? agent = some controller) :
    Fades agent docket controller later journal :=
  .waits (spares.slot.trans slot) spares.due spares.unheard

private theorem exists_slot (fades : Fades agent docket controller later journal) :
    ∃ kept, later.controller? agent = some kept ∧ kept.agent = controller.agent := by
  cases fades with
  | waits slot => exact ⟨_, slot, rfl⟩
  | goes _ _ _ slot => exact ⟨_, slot, rfl⟩

/-- An agent that has been found gone has nothing pending, so it is not found gone again. -/
theorem trans {laterIssued : Nat} (first : Fades agent docket controller middle early)
    (keeps : middle.Keeps laterIssued (docket.read early))
    (second : ∀ kept, middle.controller? agent = some kept → kept.agent = controller.agent →
      Fades agent (docket.read early) kept later late) :
    Fades agent docket controller later (early ++ late) := by
  cases first with
  | waits slot line unheard =>
      cases second controller slot rfl with
      | waits laterSlot laterLine laterUnheard =>
          refine .waits laterSlot ?_ ?_
          · rw [Docket.read_append, laterLine, line]
          · rw [heard_append, unheard, laterUnheard, List.nil_append]
      | goes due laterLine stepped laterSlot told =>
          refine .goes due (line ▸ laterLine) (List.mem_append_right _ stepped) laterSlot ?_
          rw [heard_append, unheard, told, List.nil_append]
  | goes due line stepped slot told =>
      cases second _ slot rfl with
      | waits laterSlot _ laterUnheard =>
          refine .goes due line (List.mem_append_left _ stepped) laterSlot ?_
          rw [heard_append, told, laterUnheard, List.append_nil]
      | goes _ laterLine =>
          have held := (keeps.line slot).2
          rw [laterLine] at held
          cases held

end Fades

namespace Left

private theorem andThen {laterIssued : Nat}
    (left : world.Left repertoire agent issued docket controller)
    (first : Fades agent docket controller middle early ∧ middle.Unaddressed agent)
    (keeps : middle.Keeps laterIssued (docket.read early))
    (second : ∀ kept, middle.Left repertoire agent laterIssued (docket.read early) kept →
      Fades agent (docket.read early) kept later late ∧ later.Unaddressed agent) :
    Fades agent docket controller later (early ++ late) ∧ later.Unaddressed agent := by
  have still (kept : Controller vocabulary) (slot : middle.controller? agent = some kept)
      (same : kept.agent = controller.agent) :
      middle.Left repertoire agent laterIssued (docket.read early) kept :=
    ⟨keeps, slot, (congrArg repertoire.isPresent same).trans left.absent, first.2⟩
  obtain ⟨kept, slot, same⟩ := first.1.exists_slot
  exact ⟨first.1.trans keeps fun kept slot same => (second kept (still kept slot same)).1,
    (second kept (still kept slot same)).2⟩

private theorem tick (left : world.Left repertoire agent issued docket controller)
    (given : (world.tick repertoire).Gives later journal)
    (room : issued + journal.countP Entry.isArming ≤ 2 ^ 32 - 1) :
    Fades agent docket controller later journal ∧ later.Unaddressed agent := by
  obtain ⟨delivering, firing, fired, roster, _, clock, delivered, fires, _, rfl, rfl⟩ :=
    gives_tick.mp given
  refine ⟨?_, nofun⟩
  simp only [List.countP_cons, List.countP_append, List.countP_nil] at room
  have served := Roster.deliverAll_served left.keeps.roster delivered (by omega)
  have spares := Roster.deliverAll_spares left.keeps.roster left.unaddressed delivered (by omega)
  have standing : (docket.read delivering).clock.now = world.clock.now :=
    congrArg Clock.now (served.clock.trans left.keeps.clock)
  have parts : heard agent (.noticed (.tickStart world.clock.now) ::
      (delivering ++ (firing ++ [.noticed (.tickEnd world.clock.now fired)]))) =
        heard agent firing := by
    rw [← List.singleton_append]
    simp only [heard_append, heard_noticed, spares.unheard, Notice.isAbout, Bool.false_eq_true,
      if_false, List.nil_append, List.append_nil]
  rcases Roster.fades_of_fire served.keeps standing (spares.slot.trans left.slot) left.absent fires
    (by omega) with ⟨due, reached, line, slot, told⟩ | ⟨slot, line, unheard⟩
  · -- No timer is overdue when a tick begins, so one that comes due is due at this very tick.
    rw [spares.due] at line
    obtain ⟨timer, member, _, rfl⟩ := left.keeps.roster.single.dueOf_eq_some.mp line
    have now : timer.due = world.clock.now := by
      have bound := left.keeps.due timer member
      rw [Tick.le_def] at bound reached
      exact Tick.ext (Nat.le_antisymm reached bound)
    rw [now] at line
    exact .goes _ line List.mem_cons_self slot (parts.trans told)
  · refine .waits slot ?_ (parts.trans unheard)
    rw [Docket.read_cons, Docket.read_append, Docket.read_append]
    exact line.trans spares.due

private theorem ticks {count : Nat} (left : world.Left repertoire agent issued docket controller)
    (given : (world.ticks repertoire count).Gives later journal)
    (room : issued + journal.countP Entry.isArming ≤ 2 ^ 32 - 1) :
    Fades agent docket controller later journal ∧ later.Unaddressed agent := by
  induction count generalizing world issued docket journal controller with
  | zero =>
      obtain ⟨rfl, rfl⟩ := Journaled.gives_pure.mp given
      exact ⟨.waits left.slot rfl rfl, left.unaddressed⟩
  | succ count ih =>
      obtain ⟨middle, first, second, ticked, rest, rfl⟩ := Journaled.gives_bind.mp given
      rw [List.countP_append] at room
      have kept := (left.keeps.tick ticked (by omega)).1
      exact left.andThen (left.tick ticked (by omega)) kept fun _ still => ih still rest (by omega)

private theorem toEnd (left : world.Left repertoire agent issued docket controller)
    (given : (world.toEnd repertoire).Gives later journal)
    (room : issued + journal.countP Entry.isArming ≤ 2 ^ 32 - 1) :
    Fades agent docket controller later journal ∧ later.Unaddressed agent := by
  rw [toEnd_eq_ticks] at given
  obtain ⟨middle, first, second, ticked, rest, rfl⟩ := Journaled.gives_bind.mp given
  obtain ⟨_, notice, _, told, final, rfl⟩ := Journaled.gives_bind.mp rest
  obtain ⟨rfl, rfl⟩ := Journaled.gives_pure.mp final
  cases Logged.gives_notify.mp told
  rw [List.countP_append] at room
  have kept := (left.keeps.ticks ticked (by omega)).1
  refine left.andThen (left.ticks ticked (by omega)) kept fun _ still => ?_
  exact ⟨.waits still.slot rfl rfl, still.unaddressed⟩

end Left

/-! ### What others do -/

private theorem spares_of_spawn {name : String} {state : vocabulary.State}
    {setup : Program vocabulary Unit} {answer : Except WorldError (AgentId × World vocabulary)}
    (slot : world.controller? agent = some controller)
    (given : (world.spawn repertoire state name setup).Gives answer journal) :
    Roster.Spares agent world.roster docket (world.after answer).roster journal ∧
      (world.after answer).events = world.events := by
  have outcome := gives_spawn.mp given
  cases free : agentIdFor world.roster.controllers.size with
  | error cause =>
      rw [free] at outcome
      obtain ⟨rfl, rfl⟩ := outcome
      exact ⟨.refl agent world.roster docket, rfl⟩
  | ok id =>
      rw [free] at outcome
      obtain ⟨done, entries, ran, rfl, rfl⟩ := outcome
      have index := (agentIdFor_eq_ok.mp free).1
      have works := (Context.Works.run ran).trans
        (Context.Works.told done (Record.mk .debug "agent spawned" [("agent",
          done.controller.id.text), ("ai", done.controller.name)]))
      have foreign : agent ≠ id := by
        rintro rfl
        have within := (Array.getElem?_eq_some_iff.mp (Roster.controller?_eq_some.mp slot)).1
        exact Nat.ne_of_lt within index
      have sameId : done.controller.id = id := works.id
      refine ⟨.of_own ?_ foreign works.own, rfl⟩
      exact (Roster.controller?_enlist ((congrArg AgentId.index sameId).trans index) agent).trans
        (if_neg (sameId ▸ foreign))

private theorem spares_of_withAgent {α : Type} {other : AgentId} {program : Program vocabulary α}
    {answer : Except WorldError (α × World vocabulary)} (keeps : world.Keeps issued docket)
    (foreign : other ≠ agent)
    (given : (world.withAgent repertoire other program).Gives answer journal) :
    Roster.Spares agent world.roster docket (world.after answer).roster journal ∧
      (world.after answer).events = world.events := by
  have outcome := gives_withAgent.mp given
  cases found : (world.roster.advanceTo world.clock.now).context? other with
  | none =>
      rw [found] at outcome
      obtain ⟨rfl, rfl⟩ := outcome
      exact ⟨.refl agent world.roster docket, rfl⟩
  | some context =>
      rw [found] at outcome
      obtain ⟨reply, done, ran, rfl⟩ := outcome
      have own := (Context.Works.run ran).own
      rw [(keeps.roster.atWork found).1] at own
      have occupied : world.roster.controller? other = some context.controller :=
        (Roster.context?_eq_some.mp found).1
      refine ⟨.of_own ?_ foreign.symm own, rfl⟩
      exact (Roster.controller?_keep occupied done agent).trans (if_neg foreign.symm)

private theorem spares_of_destroy {other : AgentId} {payload : vocabulary.Payload}
    {answer : Except WorldError (Controller vocabulary × World vocabulary)}
    (keeps : world.Keeps issued docket) (foreign : other ≠ agent)
    (given : (world.destroy repertoire other payload).Gives answer journal) :
    Roster.Spares agent world.roster docket (world.after answer).roster journal ∧
      (world.after answer).events = world.events := by
  have outcome := gives_destroy.mp given
  cases found : world.roster.context? other with
  | none =>
      rw [found] at outcome
      obtain ⟨rfl, rfl⟩ := outcome
      exact ⟨.refl agent world.roster docket, rfl⟩
  | some context =>
      rw [found] at outcome
      obtain ⟨handled, told, done, first, second, ran, torn, rfl, rfl⟩ := outcome
      have own := ((Context.Works.handleEvent ran).trans (Context.Works.teardown torn)).own
      have id : context.controller.id = other :=
        keeps.roster.id_eq (Roster.context?_eq_some.mp found).1
      rw [id] at own
      have spares : Roster.Spares agent world.roster docket
          (world.roster.discharge other done.timers) (first ++ second) := by
        refine .of_own ?_ foreign.symm own
        rw [Roster.controller?_discharge, if_neg foreign.symm]
      refine ⟨spares.trans ⟨rfl, rfl, Docket.dueOf_eq_of_others foreign.symm ?_, rfl⟩, rfl⟩
      simp only [Docket.read_cons, Docket.read_nil, Docket.enter, Docket.others,
        List.filter_filter, Bool.and_self]

end World

def Call.Leaves (agent : AgentId) : Call vocabulary → Prop
  | .withAgent other _ | .post other _ _ | .destroy other _ => other ≠ agent
  | .spawn _ _ _ | .spawnWithTree _ _ _ | .run | .runTicks _ => True

def Move.Leaves (agent : AgentId) : Move vocabulary → Prop
  | .call request => request.Leaves agent
  | .touch other _ => other ≠ agent

namespace World

variable {world later : World vocabulary}

namespace Left

private theorem obey {call : Call vocabulary}
    (left : world.Left repertoire agent issued docket controller) (leaves : call.Leaves agent)
    (given : (world.obey repertoire call).Gives later journal)
    (room : issued + journal.countP Entry.isArming ≤ 2 ^ 32 - 1) :
    Fades agent docket controller later journal ∧ later.Unaddressed agent := by
  have answered {α : Type} {answer : Except WorldError (α × World vocabulary)}
      (spares : Roster.Spares agent world.roster docket (world.after answer).roster journal ∧
        (world.after answer).events = world.events) :
      Fades agent docket controller (world.after answer) journal ∧
        (world.after answer).Unaddressed agent := by
    refine ⟨.of_spares spares.1 left.slot, ?_⟩
    unfold Unaddressed
    rw [spares.2]
    exact left.unaddressed
  cases call with
  | spawn state name setup =>
      obtain ⟨answer, spawned, rfl⟩ := Journaled.gives_map.mp given
      exact answered (spares_of_spawn left.slot spawned)
  | spawnWithTree state name tree =>
      obtain ⟨answer, spawned, rfl⟩ := Journaled.gives_map.mp given
      exact answered (spares_of_spawn left.slot spawned)
  | withAgent other program =>
      obtain ⟨answer, ran, rfl⟩ := Journaled.gives_map.mp given
      exact answered (spares_of_withAgent left.keeps leaves ran)
  | post other name payload =>
      obtain ⟨rfl, rfl⟩ := Journaled.gives_pure.mp given
      unfold World.post
      cases world.controller? other with
      | none => exact ⟨.waits left.slot rfl rfl, left.unaddressed⟩
      | some _ =>
          refine ⟨.waits left.slot rfl rfl, fun event member => ?_⟩
          rcases List.mem_append.mp member with before | last
          · exact left.unaddressed event before
          · rw [List.mem_singleton.mp last]
            exact leaves
  | destroy other payload =>
      obtain ⟨answer, destroyed, rfl⟩ := Journaled.gives_map.mp given
      exact answered (spares_of_destroy left.keeps leaves destroyed)
  | run =>
      obtain ⟨⟨noticed, reached⟩, ran, rfl⟩ := Journaled.gives_map.mp given
      exact left.toEnd (Logged.gives_observed.mp ran).1 room
  | runTicks count =>
      obtain ⟨⟨noticed, reached⟩, ran, rfl⟩ := Journaled.gives_map.mp given
      exact left.ticks (Logged.gives_observed.mp ran).1 room

private theorem moves {moves : List (Move vocabulary)}
    (left : world.Left repertoire agent issued docket controller)
    (leaves : ∀ move ∈ moves, move.Leaves agent)
    (given : (world.moves repertoire moves).Gives later journal)
    (room : issued + journal.countP Entry.isArming ≤ 2 ^ 32 - 1) :
    Fades agent docket controller later journal ∧ later.Unaddressed agent := by
  induction moves generalizing world issued docket journal controller with
  | nil =>
      obtain ⟨rfl, rfl⟩ := Journaled.gives_pure.mp given
      exact ⟨.waits left.slot rfl rfl, left.unaddressed⟩
  | cons move moves ih =>
      obtain ⟨first, others⟩ := List.forall_mem_cons.mp leaves
      obtain ⟨middle, early, late, moved, rest, rfl⟩ := Journaled.gives_bind.mp given
      rw [List.countP_append] at room
      have kept := (left.keeps.move moved (by omega)).1
      have stepped : Fades agent docket controller middle early ∧ middle.Unaddressed agent := by
        cases move with
        | call call => exact left.obey first moved (by omega)
        | touch other touch =>
            obtain ⟨rfl, rfl⟩ := Journaled.gives_pure.mp moved
            refine ⟨.waits ?_ rfl rfl, left.unaddressed⟩
            exact (Roster.controller?_mapController _ _ _ _).trans
              ((if_neg (Ne.symm first)).trans left.slot)
      exact left.andThen stepped kept fun _ still => ih still others rest (by omega)

end Left

end World

/-! ### Whose code runs -/

/-- A host that leaves one agent alone. -/
def aloof (vocabulary : Vocabulary) (agent : AgentId) : Etiquette vocabulary where
  spawns _ _ := True
  calls other _ _ := other ≠ agent
  posts other _ _ := other ≠ agent
  destroys other := other ≠ agent

def stillness (repertoire : Repertoire vocabulary) (agent : AgentId) :
    Regime vocabulary (Scene vocabulary) where
  agent? := Scene.agent?
  good _ scene := scene.agent? ≠ some agent
  invariant _ other controller :=
    controller.id = other ∧ (other = agent → repertoire.isPresent controller.agent = false)

private theorem stillness_turn {α : Type} {other : AgentId} {staged : Staged vocabulary α}
    {past : List (Scene vocabulary)} {context : Context vocabulary} (own : staged.IsOwn other)
    (foreign : other ≠ agent) (id : context.controller.id = other) :
    (stillness repertoire agent).Turn past other (staged context) := by
  refine (own past context id).imp (fun _ scene alone => ⟨alone, fun mine => ?_⟩) ?_
  · exact foreign (alone agent mine).symm
  · exact fun _ _ id => ⟨id, fun same => absurd same foreign⟩

private theorem onTimer_still {past : List (Scene vocabulary)} {context : Context vocabulary}
    (fired : TimerHandle) (id : context.controller.id = agent)
    (absent : repertoire.isPresent context.controller.agent = false) :
    (stillness repertoire agent).Turn past agent (repertoire.stagedOnTimer fired context) := by
  unfold Repertoire.stagedOnTimer
  by_cases pending : context.controller.pending = some fired
  · rw [if_pos pending, if_neg (by rw [absent]; exact nofun)]
    exact .pure ⟨id, fun _ => absent⟩
  · rw [if_neg pending]
    refine ⟨.of_all fun scene member _ => ?_, fun reached same => ?_⟩
    · obtain ⟨entry, _, rfl⟩ := List.mem_map.mp member
      exact ⟨nofun, nofun⟩
    · obtain ⟨_, unchanged⟩ := Context.stale_of_onTimer pending (Journaled.gives_of_outcome same)
      rw [unchanged]
      exact ⟨id, fun _ => absent⟩

private theorem upholds_stillness {taken : Nat} (seated : agent.index < taken) :
    repertoire.stager.Upholds (aloof vocabulary agent) (stillness repertoire agent) taken where
  impersonal _ := rfl
  entered _ _ := nofun
  aside kept _ := kept
  spawn _ _ _ _ _ beyond _ := by
    refine stillness_turn (.stage _ _) ?_ rfl
    rintro rfl
    exact Nat.not_lt_of_le beyond seated
  call foreign kept := stillness_turn (.stage _ _) foreign kept.1
  event foreign kept := stillness_turn (.handleEvent _ _) foreign kept.1
  timer := by
    intro past other context fired kept
    by_cases mine : other = agent
    · subst mine
      exact onTimer_still fired kept.1 (kept.2 rfl)
    · exact stillness_turn (.onTimer fired) mine kept.1
  farewell _ foreign kept := stillness_turn (.handleEvent _ _) foreign kept.1
  teardown _ _ := by
    refine ⟨.of_all fun scene member _ => ?_, fun _ _ => trivial⟩
    obtain ⟨entry, _, rfl⟩ := List.mem_map.mp member
    exact ⟨nofun, nofun⟩

namespace World

variable {world later : World vocabulary}

private theorem Left.unseen {moves : List (Move vocabulary)}
    (left : world.Left repertoire agent issued docket controller)
    (leaves : ∀ move ∈ moves, move.Leaves agent) :
    ∀ scene ∈ (world.movesBy repertoire.stager moves).journal, scene.agent? ≠ some agent := by
  have seated : agent.index < world.roster.controllers.size :=
    (Array.getElem?_eq_some_iff.mp (Roster.controller?_eq_some.mp left.slot)).1
  have heeds : world.Heeds (aloof vocabulary agent) (stillness repertoire agent)
      world.roster.controllers.size [] := by
    refine ⟨⟨fun other controller found => ⟨left.keeps.roster.id_eq found, ?_⟩,
      fun _ member => absurd member List.not_mem_nil, Nat.le_refl _⟩, left.unaddressed⟩
    rintro rfl
    cases left.slot.symm.trans found
    exact left.absent
  have allowed : ∀ move ∈ moves,
      (stillness repertoire agent).Admits (aloof vocabulary agent) move := by
    intro move member
    have foreign := leaves move member
    cases move with
    | call request => cases request <;> first | exact trivial | exact foreign
    | touch other touch =>
        exact fun _ controller kept =>
          ⟨(touch.id controller).trans kept.1, fun mine => absurd mine foreign⟩
  intro scene member
  obtain ⟨_, fits⟩ :=
    (heeds.moves (upholds_stillness seated) allowed).entries.exists_of_mem member
  exact fits

/-- An agent that is in its slot but has left, and to which nobody turns from there on: none of its
code runs. If its pending reconsideration comes due in a tick that is stepped, it is reported gone
at that tick, its slot is cleared, and nothing else is ever reported of it; if not, nothing is. All
else of its controller stays what it was. -/
theorem silent_of_moves {start : World vocabulary} {config : Config} {reconsiderNow : Option Span}
    {moves more : List (Move vocabulary)}
    (created : World.create config reconsiderNow = .ok start)
    (reached : (start.moves repertoire moves).outcome = .ok world)
    (slot : world.controller? agent = some controller)
    (absent : repertoire.isPresent controller.agent = false)
    (unaddressed : ∀ event ∈ world.events, event.agent ≠ agent)
    (leaves : ∀ move ∈ more, move.Leaves agent)
    (continued : (world.moves repertoire more).outcome = .ok later)
    (few : (start.moves repertoire moves).armings + (world.moves repertoire more).armings ≤
      2 ^ 32 - 1) :
    let due? := (Context.mk controller world.roster.timers).due?
    let journal := (world.moves repertoire more).journal
    let staged := world.movesBy repertoire.stager more
    staged.reading Scene.entry? = world.moves repertoire more ∧
      (∀ scene ∈ staged.journal, scene.agent? ≠ some agent) ∧
      ((∃ due, due? = some due ∧ .noticed (.tickStart due) ∈ journal ∧
          heard agent journal = [.reconsider due agent .agentGone] ∧
          later.controller? agent = some { controller with scheduler := .idle }) ∨
        (∀ due, due? = some due → .noticed (.tickStart due) ∉ journal) ∧
          heard agent journal = [] ∧ later.controller? agent = some controller) := by
  intro due? journal staged
  unfold Logged.armings at few
  have kept := ((keeps_of_create created).1.moves (Journaled.gives_of_outcome reached)
    (by omega)).1
  have left : world.Left repertoire agent _ _ controller := ⟨kept, slot, absent, unaddressed⟩
  have given := Journaled.gives_of_outcome continued
  obtain ⟨laterKeeps, chronicle⟩ := kept.moves given (by omega)
  have line := (kept.line slot).1
  refine ⟨repertoire.stager_follows.moves world more, left.unseen leaves, ?_⟩
  rcases (left.moves leaves given (by omega)).1 with
    ⟨laterSlot, laterLine, unheard⟩ | ⟨due, pending, stepped, laterSlot, told⟩
  · refine .inr ⟨fun due pending stepped => ?_, unheard, laterSlot⟩
    rw [line, show (Context.mk controller world.roster.timers).due? = some due from pending]
      at laterLine
    obtain ⟨timer, member, _, rfl⟩ := laterKeeps.roster.single.dueOf_eq_some.mp laterLine
    have overdue := ((chronicle.mem_tickStart timer.due).mp stepped).2
    rw [laterKeeps.clock, Tick.lt_def] at overdue
    exact Nat.not_le_of_lt overdue (laterKeeps.due timer member)
  · exact .inl ⟨due, line.symm.trans pending, stepped, told, laterSlot⟩

/-- Two ships patrol, and the hull of one of them is made to be nothing. The other one is attacked
and has its plans changed while the wreck drifts. -/
theorem silent_of_moves_patrol :
    let ada : AgentId := ⟨0, by decide⟩
    let grace : AgentId := ⟨1, by decide⟩
    let sink : Touch Patrol.ships := .ofState fun ship => { ship with hull := 0 }
    let moves : List (Move Patrol.ships) :=
      [.call (.spawn (.fresh "Ada") "patrol" Patrol.start),
        .call (.spawn (.fresh "Grace") "patrol" Patrol.start), .call (.runTicks 2),
        .touch ada sink]
    let more : List (Move Patrol.ships) :=
      [.call (.post grace Patrol.shipBeingAttacked ⟨"Krait", 70⟩), .call (.runTicks 2),
        .call (.withAgent grace (Program.request (.schedule (Patrol.seconds 2)))),
        .call (.runTicks 12)]
    ∃ start world controller later, World.create .standard none = .ok start ∧
      (start.moves Patrol.repertoire moves).outcome = .ok world ∧
      world.controller? ada = some controller ∧ controller.agent.hull = 0 ∧
      (world.moves Patrol.repertoire more).outcome = .ok later ∧
      (∀ scene ∈ (world.movesBy Patrol.repertoire.stager more).journal,
        scene.agent? ≠ some ada) ∧
      heard ada (world.moves Patrol.repertoire more).journal =
        [.reconsider ⟨13, by decide⟩ ada .agentGone] ∧
      later.controller? ada = some { controller with scheduler := .idle } := by
  intro ada grace sink moves more
  have leaves : ∀ move ∈ more, move.Leaves ada := by
    intro move member
    simp only [more, List.mem_cons, List.not_mem_nil, or_false] at member
    have foreign : grace ≠ ada := by decide
    rcases member with rfl | rfl | rfl | rfl
    · exact foreign
    · exact trivial
    · exact foreign
    · exact trivial
  obtain ⟨start, created, rest⟩ : ∃ start, World.create .standard none = .ok start ∧
      ((start.moves Patrol.repertoire moves).outcome.toOption.any fun world =>
        (world.controller? ada).any fun controller =>
        (world.moves Patrol.repertoire more).outcome.toOption.any fun _ =>
          decide (controller.agent.hull = 0 ∧ (∀ event ∈ world.events, event.agent ≠ ada) ∧
            (start.moves Patrol.repertoire moves).armings +
                (world.moves Patrol.repertoire more).armings ≤ 2 ^ 32 - 1 ∧
            heard ada (world.moves Patrol.repertoire more).journal =
              [.reconsider ⟨13, by decide⟩ ada .agentGone])) = true :=
    exists_ok (by decide +kernel)
  obtain ⟨world, reached, rest⟩ := exists_ok rest
  obtain ⟨controller, slot, rest⟩ := (Option.any_eq_true _ _).mp rest
  obtain ⟨later, continued, facts⟩ := exists_ok rest
  obtain ⟨sunk, unaddressed, few, told⟩ := of_decide_eq_true facts
  have absent : Patrol.repertoire.isPresent controller.agent = false := by
    change decide (0 < controller.agent.hull) = false
    rw [sunk]
    rfl
  obtain ⟨_, unseen, fate⟩ :=
    silent_of_moves created reached slot absent unaddressed leaves continued few
  refine ⟨start, world, controller, later, created, reached, slot, sunk, continued, unseen, told,
    ?_⟩
  rcases fate with ⟨_, _, _, _, idle⟩ | ⟨_, unheard, _⟩
  · exact idle
  · exact absurd (told.symm.trans unheard) (List.cons_ne_nil _ _)

end World

end PriorityAgents
