import PriorityAgents.Proofs.World.Keeping

/-!
What a host may do with a world, one call after another.

A call that the world refuses leaves it as it was. A fault in any call is the end of a play.
-/

set_option autoImplicit false

namespace PriorityAgents

/-- What a host may ask of a world between two ticks. -/
inductive Call (vocabulary : Vocabulary) : Type 1 where
  | spawn (agent : vocabulary.State) (name : String) (setup : Program vocabulary Unit)
  | spawnWithTree (agent : vocabulary.State) (name : String) (tree : PriorityTree vocabulary)
  | withAgent {α : Type} (agent : AgentId) (program : Program vocabulary α)
  | post (agent : AgentId) (name : EventName) (payload : vocabulary.Payload)
  | destroy (agent : AgentId) (payload : vocabulary.Payload)
  | run
  | runTicks (count : Nat)

namespace World

variable {vocabulary : Vocabulary} {world later : World vocabulary} {journal : List Entry}
  {issued : Nat} {docket : Docket} {agent : AgentId} {repertoire : Repertoire vocabulary}

def after {α : Type} (world : World vocabulary) :
    Except WorldError (α × World vocabulary) → World vocabulary
  | .ok (_, later) => later
  | .error _ => world

def obey (repertoire : Repertoire vocabulary) (world : World vocabulary) :
    Call vocabulary → Logged (World vocabulary)
  | .spawn agent name setup => world.after <$> world.spawn repertoire agent name setup
  | .spawnWithTree agent name tree => world.after <$> world.spawnWithTree repertoire agent name tree
  | .withAgent agent program => world.after <$> world.withAgent repertoire agent program
  | .post agent name payload =>
      pure (world.after ((world.post agent name payload).map fun later => ((), later)))
  | .destroy agent payload => world.after <$> world.destroy repertoire agent payload
  | .run => Prod.snd <$> world.run repertoire
  | .runTicks count => Prod.snd <$> world.runTicks repertoire count

def play (repertoire : Repertoire vocabulary) (world : World vocabulary) :
    List (Call vocabulary) → Logged (World vocabulary)
  | [] => pure world
  | call :: calls => do
      let later ← world.obey repertoire call
      later.play repertoire calls

/-! ### What the calls answer -/

def newcomer (world : World vocabulary) (id : AgentId) (agent : vocabulary.State) (name : String) :
    Context vocabulary where
  controller := Controller.start id name agent world.config.seed world.reconsiderNow
  timers := (world.roster.advanceTo world.clock.now).timers

theorem gives_spawn {name : String} {state : vocabulary.State} {setup : Program vocabulary Unit}
    {answer : Except WorldError (AgentId × World vocabulary)} :
    (world.spawn repertoire state name setup).Gives answer journal ↔
      match agentIdFor world.roster.controllers.size with
      | .error cause => answer = .error cause ∧ journal = []
      | .ok id => ∃ done entries,
          ((world.newcomer id state name).run repertoire setup).Gives ((), done) entries ∧
          answer = .ok (id, { world with
            roster := (world.roster.advanceTo world.clock.now).enlist done }) ∧
          journal = entries ++ [.told
            { severity := .debug
              message := "agent spawned"
              fields := [("agent", done.controller.id.text), ("ai", done.controller.name)] }] := by
  unfold spawn
  cases agentIdFor world.roster.controllers.size with
  | error cause =>
      simp only [Journaled.gives_pure, eq_comm (a := answer)]
  | ok id =>
      simp only [Journaled.gives_bind, Context.gives_report, Journaled.gives_pure, Prod.exists]
      constructor
      · intro given
        rcases given with ⟨_, done, entries, _, ran, ⟨_, _, _, rfl, ⟨rfl, rfl⟩, rfl⟩, rfl⟩
        exact ⟨done, entries, ran, rfl, rfl⟩
      · intro given
        rcases given with ⟨done, entries, ran, rfl, rfl⟩
        exact ⟨(), done, entries, _, ran, ⟨(), _, _, rfl, ⟨rfl, rfl⟩, rfl⟩, rfl⟩

theorem gives_withAgent {α : Type} {program : Program vocabulary α}
    {answer : Except WorldError (α × World vocabulary)} :
    (world.withAgent repertoire agent program).Gives answer journal ↔
      match (world.roster.advanceTo world.clock.now).context? agent with
      | none => answer = .error (.agentNotFound agent) ∧ journal = []
      | some context => ∃ reply done,
          (context.run repertoire program).Gives (reply, done) journal ∧
          answer = .ok (reply, { world with roster := world.roster.keep agent done }) := by
  unfold withAgent
  cases (world.roster.advanceTo world.clock.now).context? agent with
  | none => simp only [Journaled.gives_pure, eq_comm (a := answer)]
  | some context =>
      simp only [Journaled.gives_bind, Journaled.gives_pure, Prod.exists]
      constructor
      · intro given
        rcases given with ⟨reply, done, entries, _, ran, ⟨rfl, rfl⟩, rfl⟩
        rw [List.append_nil]
        exact ⟨reply, done, ran, rfl⟩
      · intro given
        rcases given with ⟨reply, done, ran, rfl⟩
        exact ⟨reply, done, journal, [], ran, ⟨rfl, rfl⟩, (List.append_nil _).symm⟩

theorem gives_destroy {payload : vocabulary.Payload}
    {answer : Except WorldError (Controller vocabulary × World vocabulary)} :
    (world.destroy repertoire agent payload).Gives answer journal ↔
      match world.roster.context? agent with
      | none => answer = .error (.agentNotFound agent) ∧ journal = []
      | some context => ∃ handled told done first second,
          (context.handleEvent repertoire .entityDestroyed payload).Gives (handled, told) first ∧
          told.teardown.Gives done second ∧
          answer = .ok (done.controller,
            { world with roster := world.roster.discharge agent done.timers }) ∧
          journal = (first ++ second) ++ [.destroyed agent done.controller.name] := by
  unfold destroy
  cases world.roster.context? agent with
  | none => simp only [Journaled.gives_pure, eq_comm (a := answer)]
  | some context =>
      simp only [Journaled.gives_bind, Journaled.gives_enter, Journaled.gives_pure, Prod.exists]
      constructor
      · intro given
        rcases given with ⟨handled, told, first, _, ran, ⟨done, second, _, torn, ⟨_, _, _, rfl,
          ⟨rfl, rfl⟩, rfl⟩, rfl⟩, rfl⟩
        exact ⟨handled, told, done, first, second, ran, torn, rfl, (List.append_assoc _ _ _).symm⟩
      · intro given
        rcases given with ⟨handled, told, done, first, second, ran, torn, rfl, rfl⟩
        exact ⟨handled, told, first, _, ran, ⟨done, second, _, torn,
          ⟨(), _, _, rfl, ⟨rfl, rfl⟩, rfl⟩, rfl⟩, List.append_assoc _ _ _⟩

theorem isValid_iff {agent : AgentId} : agent.isValid = true ↔ agent.index < 2 ^ 32 - 1 := by
  have bound := agent.index_lt
  unfold AgentId.isValid
  rw [decide_eq_true_eq, ne_eq, AgentId.ext_iff]
  change agent.index ≠ 2 ^ 32 - 1 ↔ _
  omega

theorem agentIdFor_eq_ok {slot : Nat} {id : AgentId} :
    agentIdFor slot = .ok id ↔ id.index = slot ∧ slot < 2 ^ 32 - 1 := by
  unfold agentIdFor AgentId.ofIndex?
  by_cases fits : slot < 2 ^ 32
  · simp only [dif_pos fits]
    constructor
    · intro given
      split at given
      · rename_i valid
        cases given
        exact ⟨rfl, isValid_iff.mp valid⟩
      · cases given
    · intro given
      rcases given with ⟨rfl, below⟩
      exact if_pos (isValid_iff.mpr below)
  · simp only [dif_neg fits]
    constructor
    · intro given
      cases given
    · intro given
      rcases given with ⟨_, below⟩
      omega

/-! ### What the calls keep -/

namespace Keeps

private theorem worked {roster : Roster vocabulary} (keeps : world.Keeps issued docket)
    (kept : roster.Keeps (issued + journal.countP Entry.isArming) (docket.read journal) [])
    (routine : ∀ entry ∈ journal, entry.IsRoutine world.clock.now)
    (ahead : ∀ agent handle delay, .scheduled agent handle delay ∈ journal →
      docket.clock.now < docket.clock.tickAfter delay) :
    ({ world with roster } : World vocabulary).Keeps (issued + journal.countP Entry.isArming)
      (docket.read journal) := by
  have sameClock := (docket.read_routine routine).1.trans keeps.clock
  have sameNow : roster.timers.now = world.clock.now :=
    congrArg Clock.now (kept.clock.trans sameClock)
  refine
    { clock := sameClock
      roster := ?_
      behind := Nat.le_of_eq (congrArg Tick.index sameNow)
      close := ?_
      due := ?_ }
  · have moved := kept.advanceTo world.clock.now
    rw [sameClock, latest_of_le (Nat.le_refl _)] at moved
    have line : docket.read journal = ⟨world.clock, (docket.read journal).timers⟩ :=
      Docket.ext sameClock rfl
    rw [line]
    exact moved
  · change world.clock.now.index ≤ roster.timers.now.index + 1
    rw [sameNow]
    exact Nat.le_succ _
  · intro timer member
    change world.clock.now ≤ timer.due
    rcases docket.read_ahead routine ahead timer member with before | later
    · exact keeps.due timer before
    · rw [← keeps.clock]
      exact Nat.le_of_lt later

theorem newcomer {id : AgentId} (keeps : world.Keeps issued docket)
    (next : id.index = world.roster.controllers.size) (state : vocabulary.State) (name : String) :
    (world.newcomer id state name).Keeps issued docket := by
  refine ⟨keeps.roster.clock, keeps.roster.holds, ?_⟩
  intro handle
  constructor
  · intro impossible
    cases impossible
  · intro given
    rcases given with ⟨timer, member, mine, sameHandle⟩
    have slot := (keeps.roster.pending id handle).mpr ⟨timer, member, mine, sameHandle⟩
    obtain ⟨controller, occupied, _⟩ := Option.bind_eq_some_iff.mp slot
    have found := (Array.getElem?_eq_some_iff.mp (Roster.controller?_eq_some.mp occupied)).1
    exact absurd next (Nat.ne_of_lt found)

theorem spawn {name : String} {state : vocabulary.State} {setup : Program vocabulary Unit}
    {answer : Except WorldError (AgentId × World vocabulary)} (keeps : world.Keeps issued docket)
    (given : (world.spawn repertoire state name setup).Gives answer journal)
    (room : issued + journal.countP Entry.isArming ≤ 2 ^ 32 - 1) :
    (world.after answer).Keeps (issued + journal.countP Entry.isArming) (docket.read journal) ∧
      docket.Chronicle journal := by
  have outcome := gives_spawn.mp given
  cases free : agentIdFor world.roster.controllers.size with
  | error cause =>
      rw [free] at outcome
      obtain ⟨rfl, rfl⟩ := outcome
      exact ⟨keeps, .nil docket⟩
  | ok id =>
      rw [free] at outcome
      obtain ⟨done, entries, ran, rfl, rfl⟩ := outcome
      have index := (agentIdFor_eq_ok.mp free).1
      have begun := keeps.newcomer index state name
      have works := (Context.Works.run ran).trans
        (Context.Works.told done (Record.mk .debug "agent spawned" [("agent",
          done.controller.id.text), ("ai", done.controller.name)]))
      have kept := keeps.roster.enlist index begun works room
      obtain ⟨routine, ahead, _⟩ := Roster.routine_of_works begun works world.clock.now
      exact ⟨keeps.worked kept routine ahead,
        .of_between fun entry member => (works.own entry member).isBetween⟩

theorem withAgent {α : Type} {program : Program vocabulary α}
    {answer : Except WorldError (α × World vocabulary)} (keeps : world.Keeps issued docket)
    (given : (world.withAgent repertoire agent program).Gives answer journal)
    (room : issued + journal.countP Entry.isArming ≤ 2 ^ 32 - 1) :
    (world.after answer).Keeps (issued + journal.countP Entry.isArming) (docket.read journal) ∧
      docket.Chronicle journal := by
  have outcome := gives_withAgent.mp given
  cases found : (world.roster.advanceTo world.clock.now).context? agent with
  | none =>
      rw [found] at outcome
      obtain ⟨rfl, rfl⟩ := outcome
      exact ⟨keeps, .nil docket⟩
  | some context =>
      rw [found] at outcome
      obtain ⟨reply, done, ran, rfl⟩ := outcome
      have works := Context.Works.run ran
      obtain ⟨id, begun⟩ := keeps.roster.atWork found
      obtain ⟨routine, ahead, _⟩ := Roster.routine_of_works begun works world.clock.now
      have kept := keeps.roster.keep [] nofun nofun (Roster.context?_eq_some.mp found).1 id begun
        works room
      exact ⟨keeps.worked kept routine ahead,
        .of_between fun entry member => (works.own entry member).isBetween⟩

/-- The last words of an agent are spoken where the timers stand, which may be a tick behind the
clock. Whatever it asks for then is called off before it is gone. -/
theorem destroy {payload : vocabulary.Payload}
    {answer : Except WorldError (Controller vocabulary × World vocabulary)}
    (keeps : world.Keeps issued docket)
    (given : (world.destroy repertoire agent payload).Gives answer journal)
    (room : issued + journal.countP Entry.isArming ≤ 2 ^ 32 - 1) :
    (world.after answer).Keeps (issued + journal.countP Entry.isArming) (docket.read journal) ∧
      docket.Chronicle journal := by
  have outcome := gives_destroy.mp given
  cases found : world.roster.context? agent with
  | none =>
      rw [found] at outcome
      obtain ⟨rfl, rfl⟩ := outcome
      exact ⟨keeps, .nil docket⟩
  | some context =>
      rw [found] at outcome
      obtain ⟨handled, told, done, first, second, ran, torn, rfl, rfl⟩ := outcome
      have works := (Context.Works.handleEvent ran).trans (Context.Works.teardown torn)
      have unmoved : world.roster.Keeps issued
          { docket with clock := world.roster.timers.clock } [] :=
        ⟨rfl, keeps.roster.holds.of_advanceTo, keeps.roster.slots, keeps.roster.owners,
          keeps.roster.pending⟩
      obtain ⟨id, begun⟩ := unmoved.atWork found
      have armings : ((first ++ second) ++ [Entry.destroyed agent done.controller.name]).countP
          Entry.isArming = (first ++ second).countP Entry.isArming := by
        rw [List.countP_append]
        rfl
      have idle := Context.pending_of_teardown torn
      obtain ⟨clock, same⟩ := docket.read_own works.own
      rw [id] at same
      have struck : docket.read ((first ++ second) ++ [.destroyed agent done.controller.name]) =
          ⟨docket.clock, docket.others agent⟩ := by
        rw [Docket.read_append]
        exact Docket.ext clock same
      rw [armings] at room ⊢
      rw [struck]
      have kept := (unmoved.discharge id begun works idle room).advanceTo world.clock.now
      have timersClock : done.timers.clock = world.roster.timers.clock :=
        works.clock.trans begun.clock
      refine ⟨?_, .of_between ?_⟩
      · refine
          { clock := keeps.clock
            roster := ?_
            behind := ?_
            close := ?_
            due := ?_ }
        · have standing := keeps.roster.clock
          change ({ world.roster.timers.clock with
            now := world.roster.timers.clock.now.latest world.clock.now } : Clock) = _ at standing
          rw [← standing]
          exact kept
        · change done.timers.clock.now ≤ world.clock.now
          rw [timersClock]
          exact keeps.behind
        · change world.clock.now.index ≤ done.timers.clock.now.index + 1
          rw [timersClock]
          exact keeps.close
        · intro timer member
          exact keeps.due timer (Docket.mem_others.mp member).1
      · intro entry member
        rcases List.mem_append.mp member with early | late
        · exact (works.own entry early).isBetween
        · rw [List.mem_singleton.mp late]
          exact trivial

theorem obey {call : Call vocabulary} (keeps : world.Keeps issued docket)
    (given : (world.obey repertoire call).Gives later journal)
    (room : issued + journal.countP Entry.isArming ≤ 2 ^ 32 - 1) :
    later.Keeps (issued + journal.countP Entry.isArming) (docket.read journal) ∧
      docket.Chronicle journal := by
  cases call with
  | spawn agent name setup =>
      obtain ⟨answer, spawned, rfl⟩ := Journaled.gives_map.mp given
      exact keeps.spawn spawned room
  | spawnWithTree agent name tree =>
      obtain ⟨answer, spawned, rfl⟩ := Journaled.gives_map.mp given
      exact keeps.spawn spawned room
  | withAgent agent program =>
      obtain ⟨answer, ran, rfl⟩ := Journaled.gives_map.mp given
      exact keeps.withAgent ran room
  | post agent name payload =>
      obtain ⟨rfl, rfl⟩ := Journaled.gives_pure.mp given
      refine ⟨?_, .nil docket⟩
      unfold World.post
      cases world.controller? agent with
      | none => exact keeps
      | some controller => exact ⟨keeps.clock, keeps.roster, keeps.behind, keeps.close, keeps.due⟩
  | destroy agent payload =>
      obtain ⟨answer, destroyed, rfl⟩ := Journaled.gives_map.mp given
      exact keeps.destroy destroyed room
  | run =>
      obtain ⟨⟨noticed, reached⟩, ran, rfl⟩ := Journaled.gives_map.mp given
      exact keeps.toEnd (Logged.gives_observed.mp ran).1 room
  | runTicks count =>
      obtain ⟨⟨noticed, reached⟩, ran, rfl⟩ := Journaled.gives_map.mp given
      exact keeps.ticks (Logged.gives_observed.mp ran).1 room

theorem play {calls : List (Call vocabulary)} (keeps : world.Keeps issued docket)
    (given : (world.play repertoire calls).Gives later journal)
    (room : issued + journal.countP Entry.isArming ≤ 2 ^ 32 - 1) :
    later.Keeps (issued + journal.countP Entry.isArming) (docket.read journal) ∧
      docket.Chronicle journal := by
  induction calls generalizing world issued docket journal with
  | nil =>
      obtain ⟨rfl, rfl⟩ := Journaled.gives_pure.mp given
      exact ⟨keeps, .nil docket⟩
  | cons call calls ih =>
      obtain ⟨middle, first, second, obeyed, rest, rfl⟩ := Journaled.gives_bind.mp given
      rw [List.countP_append] at room ⊢
      obtain ⟨kept, early⟩ := keeps.obey obeyed (by omega)
      obtain ⟨laterKeeps, late⟩ := ih kept rest (by omega)
      rw [Docket.read_append, ← Nat.add_assoc]
      exact ⟨laterKeeps, early.append late⟩

end Keeps

end World

end PriorityAgents
