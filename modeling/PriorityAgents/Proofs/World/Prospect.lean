import PriorityAgents.Patrol.Rules
import PriorityAgents.Proofs.World.Outlook

/-!
What agents have in prospect, in the course of a world.

A tree that is put to use is walked when the delay has passed that was asked for with it, or the
delay of a rule that is chosen later in the same walk. Until then no tick is left out, and there is
no other walk, unless the agent's own code asks for something else or the agent is taken out of
service.
-/

set_option autoImplicit false

namespace PriorityAgents

variable {vocabulary : Vocabulary} {α : Type} {repertoire : Repertoire vocabulary}
  {docket : Docket} {history earlier rest segment : List (Incident vocabulary)} {agent : AgentId}
  {issued : Nat}

namespace World

variable {world later : World vocabulary}

private theorem gives_attestedTick :
    (world.attestedTick repertoire).Gives later history ↔
      ∃ delivering firing fired middle roster clock,
        ((world.roster.advanceTo world.clock.now).attestedDeliverAll repertoire world.clock.now
          world.events).Gives middle delivering ∧
        (middle.attestedFire repertoire world.clock.now).Gives (fired, roster) firing ∧
        world.clock.advance = .ok clock ∧
        later = { world with roster, clock, events := [] } ∧
        history = [.entered (.noticed (.tickStart world.clock.now))] ++ delivering ++ firing ++
          [.entered (.noticed (.tickEnd world.clock.now fired))] := by
  simp only [attestedTick, Journaled.gives_bind, Testimony.gives_carry, Logged.gives_notify,
    Journaled.gives_lift, Journaled.gives_pure, Prod.exists]
  constructor
  · rintro ⟨_, _, _, ⟨_, rfl, rfl⟩, ⟨middle, delivering, _, delivered, ⟨fired, roster, firing, _,
      fires, ⟨_, _, _, ⟨_, rfl, rfl⟩, ⟨clock, _, _, ⟨advanced, rfl⟩, ⟨rfl, rfl⟩, rfl⟩, rfl⟩, rfl⟩,
      rfl⟩, rfl⟩
    exact ⟨delivering, firing, fired, middle, roster, clock, delivered, fires, advanced, rfl,
      by simp⟩
  · rintro ⟨delivering, firing, fired, middle, roster, clock, delivered, fires, advanced, rfl, rfl⟩
    exact ⟨(), _, _, ⟨_, rfl, rfl⟩, ⟨middle, delivering, _, delivered, ⟨fired, roster, firing, _,
      fires, ⟨(), _, _, ⟨_, rfl, rfl⟩, ⟨clock, _, _, ⟨advanced, rfl⟩, ⟨rfl, rfl⟩, rfl⟩, rfl⟩, rfl⟩,
      rfl⟩, by simp⟩

private theorem Keeps.delivered {middle : Roster vocabulary} {journal : List Entry}
    (keeps : world.Keeps issued docket)
    (delivered : ((world.roster.advanceTo world.clock.now).deliverAll repertoire world.clock.now
      world.events).Gives middle journal)
    (room : issued + journal.countP Entry.isArming ≤ 2 ^ 32 - 1) :
    middle.Keeps (issued + journal.countP Entry.isArming) (docket.read journal) [] ∧
      (docket.read journal).clock.now = world.clock.now ∧
      ∀ timer ∈ (docket.read journal).timers, world.clock.now ≤ timer.due := by
  have served := Roster.deliverAll_served keeps.roster delivered room
  refine ⟨served.keeps, congrArg Clock.now (served.clock.trans keeps.clock), ?_⟩
  intro timer member
  rcases served.due timer member with before | ahead
  · exact keeps.due timer before
  · rw [keeps.clock] at ahead
    exact Nat.le_of_lt ahead

/-- The world is in order, and so is what its agents have in prospect. -/
structure Honours (repertoire : Repertoire vocabulary) (world : World vocabulary) (issued : Nat)
    (docket : Docket) (history : List (Incident vocabulary)) : Prop where
  keeps : world.Keeps issued docket
  roster : world.roster.Honours repertoire docket [] history

namespace Honours

private theorem create {config : Config} {reconsiderNow : Option Span}
    (created : World.create config reconsiderNow = .ok world) :
    world.Honours repertoire 0 ⟨world.clock, []⟩ [] where
  keeps := (keeps_of_create created).1
  roster := ⟨nofun, trivial⟩

private theorem tick (honours : world.Honours repertoire issued docket history)
    (given : (world.attestedTick repertoire).Gives later segment)
    (room : issued + (plain segment).countP Entry.isArming ≤ 2 ^ 32 - 1) :
    later.Honours repertoire (issued + (plain segment).countP Entry.isArming)
      (docket.read (plain segment)) (history ++ segment) := by
  have keeps := honours.keeps
  have ticked := world.unattested_tick repertoire ▸ Testimony.gives_plain given
  have kept := (keeps.tick ticked room).1
  refine ⟨kept, ?_⟩
  obtain ⟨delivering, firing, fired, middle, roster, clock, delivered, fires, advanced, rfl, rfl⟩ :=
    gives_attestedTick.mp given
  simp only [plain_append, List.countP_append] at room
  have begins := honours.roster.enter (.noticed (.tickStart world.clock.now)) rfl rfl rfl
  have begun : (world.roster.advanceTo world.clock.now).Honours repertoire docket []
      (history ++ [.entered (.noticed (.tickStart world.clock.now))]) :=
    ⟨begins.expects, begins.fulfilled⟩
  have plainly := Roster.unattested_deliverAll repertoire world.clock.now _ world.events ▸
    Testimony.gives_plain delivered
  obtain ⟨still, standing, notOverdue⟩ := keeps.delivered plainly (by omega)
  have first := Roster.honours_deliverAll begun keeps.roster delivered (by omega)
  have second := Roster.honours_fire first still standing notOverdue fires (by omega)
  have read : docket.read (plain ([.entered (.noticed (.tickStart world.clock.now))] ++
      delivering ++ firing ++ [.entered (.noticed (.tickEnd world.clock.now fired))])) =
      ((docket.read (plain delivering)).read (plain firing)).enter
        (.noticed (.tickEnd world.clock.now fired)) := by
    simp only [plain_append, Docket.read_append]
    rfl
  have due := kept.due
  rw [read] at due ⊢
  have last := second.expects.enter (.noticed (.tickEnd world.clock.now fired)) rfl
  have ended : Fulfilled repertoire []
      (history ++ [.entered (.noticed (.tickStart world.clock.now))] ++ delivering ++ firing ++
        [.entered (.noticed (.tickEnd world.clock.now fired))]) := by
    refine second.fulfilled.append ⟨?_, trivial⟩
    intro agent held known
    obtain ⟨_, _, _, timer, member, _, same⟩ := second.expects agent held known
    have ahead := due timer member
    rw [Tick.le_def, same] at ahead
    have next := (Clock.eq_next_of_advance advanced).2
    change clock.now.index ≤ held.due.index at ahead
    rw [Tick.lt_def]
    omega
  simp only [List.append_assoc] at last ended ⊢
  exact ⟨last, ended⟩

private theorem ticks {count : Nat} (honours : world.Honours repertoire issued docket history)
    (given : (world.attestedTicks repertoire count).Gives later segment)
    (room : issued + (plain segment).countP Entry.isArming ≤ 2 ^ 32 - 1) :
    later.Honours repertoire (issued + (plain segment).countP Entry.isArming)
      (docket.read (plain segment)) (history ++ segment) := by
  induction count generalizing world issued docket history segment with
  | zero =>
      obtain ⟨rfl, rfl⟩ := Journaled.gives_pure.mp given
      rw [List.append_nil]
      exact honours
  | succ count ih =>
      obtain ⟨middle, first, second, ticked, rest, rfl⟩ := Journaled.gives_bind.mp given
      rw [plain_append, List.countP_append] at room ⊢
      rw [Docket.read_append, ← Nat.add_assoc, ← List.append_assoc]
      exact ih (honours.tick ticked (by omega)) rest (by omega)

private theorem toEnd (honours : world.Honours repertoire issued docket history)
    (given : (world.attestedToEnd repertoire).Gives later segment)
    (room : issued + (plain segment).countP Entry.isArming ≤ 2 ^ 32 - 1) :
    later.Honours repertoire (issued + (plain segment).countP Entry.isArming)
      (docket.read (plain segment)) (history ++ segment) := by
  have ended := world.unattested_toEnd repertoire ▸ Testimony.gives_plain given
  refine ⟨(honours.keeps.toEnd ended room).1, ?_⟩
  obtain ⟨reached, first, _, ticked, told, rfl⟩ := Journaled.gives_bind.mp given
  obtain ⟨_, _, _, noted, final, rfl⟩ := Journaled.gives_bind.mp told
  obtain ⟨rfl, rfl⟩ := Journaled.gives_pure.mp final
  obtain ⟨_, notified, rfl⟩ := Testimony.gives_carry.mp noted
  rw [Logged.gives_notify.mp notified] at room ⊢
  rw [plain_append, List.countP_append] at room
  have later := (honours.ticks ticked (by omega)).roster.enter
    (.noticed (.runEnd reached.clock.now)) rfl rfl rfl
  rw [List.append_nil, plain_append, Docket.read_append, ← List.append_assoc]
  exact later

private theorem newcomer {id : AgentId} (honours : world.Honours repertoire issued docket history)
    (next : id.index = world.roster.controllers.size) : outlook id none history = none := by
  cases known : outlook id none history with
  | none => rfl
  | some held =>
      obtain ⟨controller, occupied, _⟩ := honours.roster.expects id held known
      have within := (Array.getElem?_eq_some_iff.mp (Roster.controller?_eq_some.mp occupied)).1
      exact absurd next (Nat.ne_of_lt within)

private theorem spawn {name : String} {state : vocabulary.State} {setup : Program vocabulary Unit}
    (honours : world.Honours repertoire issued docket history)
    (given : (world.attestedSpawn repertoire state name setup).Gives later segment)
    (room : issued + (plain segment).countP Entry.isArming ≤ 2 ^ 32 - 1) :
    later.Honours repertoire (issued + (plain segment).countP Entry.isArming)
      (docket.read (plain segment)) (history ++ segment) := by
  have spawned := world.unattested_spawn repertoire state name setup ▸ Testimony.gives_plain given
  obtain ⟨answer, answered, rfl⟩ := Journaled.gives_map.mp spawned
  refine ⟨(honours.keeps.spawn answered room).1, ?_⟩
  unfold attestedSpawn at given
  cases free : agentIdFor world.roster.controllers.size with
  | error cause =>
      rw [free] at given
      obtain ⟨same, rfl⟩ := Journaled.gives_pure.mp given
      rw [List.append_nil, ← same]
      exact honours.roster
  | ok id =>
      rw [free] at given
      have index := (agentIdFor_eq_ok.mp free).1
      obtain ⟨⟨_, done⟩, working, _, set, rest, rfl⟩ := Journaled.gives_bind.mp given
      obtain ⟨_, told, _, reported, last, rfl⟩ := Journaled.gives_bind.mp rest
      obtain ⟨same, rfl⟩ := Journaled.gives_pure.mp last
      obtain ⟨_, said, rfl⟩ := Testimony.gives_carry.mp reported
      rw [Context.gives_report.mp said, ← same]
      have accounts : (world.newcomer id state name).Accounts False done working :=
        Attested.Accounted.attest repertoire .call setup _ _ done working set
      -- Nobody has had this slot before, so the account says nothing of its agent.
      have nothing : (world.newcomer id state name).Expects docket (outlook id none history) := by
        rw [honours.newcomer index]
        exact nofun
      have next : done.controller.id.index = world.roster.controllers.size :=
        (congrArg AgentId.index accounts.id).trans index
      have slot (other : AgentId) :
          ((world.roster.advanceTo world.clock.now).enlist done).controller? other =
            if other = done.controller.id then some done.controller
            else (world.roster.advanceTo world.clock.now).controller? other :=
        Roster.controller?_enlist next other
      have worked : ((world.roster.advanceTo world.clock.now).enlist done).Honours repertoire
          (docket.read (plain working)) [] (history ++ working) := by
        refine ⟨?_, honours.roster.fulfilled.append (.own accounts.own nofun)⟩
        refine honours.roster.expects.worked rfl
          (honours.keeps.newcomer index state name).clock.symm accounts nofun nothing nofun ?_ ?_
        · intro other foreign
          rw [slot, if_neg (accounts.id ▸ foreign)]
          rfl
        · intro _ _
          rw [slot, if_pos accounts.id.symm]
      rw [List.append_nil, plain_append, plain_entered, Docket.read_append, ← List.append_assoc]
      exact worked.enter (.told _) rfl rfl rfl

private theorem withAgent {program : Program vocabulary α}
    (honours : world.Honours repertoire issued docket history)
    (given : (world.attestedWithAgent repertoire agent program).Gives later segment)
    (room : issued + (plain segment).countP Entry.isArming ≤ 2 ^ 32 - 1) :
    later.Honours repertoire (issued + (plain segment).countP Entry.isArming)
      (docket.read (plain segment)) (history ++ segment) := by
  have ran := world.unattested_withAgent repertoire agent program ▸ Testimony.gives_plain given
  obtain ⟨answer, answered, rfl⟩ := Journaled.gives_map.mp ran
  refine ⟨(honours.keeps.withAgent answered room).1, ?_⟩
  unfold attestedWithAgent at given
  cases found : (world.roster.advanceTo world.clock.now).context? agent with
  | none =>
      rw [found] at given
      obtain ⟨same, rfl⟩ := Journaled.gives_pure.mp given
      rw [List.append_nil, ← same]
      exact honours.roster
  | some context =>
      rw [found] at given
      obtain ⟨⟨reply, done⟩, working, _, worked, last, rfl⟩ := Journaled.gives_bind.mp given
      obtain ⟨same, rfl⟩ := Journaled.gives_pure.mp last
      have accounts : context.Accounts False done working :=
        Attested.Accounted.attest repertoire .call program context reply done working worked
      have advanced : (world.roster.advanceTo world.clock.now).Honours repertoire docket []
          history := ⟨honours.roster.expects, honours.roster.fulfilled⟩
      have kept := advanced.keep honours.keeps.roster found accounts id
      rw [List.append_nil, ← same]
      exact ⟨kept.expects, kept.fulfilled⟩

private theorem outlook_of_teardown {context done : Context vocabulary} {answer : Unit}
    (id : context.controller.id = agent)
    (torn : (Attested.teardown context).Gives (answer, done) segment)
    (held : Option (Prospect vocabulary)) : outlook agent held segment = none := by
  obtain ⟨journal, _, rfl⟩ := Attested.gives_teardown.mp torn
  change outlook agent (Incident.prospect agent held (.tornDown context)) _ = none
  rw [outlook_entered]
  exact if_pos id

private theorem destroy {payload : vocabulary.Payload}
    (honours : world.Honours repertoire issued docket history)
    (given : (world.attestedDestroy repertoire agent payload).Gives later segment)
    (room : issued + (plain segment).countP Entry.isArming ≤ 2 ^ 32 - 1) :
    later.Honours repertoire (issued + (plain segment).countP Entry.isArming)
      (docket.read (plain segment)) (history ++ segment) := by
  have left := world.unattested_destroy repertoire agent payload ▸ Testimony.gives_plain given
  obtain ⟨answer, answered, rfl⟩ := Journaled.gives_map.mp left
  refine ⟨(honours.keeps.destroy answered room).1, ?_⟩
  unfold attestedDestroy at given
  cases found : world.roster.context? agent with
  | none =>
      rw [found] at given
      obtain ⟨same, rfl⟩ := Journaled.gives_pure.mp given
      rw [List.append_nil, ← same]
      exact honours.roster
  | some context =>
      rw [found] at given
      obtain ⟨⟨handled, told⟩, hearing, _, heard, rest, rfl⟩ := Journaled.gives_bind.mp given
      obtain ⟨⟨_, done⟩, tearing, _, torn, ending, rfl⟩ := Journaled.gives_bind.mp rest
      obtain ⟨_, closing, _, destroyed, last, rfl⟩ := Journaled.gives_bind.mp ending
      obtain ⟨same, rfl⟩ := Journaled.gives_pure.mp last
      obtain ⟨_, entered, rfl⟩ := Testimony.gives_carry.mp destroyed
      obtain rfl := Journaled.gives_enter.mp entered
      have hears : context.Accounts False told hearing :=
        Attested.Accounted.handleEvent repertoire .entityDestroyed payload context handled told
          hearing heard
      have accounts := hears.trans (Attested.Accounted.teardown told _ done tearing torn)
      obtain rfl : context.controller.id = agent :=
        honours.keeps.roster.id_eq (Roster.context?_eq_some.mp found).1
      rw [List.append_nil, ← List.append_assoc hearing, plain_append, plain_entered,
        Docket.read_append, ← same, ← List.append_assoc]
      refine ⟨?_, (honours.roster.fulfilled.append (.own accounts.own nofun)).append
        (.enter _ rfl rfl)⟩
      intro other held known
      rw [outlook_append, outlook_entered] at known
      -- The handler may have asked for anything, but the teardown comes after it.
      by_cases mine : other = context.controller.id
      · rw [mine, ← List.append_assoc, outlook_append, outlook_of_teardown hears.id torn] at known
        cases known
      · rw [outlook_append, outlook_of_other accounts.own mine] at known
        obtain ⟨controller, occupied, tree, timer, member, owner, due⟩ :=
          honours.roster.expects other held known
        refine ⟨controller, ?_, tree, timer, ?_, owner, due⟩
        · exact (Roster.controller?_discharge _ _ _ other).trans ((if_neg mine).trans occupied)
        · change timer ∈ (docket.read (plain (hearing ++ tearing))).others context.controller.id
          rw [(docket.read_own (Context.Accounts.own_plain accounts.own)).2]
          exact Docket.mem_others.mpr ⟨member, owner ▸ mine⟩

private theorem obey {call : Call vocabulary}
    (honours : world.Honours repertoire issued docket history)
    (given : (world.attestedObey repertoire call).Gives later segment)
    (room : issued + (plain segment).countP Entry.isArming ≤ 2 ^ 32 - 1) :
    later.Honours repertoire (issued + (plain segment).countP Entry.isArming)
      (docket.read (plain segment)) (history ++ segment) := by
  cases call with
  | spawn agent name setup => exact honours.spawn given room
  | spawnWithTree agent name tree => exact honours.spawn given room
  | withAgent agent program => exact honours.withAgent given room
  | post agent name payload =>
      have posted := world.unattested_obey repertoire (.post agent name payload) ▸
        Testimony.gives_plain given
      refine ⟨(honours.keeps.obey posted room).1, ?_⟩
      obtain ⟨rfl, rfl⟩ := Journaled.gives_pure.mp given
      rw [List.append_nil]
      unfold World.post
      cases world.controller? agent with
      | none => exact honours.roster
      | some controller => exact honours.roster
  | destroy agent payload => exact honours.destroy given room
  | run => exact honours.toEnd given room
  | runTicks count => exact honours.ticks given room

private theorem play {calls : List (Call vocabulary)}
    (honours : world.Honours repertoire issued docket history)
    (given : (world.attestedPlay repertoire calls).Gives later segment)
    (room : issued + (plain segment).countP Entry.isArming ≤ 2 ^ 32 - 1) :
    later.Honours repertoire (issued + (plain segment).countP Entry.isArming)
      (docket.read (plain segment)) (history ++ segment) := by
  induction calls generalizing world issued docket history segment with
  | nil =>
      obtain ⟨rfl, rfl⟩ := Journaled.gives_pure.mp given
      rw [List.append_nil]
      exact honours
  | cons call calls ih =>
      obtain ⟨middle, first, second, obeyed, rest, rfl⟩ := Journaled.gives_bind.mp given
      rw [plain_append, List.countP_append] at room ⊢
      rw [Docket.read_append, ← Nat.add_assoc, ← List.append_assoc]
      exact ih (honours.obey obeyed (by omega)) rest (by omega)

end Honours

/-! ### From a call to the walk that it asks for -/

/-- A stretch of an account: a tree is put to use, and some incidents later a timer is handed to
somebody. -/
structure Stretch (vocabulary : Vocabulary) where
  occasion : Occasion
  context : Context vocabulary
  plan : PriorityTree vocabulary
  waiting : List (Incident vocabulary)
  start : Context vocabulary
  timer : Timer

namespace Stretch

variable (stretch : Stretch vocabulary)

def asker : AgentId := stretch.context.controller.id

/-- The asker is handed the timer, and nothing upsets its prospect before. -/
def IsCalm : Prop :=
  (∀ incident ∈ stretch.waiting, ¬incident.Upsets stretch.asker) ∧
    stretch.timer.owner = stretch.asker

instance : Decidable stretch.IsCalm := inferInstanceAs (Decidable (_ ∧ _))

/-- The account in which the stretch lies between what is before and what is after. -/
def within (earlier rest : List (Incident vocabulary)) : List (Incident vocabulary) :=
  earlier ++ .asked stretch.occasion stretch.context (.setPriorities stretch.plan) ::
    (stretch.waiting ++ .handed stretch.start stretch.timer :: rest)

end Stretch

def stretch? (history : List (Incident vocabulary)) (place count : Nat) :
    Option (Stretch vocabulary) :=
  match history[place]?, (history.drop (place + 1))[count]? with
  | some (.asked occasion context (.setPriorities plan)), some (.handed start timer) =>
      some ⟨occasion, context, plan, (history.drop (place + 1)).take count, start, timer⟩
  | _, _ => none

private theorem eq_take_append_cons_drop {ε : Type} {entries : List ε} {place : Nat} {entry : ε}
    (found : entries[place]? = some entry) :
    entries = entries.take place ++ entry :: entries.drop (place + 1) := by
  obtain ⟨within, rfl⟩ := List.getElem?_eq_some_iff.mp found
  rw [← List.drop_eq_getElem_cons within, List.take_append_drop]

theorem stretch?_eq_some {place count : Nat} {stretch : Stretch vocabulary}
    (found : stretch? history place count = some stretch) :
    ∃ earlier rest, history = stretch.within earlier rest := by
  unfold stretch? at found
  split at found
  · rename_i asked handed
    cases found
    refine ⟨history.take place, (history.drop (place + 1)).drop (count + 1), ?_⟩
    unfold Stretch.within
    rw [← eq_take_append_cons_drop handed, ← eq_take_append_cons_drop asked]
  · cases found

/-- Of every incident of a run it holds what is to be said of it. -/
theorem fulfils_of_play {config : Config} {reconsiderNow : Option Span}
    {calls : List (Call vocabulary)} {next : Incident vocabulary}
    (created : World.create config reconsiderNow = .ok world)
    (played : (world.play repertoire calls).outcome = .ok later)
    (few : (world.play repertoire calls).armings ≤ 2 ^ 32 - 1)
    (account : (world.attestedPlay repertoire calls).journal = earlier ++ next :: rest) :
    next.Fulfils repertoire earlier rest := by
  have plainly := world.unattested_play repertoire calls
  have given : (world.attestedPlay repertoire calls).Gives later
      (world.attestedPlay repertoire calls).journal :=
    Journaled.gives_of_outcome ((congrArg Journaled.outcome plainly).trans played)
  have entered : plain (world.attestedPlay repertoire calls).journal =
      (world.play repertoire calls).journal := congrArg Journaled.journal plainly
  have fulfilled : Fulfilled repertoire [] (world.attestedPlay repertoire calls).journal :=
    ((Honours.create created).play given (by rwa [Nat.zero_add, entered])).roster.fulfilled
  rw [account] at fulfilled
  exact fulfilled.incident

private theorem outlook_of_asked {occasion : Occasion} {context : Context vocabulary}
    {plan : PriorityTree vocabulary} {waiting : List (Incident vocabulary)}
    (calm : ∀ incident ∈ waiting, ¬incident.Upsets context.controller.id) :
    outlook context.controller.id none
      (earlier ++ .asked occasion context (.setPriorities plan) :: waiting) =
        some ⟨plan, context.timers.clock,
          ruling context.controller.id context.controller.reconsiderNow waiting⟩ := by
  rw [outlook_append]
  change outlook _ (Incident.prospect _ _ (.asked occasion context (.setPriorities plan))) _ = _
  rw [Incident.prospect, if_pos rfl]
  exact outlook_of_calm calm _

/-- An agent puts a tree to use. From then on, and as long as its own code asks for nothing that
concerns its slot, it is in service and no timer of it has been handed out:

* no tick ends once the delay of a request at once is over, or that of a rule that has been chosen
  since;
* a rule that is chosen, and a notice of a reconsideration, are of the tick of the call;
* the next timer that it is handed is handed to it in the tick in which that delay is over, is its
  pending one, and what is walked then is the tree. -/
theorem walks_when_due_of_play {config : Config} {reconsiderNow : Option Span}
    {calls : List (Call vocabulary)} {occasion : Occasion} {context : Context vocabulary}
    {plan : PriorityTree vocabulary} {waiting : List (Incident vocabulary)}
    {next : Incident vocabulary} (created : World.create config reconsiderNow = .ok world)
    (played : (world.play repertoire calls).outcome = .ok later)
    (few : (world.play repertoire calls).armings ≤ 2 ^ 32 - 1)
    (account : (world.attestedPlay repertoire calls).journal =
      earlier ++ .asked occasion context (.setPriorities plan) :: (waiting ++ next :: rest))
    (calm : ∀ incident ∈ waiting, ¬incident.Upsets context.controller.id) :
    let asker := context.controller.id
    let due := context.timers.now.index +
      context.timers.clock.wait (ruling asker context.controller.reconsiderNow waiting)
    (world.attestedPlay repertoire calls).unattested = world.play repertoire calls ∧
    (∀ tick fired, next = .entered (.noticed (.tickEnd tick fired)) → tick.index < due) ∧
    (∀ walking delay, next = .ruled walking delay → walking.controller.id = asker →
      walking.timers.clock = context.timers.clock) ∧
    (∀ tick outcome, next = .entered (.noticed (.reconsider tick asker outcome)) →
      tick = context.timers.now) ∧
    (∀ start timer, next = .handed start timer → timer.owner = asker →
      start.controller.id = asker ∧ start.timers.now.index = due ∧
      start.controller.tree = plan ∧ start.controller.pending = some timer.handle ∧
      ∃ outcome done walk after,
        rest = walk ++ .entered (.noticed (.reconsider start.timers.now asker outcome)) :: after ∧
        if repertoire.isPresent start.controller.agent then
          (repertoire.attestedChoice plan.rules start.detached).Gives (outcome, done) walk
        else outcome = .agentGone) := by
  intro asker due
  have parts : (world.attestedPlay repertoire calls).journal =
      (earlier ++ .asked occasion context (.setPriorities plan) :: waiting) ++ next :: rest := by
    rw [account, List.append_assoc]
    rfl
  have fulfils := fulfils_of_play created played few parts
  have known : outlook asker none
      (earlier ++ .asked occasion context (.setPriorities plan) :: waiting) =
        some ⟨plan, context.timers.clock,
          ruling asker context.controller.reconsiderNow waiting⟩ := outlook_of_asked calm
  refine ⟨world.unattested_play repertoire calls, ?_, ?_, ?_, ?_⟩
  · rintro tick fired rfl
    exact Nat.lt_of_lt_of_le (fulfils asker _ known) (Clock.index_tickAfter_le _ _)
  · rintro walking delay rfl own
    change ∀ held, outlook walking.controller.id none _ = some held → _ at fulfils
    rw [own] at fulfils
    exact (fulfils _ known).symm
  · rintro tick outcome rfl
    exact (fulfils _ known).symm
  · rintro start timer rfl own
    obtain ⟨⟨id, pending, before⟩, held, outcome, done, walk, after, walked, rfl⟩ := fulfils
    rw [own] at held id ⊢
    obtain ⟨tree, now⟩ := held _ known
    change start.timers.now = context.timers.clock.tickAfter _ at now
    rw [repertoire.attestedOnTimer_of_pending pending, tree] at walked
    refine ⟨id, ?_, tree, pending, outcome, done, walk, after, rfl, ?_⟩
    · rw [now] at before ⊢
      exact Clock.index_tickAfter before
    · split at walked
      · rename_i present
        rw [if_pos present]
        exact walked
      · rename_i absent
        rw [if_neg absent]
        cases (Journaled.gives_pure.mp walked).1
        rfl

/-- A ship is given its plans, and a tick later it walks by them. -/
theorem walks_when_due_of_play_patrol :
    let calls : List (Call Patrol.ships) :=
      [.spawn (.fresh "Ada") "patrol" Patrol.start, .runTicks 2]
    ∃ (world later : World Patrol.ships) (stretch : Stretch Patrol.ships)
        (earlier rest : List (Incident Patrol.ships)),
      World.create .standard none = .ok world ∧
      (world.play Patrol.repertoire calls).outcome = .ok later ∧
      (world.play Patrol.repertoire calls).armings ≤ 2 ^ 32 - 1 ∧
      (world.attestedPlay Patrol.repertoire calls).journal = stretch.within earlier rest ∧
      stretch.IsCalm ∧ stretch.start.controller.tree = stretch.plan ∧
      stretch.start.timers.now.index = stretch.context.timers.now.index +
        stretch.context.timers.clock.wait
          (ruling stretch.asker stretch.context.controller.reconsiderNow stretch.waiting) := by
  intro calls
  obtain ⟨world, created, facts⟩ : ∃ world, World.create .standard none = .ok world ∧
      ((world.play Patrol.repertoire calls).outcome.toOption.any fun _ =>
        decide ((world.play Patrol.repertoire calls).armings ≤ 2 ^ 32 - 1) &&
          (stretch? (world.attestedPlay Patrol.repertoire calls).journal 6 8).any
            fun stretch => stretch.IsCalm) = true :=
    exists_ok (by decide +kernel)
  obtain ⟨later, played, facts⟩ := exists_ok facts
  obtain ⟨few, found⟩ := (Bool.and_eq_true _ _).mp facts
  have few := of_decide_eq_true few
  obtain ⟨stretch, found, calm⟩ := (Option.any_eq_true _ _).mp found
  have calm : stretch.IsCalm := of_decide_eq_true calm
  obtain ⟨earlier, rest, account⟩ := stretch?_eq_some found
  obtain ⟨_, _, _, _, handed⟩ := walks_when_due_of_play created played few account calm.1
  obtain ⟨_, due, tree, _⟩ := handed stretch.start stretch.timer rfl calm.2
  exact ⟨world, later, stretch, earlier, rest, created, played, few, account, calm, tree, due⟩

end World

namespace Patrol

/-- Ships that make other plans as soon as they ask themselves anything. -/
def fickle : Repertoire ships :=
  { Patrol.repertoire with
    condition := fun _ => do
      Program.request (.setPriorities { rules := [Rule.fallback Deed.patrol] })
      pure true }

def wavering : PriorityTree ships where
  rules :=
    [{ Rule.blank with
        condition := some .isUnderAttack
        behaviour := some .patrol
        reconsiderAfter := some (seconds ⟨1, by decide⟩) }]

end Patrol

namespace World

/-- A ship changes its plans in the middle of a walk, and the rule that it is at has a delay of a
second: the tick in which the new plans could have been walked ends without any walk, and they are
walked after that second. -/
theorem walks_late_of_ruling :
    let calls : List (Call Patrol.ships) :=
      [.spawnWithTree (.fresh "Ada") "patrol" Patrol.wavering, .runTicks 6]
    ∃ (world later : World Patrol.ships) (stretch : Stretch Patrol.ships)
        (earlier rest : List (Incident Patrol.ships)) (promised : Tick),
      World.create .standard none = .ok world ∧
      (world.play Patrol.fickle calls).outcome = .ok later ∧
      (world.attestedPlay Patrol.fickle calls).journal = stretch.within earlier rest ∧
      stretch.IsCalm ∧
      promised = stretch.context.timers.clock.tickAfter stretch.context.controller.reconsiderNow ∧
      .noticed (.tickEnd promised 0) ∈ plain stretch.waiting ∧
      reportsAt promised (plain stretch.waiting) = [] ∧ promised < stretch.start.timers.now ∧
      Patrol.fickle.isPresent stretch.start.controller.agent = true := by
  intro calls
  obtain ⟨world, created, facts⟩ : ∃ world, World.create .standard none = .ok world ∧
      ((world.play Patrol.fickle calls).outcome.toOption.any fun _ =>
        (stretch? (world.attestedPlay Patrol.fickle calls).journal 11 29).any fun stretch =>
          let promised :=
            stretch.context.timers.clock.tickAfter stretch.context.controller.reconsiderNow
          stretch.IsCalm ∧ .noticed (.tickEnd promised 0) ∈ plain stretch.waiting ∧
            reportsAt promised (plain stretch.waiting) = [] ∧
            promised < stretch.start.timers.now ∧
            Patrol.fickle.isPresent stretch.start.controller.agent = true) = true :=
    exists_ok (by decide +kernel)
  obtain ⟨later, played, facts⟩ := exists_ok facts
  obtain ⟨stretch, found, facts⟩ := (Option.any_eq_true _ _).mp facts
  obtain ⟨calm, ended, unreported, late, present⟩ := of_decide_eq_true facts
  obtain ⟨earlier, rest, account⟩ := stretch?_eq_some found
  exact ⟨world, later, stretch, earlier, rest, _, created, played, account, calm, rfl, ended,
    unreported, late, present⟩

end World

end PriorityAgents
