import PriorityAgents.Proofs.Patrol.Blindness
import PriorityAgents.Proofs.World.Calls
import PriorityAgents.Proofs.World.Echo

/-!
Agents do not interfere: what becomes of an agent in a world depends on what its host asks of it
and on the ticks that go by, and on nothing that the other agents are or do.

A world and a place for one agent are followed side by side. What concerns the agent happens in
both; what concerns only the others leaves the image of the agent as it was.
-/

set_option autoImplicit false

namespace PriorityAgents

variable {vocabulary : Vocabulary} {reach : Reach vocabulary} {agent : AgentId}
  {repertoire : Repertoire vocabulary} {docket : Docket} {issued : Nat} {journal : List Entry}

/-! ### What concerns an agent -/

namespace Call

def spawns : Call vocabulary → Nat
  | .spawn _ _ _ | .spawnWithTree _ _ _ => 1
  | .withAgent _ _ | .post _ _ _ | .destroy _ _ | .run | .runTicks _ => 0

def ticks (last gone : Nat) : Call vocabulary → Nat
  | .run => last - gone
  | .runTicks count => count
  | .spawn _ _ _ | .spawnWithTree _ _ _ | .withAgent _ _ | .post _ _ _ | .destroy _ _ => 0

/-- What a call is to one agent, if a number of agents has been spawned already. -/
def concerns (agent : AgentId) (last spawned gone : Nat) :
    Call vocabulary → List (Concern vocabulary)
  | .spawn state name setup =>
      if spawned = agent.index then [.spawn state name setup] else []
  | .spawnWithTree state name tree =>
      if spawned = agent.index then
        [.spawn state name (Program.request (.setPriorities tree))]
      else []
  | .withAgent other program => if other = agent then [.withAgent program] else []
  | .post other name payload => if other = agent then [.post name payload] else []
  | .destroy other payload => if other = agent then [.destroy payload] else []
  | .run => List.replicate (last - gone) .tick
  | .runTicks count => List.replicate count .tick

end Call

/-- What calls are to one agent: the spawn that gives it its place, every call that names it, and
the ticks that go by. -/
def concerns (agent : AgentId) (config : Config) :
    (spawned gone : Nat) → List (Call vocabulary) → List (Concern vocabulary)
  | _, _, [] => []
  | spawned, gone, call :: calls =>
      call.concerns agent config.endTick.index spawned gone ++
        concerns agent config (spawned + call.spawns)
          (gone + call.ticks config.endTick.index gone) calls

def Concern.Blind (reach : Reach vocabulary) (generator : Generator) : Concern vocabulary → Prop
  | .spawn agent _ setup =>
      reach.mind { agent, parameters := .empty, phrases := .empty, generator } ∧
        setup.Blind reach fun _ => True
  | .withAgent program => program.Blind reach fun _ => True
  | .post _ payload => reach.payload payload
  | .destroy _ | .tick => True

/-! ### A world and a place for one of its agents -/

/-- A world in which a number of agents have been spawned and a number of ticks have gone by, and
a place for one agent. -/
structure Solo.Mirrors (reach : Reach vocabulary) (config : Config) (spawned gone : Nat)
    (solo : Solo vocabulary) (world : World vocabulary) (docket : Docket) : Prop where
  settings : world.config = config
  seed : solo.seed = config.seed
  reconsiderNow : solo.reconsiderNow = world.reconsiderNow
  size : world.roster.controllers.size = min spawned (2 ^ 32 - 1)
  gone : world.clock.now.index = gone
  clock : solo.clock = world.clock
  events : solo.events = world.events.filter (·.agent = solo.agent)
  payloads : ∀ event ∈ solo.events, reach.payload event.payload
  image : Option.Rel (Image reach solo.agent docket) (world.controller? solo.agent) solo.context

def Solo.Follows (reach : Reach vocabulary) (config : Config) (spawned gone : Nat)
    (agent : AgentId) (later : World vocabulary) (docket : Docket) (journal : List Entry)
    (alone : Logged (Solo vocabulary)) : Prop :=
  ∃ reached entries, alone.Gives reached entries ∧ reached.agent = agent ∧
    reached.Mirrors reach config spawned gone later docket ∧
    heard agent entries = heard agent journal

namespace Solo

variable {config : Config} {spawned gone : Nat} {solo : Solo vocabulary}
  {world middle later : World vocabulary}

private theorem Mirrors.empty (mirrors : solo.Mirrors reach config spawned gone world docket)
    (empty : world.controller? solo.agent = none) : solo.context = none := by
  have images := mirrors.image
  rw [empty] at images
  generalize solo.context = context at images
  cases images
  rfl

private theorem Mirrors.occupied {controller : Controller vocabulary}
    (mirrors : solo.Mirrors reach config spawned gone world docket)
    (occupied : world.controller? solo.agent = some controller) :
    ∃ alone, solo.context = some alone ∧ Image reach solo.agent docket controller alone := by
  have images := mirrors.image
  rw [occupied] at images
  generalize solo.context = context at images
  cases images with
  | some image => exact ⟨_, rfl, image⟩

private theorem Mirrors.change {roster : Roster vocabulary} {context : Option (Context vocabulary)}
    {laterDocket : Docket} {laterSpawned : Nat}
    (mirrors : solo.Mirrors reach config spawned gone world docket)
    (size : roster.controllers.size = min laterSpawned (2 ^ 32 - 1))
    (image : Option.Rel (Image reach solo.agent laterDocket) (roster.controller? solo.agent)
      context) :
    ({ solo with context } : Solo vocabulary).Mirrors reach config laterSpawned gone
      { world with roster } laterDocket where
  settings := mirrors.settings
  seed := mirrors.seed
  reconsiderNow := mirrors.reconsiderNow
  size
  gone := mirrors.gone
  clock := mirrors.clock
  events := mirrors.events
  payloads := mirrors.payloads
  image

theorem Follows.pure (mirrors : solo.Mirrors reach config spawned gone world docket)
    (unheard : heard solo.agent journal = []) :
    Follows reach config spawned gone solo.agent world docket journal (Pure.pure solo) :=
  ⟨solo, [], Journaled.gives_pure.mpr ⟨rfl, rfl⟩, rfl, mirrors, unheard.symm⟩

theorem Follows.bind {first second : List Entry} {alone : Logged (Solo vocabulary)}
    {next : Solo vocabulary → Logged (Solo vocabulary)} {laterDocket : Docket}
    {laterSpawned laterGone : Nat}
    (begun : Follows reach config spawned gone agent middle docket first alone)
    (rest : ∀ reached, reached.agent = agent →
      reached.Mirrors reach config spawned gone middle docket →
        Follows reach config laterSpawned laterGone agent later laterDocket second
          (next reached)) :
    Follows reach config laterSpawned laterGone agent later laterDocket (first ++ second)
      (alone >>= next) := by
  obtain ⟨reached, early, given, same, mirrors, heardEarly⟩ := begun
  obtain ⟨final, late, after, sameLater, mirrorsLater, heardLate⟩ := rest reached same mirrors
  refine ⟨final, early ++ late,
    Journaled.gives_bind.mpr ⟨reached, early, late, given, after, rfl⟩, sameLater, mirrorsLater, ?_⟩
  rw [heard_append, heard_append, heardEarly, heardLate]

theorem attendAll_append (repertoire : Repertoire vocabulary) (solo : Solo vocabulary)
    (first second : List (Concern vocabulary)) :
    solo.attendAll repertoire (first ++ second) =
      solo.attendAll repertoire first >>= fun reached => reached.attendAll repertoire second := by
  induction first generalizing solo with
  | nil => rw [List.nil_append, attendAll, pure_bind]
  | cons concern first ih =>
      rw [List.cons_append, attendAll, attendAll, bind_assoc]
      congr 1
      funext reached
      exact ih reached

@[simp] theorem attendAll_singleton (repertoire : Repertoire vocabulary) (solo : Solo vocabulary)
    (concern : Concern vocabulary) :
    solo.attendAll repertoire [concern] = solo.attend repertoire concern := by
  simp only [attendAll, bind_pure]

private theorem attendAll_of_refused {solo : Solo vocabulary} {condition : Prop}
    [Decidable condition] {concern : Concern vocabulary}
    (refused : condition → solo.attend repertoire concern = Pure.pure solo) :
    solo.attendAll repertoire (if condition then [concern] else []) = Pure.pure solo := by
  by_cases met : condition
  · rw [if_pos met, attendAll_singleton, refused met]
  · rw [if_neg met, attendAll]

end Solo

namespace World

variable {world later : World vocabulary} {solo : Solo vocabulary} {config : Config}
  {spawned gone : Nat}

open Solo (Mirrors Follows)

private theorem image_next {laterDocket : Docket} {clock : Clock}
    {slot : Option (Controller vocabulary)} {context : Option (Context vocabulary)}
    (images : Option.Rel (Image reach agent docket) slot context)
    (standing : docket.clock = clock) (moved : laterDocket.clock = clock.next)
    (later : clock.now ≤ clock.next.now) (due : laterDocket.dueOf agent = docket.dueOf agent) :
    Option.Rel (Image reach agent laterDocket) slot (context.map fun context =>
      { context with timers := context.timers.advanceTo clock.next.now }) := by
  cases images with
  | none => exact .none
  | @some _ alone image =>
      refine .some ⟨image.same, moved.trans ?_, due.trans image.due, image.slot, image.within⟩
      change _ = { alone.timers.clock with now := alone.timers.clock.now.latest clock.next.now }
      rw [← image.clock, standing, latest_of_le later]
      rfl

private theorem tick_follows (keeps : world.Keeps issued docket)
    (mirrors : solo.Mirrors reach config spawned gone world docket)
    (blind : repertoire.Blind reach)
    (given : (world.tick repertoire).Gives later journal)
    (room : issued + journal.countP Entry.isArming ≤ 2 ^ 32 - 1) :
    Follows reach config spawned (gone + 1) solo.agent later (docket.read journal) journal
      (solo.tick repertoire) := by
  obtain ⟨dockClock, timers⟩ := docket
  obtain rfl : dockClock = world.clock := keeps.clock
  obtain ⟨delivering, firing, fired, middle, roster, clock, delivered, fires, advanced, rfl, rfl⟩ :=
    gives_tick.mp given
  obtain ⟨rfl, nextIndex⟩ := Clock.eq_next_of_advance advanced
  simp only [List.countP_cons, List.countP_append, List.countP_nil] at room
  have first := Roster.deliverAll_served keeps.roster delivered (by omega)
  obtain ⟨routing, rfl, _, _, second⟩ := Roster.fire_served first.keeps
    (congrArg Clock.now first.clock) fires (by omega)
  have sameClock := second.clock.trans first.clock
  have brought : ∀ event ∈ world.events, event.agent = solo.agent →
      reach.payload event.payload := by
    intro event member mine
    apply mirrors.payloads
    rw [mirrors.events]
    exact List.mem_filter.mpr ⟨member, decide_eq_true mine⟩
  obtain ⟨told, early, aloneDelivered, imagesTold, heardEarly⟩ := Roster.deliverAll_echoed
    keeps.roster mirrors.image blind brought delivered (by omega)
  obtain ⟨reached, late, aloneFired, imagesReached, heardLate⟩ := Roster.fire_echoed first.keeps
    (congrArg Clock.now first.clock) imagesTold blind fires (by omega)
  rw [← mirrors.events, ← mirrors.clock] at aloneDelivered
  rw [← mirrors.clock] at aloneFired advanced
  refine ⟨_, _, Journaled.gives_bind.mpr ⟨told, early, _, aloneDelivered,
    Journaled.gives_bind.mpr ⟨reached, late, _, aloneFired, Journaled.gives_bind.mpr ⟨_, _, _,
      Journaled.gives_lift.mpr ⟨advanced, rfl⟩, Journaled.gives_pure.mpr ⟨rfl, rfl⟩, rfl⟩, rfl⟩,
        rfl⟩, rfl, ?_, ?_⟩
  · refine
      { settings := mirrors.settings
        seed := mirrors.seed
        reconsiderNow := mirrors.reconsiderNow
        size := ?_
        gone := nextIndex.trans (congrArg (· + 1) mirrors.gone)
        clock := congrArg Clock.next mirrors.clock
        events := rfl
        payloads := nofun
        image := ?_ }
    · exact (Roster.size_of_fire fires).trans
        ((Roster.size_of_deliverAll delivered).trans mirrors.size)
    · rw [mirrors.clock]
      apply image_next imagesReached sameClock
      · rw [Docket.read_cons, Docket.read_append, Docket.read_append]
        exact congrArg Clock.next sameClock
      · rw [Tick.le_def, nextIndex]
        exact Nat.le_succ _
      · rw [Docket.read_cons, Docket.read_append, Docket.read_append]
        rfl
  · change heard solo.agent (early ++ (late ++ [])) =
      heard solo.agent ([.noticed (.tickStart world.clock.now)] ++ (delivering ++
        (.drained world.clock.now :: routing ++ [.noticed (.tickEnd world.clock.now fired)])))
    simp only [heard_append, heardEarly, heardLate, heard_noticed, Notice.isAbout,
      Bool.false_eq_true, if_false, List.nil_append, List.append_nil]

private theorem ticks_follows {count : Nat} (keeps : world.Keeps issued docket)
    (mirrors : solo.Mirrors reach config spawned gone world docket)
    (blind : repertoire.Blind reach)
    (given : (world.ticks repertoire count).Gives later journal)
    (room : issued + journal.countP Entry.isArming ≤ 2 ^ 32 - 1) :
    Follows reach config spawned (gone + count) solo.agent later (docket.read journal) journal
      (solo.attendAll repertoire (List.replicate count .tick)) := by
  induction count generalizing world solo issued docket gone journal with
  | zero =>
      obtain ⟨rfl, rfl⟩ := Journaled.gives_pure.mp given
      exact Follows.pure mirrors rfl
  | succ count ih =>
      obtain ⟨middle, first, second, ticked, rest, rfl⟩ := Journaled.gives_bind.mp given
      rw [List.countP_append] at room
      have kept := (keeps.tick ticked (by omega)).1
      rw [Docket.read_append, ← Nat.add_assoc, Nat.add_right_comm]
      refine (tick_follows keeps mirrors blind ticked (by omega)).bind ?_
      intro reached agent mirrored
      rw [← agent]
      exact ih kept mirrored rest (by omega)

/-! ### Calls -/

private theorem follows_of_spares {roster : Roster vocabulary}
    (mirrors : solo.Mirrors reach config spawned gone world docket)
    (spares : Roster.Spares solo.agent world.roster docket roster journal) {count : Nat}
    (size : roster.controllers.size = min count (2 ^ 32 - 1)) :
    Follows reach config count gone solo.agent { world with roster } (docket.read journal) journal
      (pure solo) := by
  have mirrored := mirrors.change size (spares.image mirrors.image)
  exact Follows.pure mirrored spares.unheard

private theorem follows_of_work {roster : Roster vocabulary} {controller : Controller vocabulary}
    {reached : Context vocabulary} {alone : List Entry} {computation : Logged (Solo vocabulary)}
    (mirrors : solo.Mirrors reach config spawned gone world docket)
    (given : computation.Gives { solo with context := some reached } alone)
    (occupied : roster.controller? solo.agent = some controller)
    (image : Image reach solo.agent (docket.read journal) controller reached)
    (silent : heard solo.agent alone = heard solo.agent journal) {count : Nat}
    (size : roster.controllers.size = min count (2 ^ 32 - 1)) :
    Follows reach config count gone solo.agent { world with roster } (docket.read journal) journal
      computation := by
  have images : Option.Rel (Image reach solo.agent (docket.read journal))
      (roster.controller? solo.agent) (some reached) := by
    rw [occupied]
    exact .some image
  exact ⟨_, alone, given, rfl, mirrors.change size images, silent⟩

private theorem withAgent_follows {α : Type} {other : AgentId} {program : Program vocabulary α}
    {answer : Except WorldError (α × World vocabulary)} (keeps : world.Keeps issued docket)
    (mirrors : solo.Mirrors reach config spawned gone world docket)
    (blind : repertoire.Blind reach)
    (unseeing : other = solo.agent → program.Blind reach fun _ => True)
    (given : (world.withAgent repertoire other program).Gives answer journal)
    (room : issued + journal.countP Entry.isArming ≤ 2 ^ 32 - 1) :
    Follows reach config spawned gone solo.agent (world.after answer) (docket.read journal) journal
      (solo.attendAll repertoire (if other = solo.agent then [.withAgent program] else [])) := by
  have outcome := gives_withAgent.mp given
  cases found : (world.roster.advanceTo world.clock.now).context? other with
  | none =>
      rw [found] at outcome
      obtain ⟨rfl, rfl⟩ := outcome
      rw [Solo.attendAll_of_refused]
      · exact follows_of_spares mirrors (.refl solo.agent world.roster docket) mirrors.size
      · intro mine
        subst mine
        rw [Solo.attend, mirrors.empty (Option.map_eq_none_iff.mp found)]
  | some context =>
      rw [found] at outcome
      obtain ⟨reply, done, ran, rfl⟩ := outcome
      obtain ⟨id, begun⟩ := keeps.roster.atWork found
      have occupied : world.roster.controller? other = some context.controller :=
        (Roster.context?_eq_some.mp found).1
      have works := Context.Works.run ran
      have size := (Roster.size_keep world.roster other done).trans mirrors.size
      by_cases mine : other = solo.agent
      · subst mine
        obtain ⟨alone, same, image⟩ := mirrors.occupied occupied
        obtain ⟨stays, _, reached, entries, aloneRan, alike⟩ :=
          (image.alike begun keeps.roster.single id).run blind image.within (unseeing rfl) ran
        have kept := works.keeps issued docket begun room
        rw [if_pos rfl, Solo.attendAll_singleton, Solo.attend, same]
        refine follows_of_work mirrors (Journaled.gives_bind.mpr ⟨_, entries, [], aloneRan,
          Journaled.gives_pure.mpr ⟨rfl, rfl⟩, rfl⟩) ?_ (.of_alike kept
            (keeps.roster.single.read journal) (works.id.trans id) alike stays) ?_ size
        · rw [Roster.controller?_keep occupied, if_pos rfl]
        · rw [List.append_nil, heard_own (Context.Works.run aloneRan).own, heard_own works.own]
      · rw [if_neg mine]
        have own := works.own
        rw [id] at own
        refine follows_of_spares mirrors (.of_own ?_ (Ne.symm mine) own) size
        rw [Roster.controller?_keep occupied, if_neg (Ne.symm mine)]

private theorem newcomer_alike (keeps : world.Keeps issued docket)
    (mirrors : solo.Mirrors reach config spawned gone world docket) (state : vocabulary.State)
    (name : String) :
    (world.newcomer solo.agent state name).Alike (solo.newcomer state name) := by
  refine ⟨?_, ?_, rfl, rfl⟩
  · change Controller.start solo.agent name state world.config.seed world.reconsiderNow =
      Controller.start solo.agent name state solo.seed solo.reconsiderNow
    rw [mirrors.settings, mirrors.seed, mirrors.reconsiderNow]
  · exact keeps.roster.clock.trans (keeps.clock.trans mirrors.clock.symm)

private theorem spawn_follows {name : String} {state : vocabulary.State}
    {setup : Program vocabulary Unit} {answer : Except WorldError (AgentId × World vocabulary)}
    (keeps : world.Keeps issued docket)
    (mirrors : solo.Mirrors reach config spawned gone world docket)
    (blind : repertoire.Blind reach)
    (unseeing : spawned = solo.agent.index →
      (Concern.spawn state name setup).Blind reach (.forAgent config.seed solo.agent))
    (given : (world.spawn repertoire state name setup).Gives answer journal)
    (room : issued + journal.countP Entry.isArming ≤ 2 ^ 32 - 1) :
    Follows reach config (spawned + 1) gone solo.agent (world.after answer) (docket.read journal)
      journal (solo.attendAll repertoire
        (if spawned = solo.agent.index then [.spawn state name setup] else [])) := by
  have outcome := gives_spawn.mp given
  have size := mirrors.size
  cases free : agentIdFor world.roster.controllers.size with
  | error cause =>
      rw [free] at outcome
      obtain ⟨rfl, rfl⟩ := outcome
      have full : ¬world.roster.controllers.size < 2 ^ 32 - 1 := by
        intro below
        have next : agentIdFor world.roster.controllers.size =
            .ok ⟨world.roster.controllers.size, by omega⟩ := agentIdFor_eq_ok.mpr ⟨rfl, below⟩
        rw [free] at next
        cases next
      rw [Solo.attendAll_of_refused]
      · apply follows_of_spares mirrors (.refl solo.agent world.roster docket)
        omega
      · intro mine
        apply if_neg
        intro valid
        have below := isValid_iff.mp valid
        omega
  | ok id =>
      rw [free] at outcome
      obtain ⟨done, entries, ran, rfl, rfl⟩ := outcome
      obtain ⟨index, below⟩ := agentIdFor_eq_ok.mp free
      have begun := keeps.newcomer index state name
      have works := (Context.Works.run ran).trans
        (Context.Works.told done (Record.mk .debug "agent spawned" [("agent",
          done.controller.id.text), ("ai", done.controller.name)]))
      have next : done.controller.id.index = world.roster.controllers.size := by
        rw [works.id]
        exact index
      have laterSize : (world.roster.controllers.push (some done.controller)).size =
          min (spawned + 1) (2 ^ 32 - 1) := by
        rw [Array.size_push]
        omega
      have slot := Roster.controller?_enlist next solo.agent
      by_cases mine : spawned = solo.agent.index
      · have same : id = solo.agent := AgentId.ext (by omega)
        subst same
        obtain ⟨mind, unseeing⟩ := unseeing mine
        have within : (world.newcomer solo.agent state name).controller.Within reach := by
          refine .start ?_
          rw [mirrors.settings]
          exact mind
        obtain ⟨stays, _, reached, alone, aloneRan, laterAlike⟩ :=
          (newcomer_alike keeps mirrors state name).run blind within unseeing ran
        have kept := works.keeps issued docket begun room
        rw [if_pos mine, Solo.attendAll_singleton, Solo.attend,
          if_pos (isValid_iff.mpr (index ▸ below))]
        refine follows_of_work mirrors (Journaled.gives_bind.mpr ⟨_, alone, [], aloneRan,
          Journaled.gives_pure.mpr ⟨rfl, rfl⟩, rfl⟩) ?_ (.of_alike kept
            (keeps.roster.single.read _) works.id laterAlike stays) ?_ laterSize
        · exact slot.trans (if_pos works.id.symm)
        · rw [List.append_nil, heard_own (Context.Works.run aloneRan).own, heard_own works.own]
      · have foreign : solo.agent ≠ id := by
          intro same
          rw [← same] at index
          omega
        rw [if_neg mine]
        refine follows_of_spares mirrors (.of_own ?_ foreign works.own) laterSize
        refine slot.trans (if_neg ?_)
        rw [works.id]
        exact foreign

private theorem destroy_follows {other : AgentId} {payload : vocabulary.Payload}
    {answer : Except WorldError (Controller vocabulary × World vocabulary)}
    (keeps : world.Keeps issued docket)
    (mirrors : solo.Mirrors reach config spawned gone world docket)
    (given : (world.destroy repertoire other payload).Gives answer journal) :
    Follows reach config spawned gone solo.agent (world.after answer) (docket.read journal) journal
      (solo.attendAll repertoire (if other = solo.agent then [.destroy payload] else [])) := by
  have outcome := gives_destroy.mp given
  cases found : world.roster.context? other with
  | none =>
      rw [found] at outcome
      obtain ⟨rfl, rfl⟩ := outcome
      rw [Solo.attendAll_of_refused]
      · exact follows_of_spares mirrors (.refl solo.agent world.roster docket) mirrors.size
      · intro mine
        subst mine
        have empty := mirrors.empty (Option.map_eq_none_iff.mp found)
        rw [Solo.attend, ← empty]
  | some context =>
      rw [found] at outcome
      obtain ⟨handled, told, done, first, second, ran, torn, rfl, rfl⟩ := outcome
      have works := (Context.Works.handleEvent ran).trans (Context.Works.teardown torn)
      have id : context.controller.id = other :=
        keeps.roster.id_eq (Roster.context?_eq_some.mp found).1
      have own := works.own
      rw [id] at own
      have size : (world.roster.discharge other done.timers).controllers.size =
          min spawned (2 ^ 32 - 1) := Array.size_setIfInBounds.trans mirrors.size
      by_cases mine : other = solo.agent
      · subst mine
        have empty : (world.roster.discharge solo.agent done.timers).controller? solo.agent =
            none := by
          rw [Roster.controller?_discharge, if_pos rfl]
        rw [if_pos rfl, Solo.attendAll_singleton, Solo.attend]
        refine ⟨_, [], Journaled.gives_pure.mpr ⟨rfl, rfl⟩, rfl, mirrors.change size ?_, ?_⟩
        · rw [empty]
          exact .none
        · rw [heard_append, heard_own own]
          rfl
      · have foreign : solo.agent ≠ other := Ne.symm mine
        rw [if_neg mine]
        have spares : Roster.Spares solo.agent world.roster docket
            (world.roster.discharge other done.timers) (first ++ second) := by
          refine .of_own ?_ foreign own
          rw [Roster.controller?_discharge, if_neg foreign]
        refine follows_of_spares mirrors (spares.trans
          ⟨rfl, rfl, Docket.dueOf_eq_of_others foreign ?_, rfl⟩) size
        simp only [Docket.read_cons, Docket.read_nil, Docket.enter, Docket.others,
          List.filter_filter, Bool.and_self]

private theorem post_follows {other : AgentId} {name : EventName} {payload : vocabulary.Payload}
    (mirrors : solo.Mirrors reach config spawned gone world docket)
    (brought : other = solo.agent → reach.payload payload) :
    Follows reach config spawned gone solo.agent
      (world.after ((world.post other name payload).map fun later => ((), later))) docket []
      (solo.attendAll repertoire (if other = solo.agent then [.post name payload] else [])) := by
  unfold post
  cases found : world.controller? other with
  | none =>
      rw [Solo.attendAll_of_refused]
      · exact .pure mirrors rfl
      · intro mine
        subst mine
        rw [Solo.attend, mirrors.empty found]
        rfl
  | some controller =>
      have posted (queue : List (PendingEvent vocabulary))
          (same : queue = (world.events ++ [PendingEvent.mk other name payload]).filter
            (·.agent = solo.agent))
          (payloads : ∀ event ∈ queue, reach.payload event.payload) :
          Mirrors reach config spawned gone { solo with events := queue }
            { world with events := world.events ++ [{ agent := other, name, payload }] } docket :=
        { settings := mirrors.settings
          seed := mirrors.seed
          reconsiderNow := mirrors.reconsiderNow
          size := mirrors.size
          gone := mirrors.gone
          clock := mirrors.clock
          events := same
          payloads
          image := mirrors.image }
      by_cases mine : other = solo.agent
      · subst mine
        obtain ⟨alone, same, _⟩ := mirrors.occupied found
        rw [if_pos rfl, Solo.attendAll_singleton, Solo.attend, same]
        rw [Option.isSome_some, if_pos rfl, ← same]
        refine ⟨_, [], Journaled.gives_pure.mpr ⟨rfl, rfl⟩, rfl, posted _ ?_ ?_, rfl⟩
        · rw [List.filter_append, ← mirrors.events, List.filter_cons_of_pos (by simp),
            List.filter_nil]
        · intro event member
          rcases List.mem_append.mp member with before | last
          · exact mirrors.payloads event before
          · rw [List.mem_singleton.mp last]
            exact brought rfl
      · rw [if_neg mine]
        refine .pure (posted solo.events ?_ mirrors.payloads) rfl
        rw [List.filter_append, List.filter_cons_of_neg (by simpa using mine), List.filter_nil,
          List.append_nil]
        exact mirrors.events

/-- Whatever a host asks of a world, its agent goes through what concerns it and nothing else. -/
theorem obey_follows {call : Call vocabulary} (keeps : world.Keeps issued docket)
    (mirrors : solo.Mirrors reach config spawned gone world docket)
    (blind : repertoire.Blind reach)
    (unseeing : ∀ concern ∈ call.concerns solo.agent config.endTick.index spawned gone,
      concern.Blind reach (.forAgent config.seed solo.agent))
    (given : (world.obey repertoire call).Gives later journal)
    (room : issued + journal.countP Entry.isArming ≤ 2 ^ 32 - 1) :
    Follows reach config (spawned + call.spawns) (gone + call.ticks config.endTick.index gone)
      solo.agent later (docket.read journal) journal
      (solo.attendAll repertoire
        (call.concerns solo.agent config.endTick.index spawned gone)) := by
  cases call with
  | spawn agent name setup =>
      obtain ⟨answer, entered, rfl⟩ := Journaled.gives_map.mp given
      refine spawn_follows keeps mirrors blind ?_ entered room
      intro mine
      exact unseeing _ (by simp [Call.concerns, mine])
  | spawnWithTree agent name tree =>
      obtain ⟨answer, entered, rfl⟩ := Journaled.gives_map.mp given
      refine spawn_follows keeps mirrors blind ?_ entered room
      intro mine
      exact unseeing _ (by simp [Call.concerns, mine])
  | withAgent agent program =>
      obtain ⟨answer, ran, rfl⟩ := Journaled.gives_map.mp given
      refine withAgent_follows keeps mirrors blind ?_ ran room
      intro mine
      exact unseeing (.withAgent program) (by simp [Call.concerns, mine])
  | post agent name payload =>
      obtain ⟨rfl, rfl⟩ := Journaled.gives_pure.mp given
      refine post_follows mirrors ?_
      intro mine
      exact unseeing (.post name payload) (by simp [Call.concerns, mine])
  | destroy agent payload =>
      obtain ⟨answer, destroyed, rfl⟩ := Journaled.gives_map.mp given
      exact destroy_follows keeps mirrors destroyed
  | run =>
      obtain ⟨⟨noticed, reached⟩, ran, rfl⟩ := Journaled.gives_map.mp given
      have ran := (Logged.gives_observed.mp ran).1
      rw [toEnd_eq_ticks, mirrors.settings, mirrors.gone] at ran
      obtain ⟨middle, first, second, ticked, rest, rfl⟩ := Journaled.gives_bind.mp ran
      obtain ⟨_, notice, _, told, final, rfl⟩ := Journaled.gives_bind.mp rest
      obtain ⟨rfl, rfl⟩ := Journaled.gives_pure.mp final
      rw [List.countP_append] at room
      obtain ⟨there, entries, alone, same, mirrored, heardSame⟩ :=
        ticks_follows keeps mirrors blind ticked (by omega)
      rw [Logged.gives_notify.mp told]
      refine ⟨there, entries, alone, same, ?_, ?_⟩
      · rw [Docket.read_append]
        exact mirrored
      · rw [heard_append, heardSame]
        exact (List.append_nil _).symm
  | runTicks count =>
      obtain ⟨⟨noticed, reached⟩, ran, rfl⟩ := Journaled.gives_map.mp given
      exact ticks_follows keeps mirrors blind (Logged.gives_observed.mp ran).1 room

private theorem play_follows {calls : List (Call vocabulary)} (keeps : world.Keeps issued docket)
    (mirrors : solo.Mirrors reach config spawned gone world docket)
    (blind : repertoire.Blind reach)
    (unseeing : ∀ concern ∈ concerns solo.agent config spawned gone calls,
      concern.Blind reach (.forAgent config.seed solo.agent))
    (given : (world.play repertoire calls).Gives later journal)
    (room : issued + journal.countP Entry.isArming ≤ 2 ^ 32 - 1) :
    ∃ laterSpawned laterGone,
      Follows reach config laterSpawned laterGone solo.agent later (docket.read journal) journal
        (solo.attendAll repertoire (concerns solo.agent config spawned gone calls)) := by
  induction calls generalizing world solo issued docket spawned gone journal with
  | nil =>
      obtain ⟨rfl, rfl⟩ := Journaled.gives_pure.mp given
      exact ⟨spawned, gone, .pure mirrors rfl⟩
  | cons call calls ih =>
      obtain ⟨middle, first, second, obeyed, rest, rfl⟩ := Journaled.gives_bind.mp given
      rw [List.countP_append] at room
      obtain ⟨reached, early, alone, same, mirrored, heardEarly⟩ := obey_follows keeps mirrors blind
        (fun concern member => unseeing concern (List.mem_append_left _ member)) obeyed (by omega)
      have kept := (keeps.obey obeyed (by omega)).1
      have unseeingLater : ∀ concern ∈ concerns reached.agent config (spawned + call.spawns)
          (gone + call.ticks config.endTick.index gone) calls,
          concern.Blind reach (.forAgent config.seed reached.agent) := by
        rw [same]
        exact fun concern member => unseeing concern (List.mem_append_right _ member)
      obtain ⟨laterSpawned, laterGone, final, late, after, sameLater, mirrorsLater, heardLate⟩ :=
        ih kept mirrored unseeingLater rest (by omega)
      rw [same] at after sameLater heardLate
      refine ⟨laterSpawned, laterGone, final, early ++ late, ?_, sameLater, ?_, ?_⟩
      · rw [concerns, Solo.attendAll_append]
        exact Journaled.gives_bind.mpr ⟨reached, early, late, alone, after, rfl⟩
      · rw [Docket.read_append]
        exact mirrorsLater
      · rw [heard_append, heard_append, heardEarly, heardLate]

/-! ### Two worlds -/

/-- What there is in the slot of an agent, but for the handle of its pending timer: the controller,
and the tick at which that timer is due. -/
def glimpse (world : World vocabulary) (agent : AgentId) :
    Option (Controller vocabulary × Option Tick) :=
  (world.roster.context? agent).map fun context => (context.detached.controller, context.due?)

private theorem glimpse_eq (keeps : world.Keeps issued docket)
    (mirrors : solo.Mirrors reach config spawned gone world docket) :
    world.glimpse solo.agent =
      solo.context.map fun context => (context.detached.controller, context.due?) := by
  unfold glimpse
  cases found : world.roster.context? solo.agent with
  | none => rw [mirrors.empty (Option.map_eq_none_iff.mp found), Option.map_none]
  | some context =>
      obtain ⟨occupied, timers⟩ := Roster.context?_eq_some.mp found
      obtain ⟨alone, same, image⟩ := mirrors.occupied occupied
      have advanced : (world.roster.advanceTo world.clock.now).context? solo.agent =
          some ⟨context.controller, (world.roster.advanceTo world.clock.now).timers⟩ :=
        Roster.context?_eq_some.mpr ⟨occupied, rfl⟩
      obtain ⟨id, begun⟩ := keeps.roster.atWork advanced
      have line := (begun.due keeps.roster.single).1
      rw [id, image.due] at line
      have due : context.due? = alone.due? := by
        rw [← line, Context.due?, Context.due?, timers]
        rfl
      rw [same, Option.map_some, Option.map_some, due, ← image.same]
      rfl

def vacancy (world : World vocabulary) (agent : AgentId) : Solo vocabulary where
  agent
  seed := world.config.seed
  reconsiderNow := world.reconsiderNow
  clock := world.clock
  context := none
  events := []

private theorem mirrors_of_create {reconsiderNow : Option Span}
    (created : World.create config reconsiderNow = .ok world) (agent : AgentId) :
    (world.vacancy agent).Mirrors reach config 0 0 world ⟨world.clock, []⟩ := by
  have start := (keeps_of_create created).2
  obtain ⟨timers, _, _, _, rfl⟩ := of_create created
  exact
    { settings := rfl
      seed := rfl
      reconsiderNow := rfl
      size := rfl
      gone := start
      clock := rfl
      events := rfl
      payloads := nofun
      image := .none }

/-- What becomes of an agent in company is what becomes of it alone. -/
theorem alone_of_play {reconsiderNow : Option Span} {calls : List (Call vocabulary)}
    (created : World.create config reconsiderNow = .ok world)
    (blind : repertoire.Blind reach)
    (unseeing : ∀ concern ∈ concerns agent config 0 0 calls,
      concern.Blind reach (.forAgent config.seed agent))
    (played : (world.play repertoire calls).outcome = .ok later)
    (few : (world.play repertoire calls).armings ≤ 2 ^ 32 - 1) :
    ∃ reached entries,
      ((world.vacancy agent).attendAll repertoire (concerns agent config 0 0 calls)).Gives
          reached entries ∧
        later.glimpse agent =
          reached.context.map (fun context => (context.detached.controller, context.due?)) ∧
        heard agent entries = heard agent (world.play repertoire calls).journal := by
  have begun := (keeps_of_create created).1
  have given := Journaled.gives_of_outcome played
  rw [← Nat.zero_add (Logged.armings _)] at few
  have kept := (begun.play given few).1
  obtain ⟨_, _, reached, entries, alone, rfl, mirrors, same⟩ :=
    play_follows begun (mirrors_of_create created agent) blind unseeing given few
  exact ⟨reached, entries, alone, glimpse_eq kept mirrors, same⟩

/-- Two worlds with the same settings, in which the same things concern an agent: after the calls
so far the agent is the same in both, and the same has been heard of it, whatever the other agents
are and do. The agent's code may not see the handle of its pending timer; that of the others may. -/
theorem isolated_of_play {reconsiderNow : Option Span} {left right : List (Call vocabulary)}
    {leftWorld rightWorld : World vocabulary}
    (created : World.create config reconsiderNow = .ok world)
    (blind : repertoire.Blind reach)
    (unseeing : ∀ concern ∈ concerns agent config 0 0 left,
      concern.Blind reach (.forAgent config.seed agent))
    (agree : concerns agent config 0 0 left = concerns agent config 0 0 right)
    (leftPlayed : (world.play repertoire left).outcome = .ok leftWorld)
    (rightPlayed : (world.play repertoire right).outcome = .ok rightWorld)
    (leftFew : (world.play repertoire left).armings ≤ 2 ^ 32 - 1)
    (rightFew : (world.play repertoire right).armings ≤ 2 ^ 32 - 1) :
    leftWorld.glimpse agent = rightWorld.glimpse agent ∧
      heard agent (world.play repertoire left).journal =
        heard agent (world.play repertoire right).journal := by
  obtain ⟨leftAlone, leftEntries, leftGiven, leftGlimpse, leftHeard⟩ :=
    alone_of_play created blind unseeing leftPlayed leftFew
  rw [agree] at unseeing leftGiven
  obtain ⟨rightAlone, rightEntries, rightGiven, rightGlimpse, rightHeard⟩ :=
    alone_of_play created blind unseeing rightPlayed rightFew
  cases leftGiven.symm.trans rightGiven
  exact ⟨leftGlimpse.trans rightGlimpse.symm, leftHeard.symm.trans rightHeard⟩

/-- Grace has her plans changed and is hailed. In one world her neighbour patrols and goes down; in
the other it drifts, and a third ship sets out. Only the handles of her timers differ. -/
theorem isolated_of_play_patrol :
    let grace : AgentId := ⟨1, by decide⟩
    let left : List (Call Patrol.ships) :=
      [.spawn (.fresh "Ada") "patrol" Patrol.start, .spawn (.fresh "Grace") "patrol" Patrol.start,
        .runTicks 2, .withAgent grace (Program.request (.schedule (Patrol.seconds 1))),
        .post grace ⟨"hail"⟩ ⟨"Krait", 0⟩, .destroy ⟨0, by decide⟩ ⟨"Krait", 100⟩, .runTicks 4]
    let right : List (Call Patrol.ships) :=
      [.spawn (.fresh "Alan") "idle" (Program.pure ()),
        .spawn (.fresh "Grace") "patrol" Patrol.start, .runTicks 1,
        .spawn (.fresh "Edsger") "patrol" Patrol.start, .runTicks 1,
        .withAgent grace (Program.request (.schedule (Patrol.seconds 1))),
        .post grace ⟨"hail"⟩ ⟨"Krait", 0⟩, .runTicks 4]
    ∃ world leftWorld rightWorld, World.create .standard none = .ok world ∧
      (world.play Patrol.repertoire left).outcome = .ok leftWorld ∧
      (world.play Patrol.repertoire right).outcome = .ok rightWorld ∧
      (leftWorld.controller? grace).bind Controller.pending ≠
        (rightWorld.controller? grace).bind Controller.pending ∧
      (heard grace (world.play Patrol.repertoire left).journal).length = 2 ∧
      leftWorld.glimpse grace = rightWorld.glimpse grace ∧
      heard grace (world.play Patrol.repertoire left).journal =
        heard grace (world.play Patrol.repertoire right).journal := by
  intro grace left right
  have unseeing : ∀ concern ∈ concerns grace .standard 0 0 left,
      concern.Blind Patrol.everything (.forAgent Config.standard.seed grace) := by
    intro concern member
    change concern ∈ ([.spawn (.fresh "Grace") "patrol" Patrol.start, .tick, .tick,
      .withAgent (Program.request (.schedule (Patrol.seconds 1))), .post ⟨"hail"⟩ ⟨"Krait", 0⟩,
      .tick, .tick, .tick, .tick] : List (Concern Patrol.ships)) at member
    simp only [List.mem_cons, List.not_mem_nil, or_false] at member
    rcases member with rfl | rfl | rfl | rfl | rfl | rfl | rfl | rfl | rfl
    · exact ⟨trivial, Patrol.start_blind⟩
    · exact trivial
    · exact trivial
    · exact .request trivial fun _ _ same => same
    all_goals exact trivial
  obtain ⟨world, created, rest⟩ : ∃ world, World.create .standard none = .ok world ∧
      ((world.play Patrol.repertoire left).outcome.toOption.any fun leftWorld =>
        (world.play Patrol.repertoire right).outcome.toOption.any fun rightWorld =>
          decide ((world.play Patrol.repertoire left).armings ≤ 2 ^ 32 - 1 ∧
            (world.play Patrol.repertoire right).armings ≤ 2 ^ 32 - 1 ∧
            (leftWorld.controller? grace).bind Controller.pending ≠
              (rightWorld.controller? grace).bind Controller.pending ∧
            (heard grace (world.play Patrol.repertoire left).journal).length = 2)) = true :=
    exists_ok (by decide +kernel)
  obtain ⟨leftWorld, leftPlayed, rest⟩ := exists_ok rest
  obtain ⟨rightWorld, rightPlayed, facts⟩ := exists_ok rest
  obtain ⟨leftFew, rightFew, different, two⟩ := of_decide_eq_true facts
  exact ⟨world, leftWorld, rightWorld, created, leftPlayed, rightPlayed, different, two,
    isolated_of_play created Patrol.repertoire_blind unseeing rfl leftPlayed rightPlayed leftFew
      rightFew⟩

end World

end PriorityAgents
