import PriorityAgents.Proofs.World.Usher

/-!
What agents keep up in their turns, in the course of a world.

A turn of one agent is no matter of the others, and a slot is never given to a second agent, so
nothing has been told of an agent before it is spawned. By induction over the calls of a host that
keeps to an etiquette, what holds turn by turn holds throughout.
-/

set_option autoImplicit false

namespace PriorityAgents

variable {vocabulary : Vocabulary} {ε α : Type} {usher : Usher vocabulary ε}
  {etiquette : Etiquette vocabulary} {regime : Regime vocabulary ε} {taken : Nat}
  {past more : List ε}

namespace Etiquette

variable (etiquette : Etiquette vocabulary)

def Admits : Call vocabulary → Prop
  | .spawn agent _ setup => etiquette.spawns agent setup
  | .spawnWithTree agent _ tree => etiquette.spawns agent (Program.request (.setPriorities tree))
  | .withAgent agent program => etiquette.calls agent program
  | .post agent name payload => etiquette.posts agent name payload
  | .destroy agent _ => etiquette.destroys agent
  | .run | .runTicks _ => True

def Queued (events : List (PendingEvent vocabulary)) : Prop :=
  ∀ event ∈ events, etiquette.posts event.agent event.name event.payload

end Etiquette

namespace Regime

def Own (regime : Regime vocabulary ε) (agent : AgentId) (more : List ε) : Prop :=
  ∀ mark ∈ more, ∀ other, regime.agent? mark = some other → other = agent

private theorem Turn.since {agent : AgentId} {turn : Journaled ε (α × Context vocabulary)}
    (taken : regime.Turn past agent turn) :
    turn.Continues regime.good (fun history reached =>
      ∃ more, history = past ++ more ∧ regime.Own agent more ∧
        regime.invariant (past ++ more) agent reached.2.controller) past := by
  refine Journaled.Continues.imp (Journaled.Continues.since taken) (fun _ _ known => known.2) ?_
  rintro history reached ⟨kept, more, rfl, judged⟩
  refine ⟨more, rfl, fun mark member => ?_, kept⟩
  obtain ⟨_, own, _⟩ := judged mark member
  exact own

end Regime

namespace Roster

variable {roster : Roster vocabulary} {context done : Context vocabulary} {agent : AgentId}

/-- Every agent keeps up what it has to, and nothing has been told of agents to come. -/
structure Heeds (roster : Roster vocabulary) (regime : Regime vocabulary ε) (taken : Nat)
    (past : List ε) : Prop where
  slots : ∀ agent controller, roster.controller? agent = some controller →
    regime.invariant past agent controller
  told : ∀ mark ∈ past, ∀ agent, regime.agent? mark = some agent →
    agent.index < roster.controllers.size
  taken : taken ≤ roster.controllers.size

namespace Heeds

private theorem context_of (heeds : roster.Heeds regime taken past)
    (found : roster.context? agent = some context) :
    regime.invariant past agent context.controller :=
  heeds.slots agent context.controller (context?_eq_some.mp found).1

private theorem retimed (heeds : roster.Heeds regime taken past) (timers : TimerQueue) :
    ({ roster with timers } : Roster vocabulary).Heeds regime taken past :=
  ⟨heeds.slots, heeds.told, heeds.taken⟩

private theorem entered (heeds : roster.Heeds regime taken past)
    (upholds : usher.Upholds etiquette regime taken) (entries : List Entry) :
    roster.Heeds regime taken (past ++ entries.map usher.enter) := by
  have silent : ∀ mark ∈ entries.map usher.enter, regime.agent? mark = none := by
    intro mark member
    obtain ⟨entry, _, rfl⟩ := List.mem_map.mp member
    exact upholds.impersonal entry
  refine ⟨fun agent controller found => ?_, fun mark member agent about => ?_, heeds.taken⟩
  · refine upholds.aside (heeds.slots agent controller found) fun mark member => ?_
    rw [silent mark member]
    exact nofun
  · rcases List.mem_append.mp member with early | late
    · exact heeds.told mark early agent about
    · rw [silent mark late] at about
      cases about

theorem told_append (heeds : roster.Heeds regime taken past) (own : regime.Own agent more)
    {size : Nat} (grown : roster.controllers.size ≤ size) (room : agent.index < size) :
    ∀ mark ∈ past ++ more, ∀ other, regime.agent? mark = some other → other.index < size := by
  intro mark member other about
  rcases List.mem_append.mp member with early | late
  · exact Nat.lt_of_lt_of_le (heeds.told mark early other about) grown
  · rw [own mark late other about]
    exact room

theorem slots_append (heeds : roster.Heeds regime taken past)
    (upholds : usher.Upholds etiquette regime taken) (own : regime.Own agent more)
    {other : AgentId} {controller : Controller vocabulary} (different : other ≠ agent)
    (found : roster.controller? other = some controller) :
    regime.invariant (past ++ more) other controller :=
  upholds.aside (heeds.slots other controller found) fun mark member about =>
    different (own mark member other about)

private theorem keep (heeds : roster.Heeds regime taken past)
    (upholds : usher.Upholds etiquette regime taken)
    (found : roster.context? agent = some context) (own : regime.Own agent more)
    (kept : regime.invariant (past ++ more) agent done.controller) :
    (roster.keep agent done).Heeds regime taken (past ++ more) := by
  have occupied := (context?_eq_some.mp found).1
  have within := (Array.getElem?_eq_some_iff.mp (controller?_eq_some.mp occupied)).1
  refine ⟨fun other controller seen => ?_, ?_, ?_⟩
  · rcases controller?_keep_cases occupied seen with ⟨rfl, rfl⟩ | ⟨different, before⟩
    · exact kept
    · exact heeds.slots_append upholds own different before
  · rw [size_keep]
    exact heeds.told_append own (Nat.le_refl _) within
  · rw [size_keep]
    exact heeds.taken

private theorem enlist (heeds : roster.Heeds regime taken past)
    (upholds : usher.Upholds etiquette regime taken)
    (next : agent.index = roster.controllers.size) (own : regime.Own agent more)
    (kept : regime.invariant (past ++ more) agent done.controller) :
    (roster.enlist done).Heeds regime taken (past ++ more) := by
  have size : (roster.enlist done).controllers.size = roster.controllers.size + 1 :=
    Array.size_push _
  refine ⟨fun other controller seen => ?_, ?_, ?_⟩
  · rw [controller?_eq_some] at seen
    change (roster.controllers.push (some done.controller))[other.index]? = _ at seen
    rw [Array.getElem?_push, ← next] at seen
    by_cases same : other.index = agent.index
    · rw [if_pos same] at seen
      cases seen
      rwa [AgentId.ext same]
    · rw [if_neg same] at seen
      exact heeds.slots_append upholds own (fun equal => same (congrArg AgentId.index equal))
        (controller?_eq_some.mpr seen)
  · rw [size]
    exact heeds.told_append own (Nat.le_succ _) (next ▸ Nat.lt_succ_self _)
  · rw [size]
    exact Nat.le_succ_of_le heeds.taken

private theorem discharge (heeds : roster.Heeds regime taken past)
    (upholds : usher.Upholds etiquette regime taken)
    (found : roster.context? agent = some context) (own : regime.Own agent more)
    (timers : TimerQueue) :
    (roster.discharge agent timers).Heeds regime taken (past ++ more) := by
  have occupied := (context?_eq_some.mp found).1
  have within := (Array.getElem?_eq_some_iff.mp (controller?_eq_some.mp occupied)).1
  have size : (roster.discharge agent timers).controllers.size = roster.controllers.size :=
    Array.size_setIfInBounds
  refine ⟨fun other controller seen => ?_, ?_, ?_⟩
  · rw [controller?_discharge] at seen
    by_cases same : other = agent
    · rw [if_pos same] at seen
      cases seen
    · rw [if_neg same] at seen
      exact heeds.slots_append upholds own same seen
  · rw [size]
    exact heeds.told_append own (Nat.le_refl _) within
  · rw [size]
    exact heeds.taken

private theorem carry (heeds : roster.Heeds regime taken past)
    (upholds : usher.Upholds etiquette regime taken) (logged : Logged α) :
    (usher.carry logged).Continues regime.good
      (fun history _ => roster.Heeds regime taken history) past :=
  upholds.carry fun _ _ => heeds.entered upholds _

private theorem turn (heeds : roster.Heeds regime taken past)
    (upholds : usher.Upholds etiquette regime taken)
    (found : roster.context? agent = some context)
    {turn : Journaled ε (α × Context vocabulary)} (done : regime.Turn past agent turn) :
    turn.Continues regime.good
      (fun history reached => (roster.keep agent reached.2).Heeds regime taken history) past := by
  refine done.since.imp (fun _ _ good => good) ?_
  rintro _ reached ⟨more, rfl, own, kept⟩
  exact heeds.keep upholds found own kept

private theorem deliver (heeds : roster.Heeds regime taken past)
    (upholds : usher.Upholds etiquette regime taken) (now : Tick)
    {event : PendingEvent vocabulary}
    (allowed : etiquette.posts event.agent event.name event.payload) :
    (roster.deliverBy usher now event).Continues regime.good
      (fun history later => later.Heeds regime taken history) past := by
  unfold deliverBy
  cases found : roster.context? event.agent with
  | none => exact (heeds.carry upholds _).bind fun _ _ kept => .pure kept
  | some context =>
      refine (heeds.turn upholds found (upholds.event allowed (heeds.context_of found))).bind
        fun _ reached kept => ?_
      exact (kept.carry upholds _).bind fun _ _ kept => .pure kept

private theorem deliverAll (heeds : roster.Heeds regime taken past)
    (upholds : usher.Upholds etiquette regime taken) (now : Tick)
    {events : List (PendingEvent vocabulary)} (allowed : etiquette.Queued events) :
    (roster.deliverAllBy usher now events).Continues regime.good
      (fun history later => later.Heeds regime taken history) past := by
  induction events generalizing roster past with
  | nil => exact .pure heeds
  | cons event events ih =>
      obtain ⟨first, rest⟩ := List.forall_mem_cons.mp allowed
      exact (heeds.deliver upholds now first).bind fun _ _ kept => ih kept rest

private theorem routeAll (heeds : roster.Heeds regime taken past)
    (upholds : usher.Upholds etiquette regime taken) (now : Tick) (timers : List Timer) :
    (roster.routeAllBy usher now timers).Continues regime.good
      (fun history reached => reached.2.Heeds regime taken history) past := by
  induction timers generalizing roster past with
  | nil => exact .pure heeds
  | cons timer timers ih =>
      unfold routeAllBy
      cases found : roster.context? timer.owner with
      | none => exact ih heeds
      | some context =>
          have turned := heeds.turn upholds found
            (upholds.timer timer.handle (heeds.context_of found))
          refine turned.bind fun _ reached kept => (kept.carry upholds _).bind fun _ _ kept => ?_
          exact (ih kept).bind fun _ _ kept => .pure kept

private theorem fire (heeds : roster.Heeds regime taken past)
    (upholds : usher.Upholds etiquette regime taken) (now : Tick) :
    (roster.fireBy usher now).Continues regime.good
      (fun history reached => reached.2.Heeds regime taken history) past := by
  have drained : (liftM (roster.timers.drain now) : Journaled ε _).Continues regime.good
      (fun history reached =>
        ({ roster with timers := reached.2 } : Roster vocabulary).Heeds regime taken history)
      past := .lift fun reached _ => heeds.retimed reached.2
  refine drained.bind fun _ reached kept => (kept.carry upholds _).bind fun _ _ kept => ?_
  exact kept.routeAll upholds now reached.1

end Heeds

end Roster

namespace World

variable {world : World vocabulary} {agent : AgentId}

structure Heeds (world : World vocabulary) (etiquette : Etiquette vocabulary)
    (regime : Regime vocabulary ε) (taken : Nat) (past : List ε) : Prop where
  roster : world.roster.Heeds regime taken past
  queued : etiquette.Queued world.events

namespace Heeds

theorem create {config : Config} {reconsiderNow : Option Span}
    (created : World.create config reconsiderNow = .ok world) (etiquette : Etiquette vocabulary)
    (regime : Regime vocabulary ε) : world.Heeds etiquette regime 0 [] := by
  obtain ⟨_, _, _, _, rfl⟩ := of_create created
  refine ⟨⟨fun agent controller found => ?_, nofun, Nat.le_refl _⟩, nofun⟩
  have slot := Roster.controller?_eq_some.mp found
  cases slot

private theorem turned (heeds : world.Heeds etiquette regime taken past)
    {roster : Roster vocabulary} (kept : roster.Heeds regime taken more) :
    ({ world with roster } : World vocabulary).Heeds etiquette regime taken more :=
  ⟨kept, heeds.queued⟩

private theorem tick (heeds : world.Heeds etiquette regime taken past)
    (upholds : usher.Upholds etiquette regime taken) :
    (world.tickBy usher).Continues regime.good
      (fun history later => later.Heeds etiquette regime taken history) past := by
  unfold tickBy
  refine (heeds.roster.carry upholds _).bind fun _ _ kept => ?_
  refine ((kept.retimed _).deliverAll upholds _ heeds.queued).bind fun _ _ kept => ?_
  refine (kept.fire upholds _).bind fun _ reached kept => ?_
  refine (kept.carry upholds _).bind fun history _ kept => ?_
  have advanced : (liftM world.clock.advance : Journaled ε Clock).Continues regime.good
      (fun history _ => reached.2.Heeds regime taken history) history := .lift fun _ _ => kept
  exact advanced.bind fun _ _ kept => .pure ⟨kept, nofun⟩

private theorem ticks (heeds : world.Heeds etiquette regime taken past)
    (upholds : usher.Upholds etiquette regime taken) (count : Nat) :
    (world.ticksBy usher count).Continues regime.good
      (fun history later => later.Heeds etiquette regime taken history) past := by
  induction count generalizing world past with
  | zero => exact .pure heeds
  | succ count ih => exact (heeds.tick upholds).bind fun _ _ kept => ih kept

private theorem toEnd (heeds : world.Heeds etiquette regime taken past)
    (upholds : usher.Upholds etiquette regime taken) :
    (world.toEndBy usher).Continues regime.good
      (fun history later => later.Heeds etiquette regime taken history) past :=
  (heeds.ticks upholds _).bind fun _ _ kept => (kept.roster.carry upholds _).bind
    fun _ _ roster => .pure ⟨roster, kept.queued⟩

private theorem spawn (heeds : world.Heeds etiquette regime taken past)
    (upholds : usher.Upholds etiquette regime taken) {state : vocabulary.State}
    {setup : Program vocabulary Unit} (allowed : etiquette.spawns state setup) (name : String) :
    (world.spawnBy usher state name setup).Continues regime.good
      (fun history later => later.Heeds etiquette regime taken history) past := by
  unfold spawnBy
  cases free : agentIdFor world.roster.controllers.size with
  | error cause => exact .pure heeds
  | ok id =>
      have index := (agentIdFor_eq_ok.mp free).1
      have unheard : ∀ mark ∈ past, regime.agent? mark ≠ some id := fun mark member about =>
        Nat.ne_of_lt (heeds.roster.told mark member id about) index
      have turn := upholds.spawn name world.config.seed world.reconsiderNow
        (world.roster.advanceTo world.clock.now).timers allowed
        (Nat.le_trans heeds.roster.taken (Nat.le_of_eq index.symm)) unheard
      refine turn.since.bind ?_
      rintro _ reached ⟨more, rfl, own, kept⟩
      have enlisted := (heeds.roster.retimed _).enlist upholds index own kept
      exact (enlisted.carry upholds _).bind fun _ _ kept => .pure (heeds.turned kept)

private theorem withAgent (heeds : world.Heeds etiquette regime taken past)
    (upholds : usher.Upholds etiquette regime taken) {program : Program vocabulary α}
    (allowed : etiquette.calls agent program) :
    (world.withAgentBy usher agent program).Continues regime.good
      (fun history later => later.Heeds etiquette regime taken history) past := by
  unfold withAgentBy
  cases found : (world.roster.advanceTo world.clock.now).context? agent with
  | none => exact .pure heeds
  | some context =>
      have advanced := heeds.roster.retimed (world.roster.timers.advanceTo world.clock.now)
      have turned := advanced.turn upholds found
        (upholds.call allowed (advanced.context_of found))
      exact turned.bind fun _ _ kept => .pure (heeds.turned kept)

private theorem post (heeds : world.Heeds etiquette regime taken past) {name : EventName}
    {payload : vocabulary.Payload} (allowed : etiquette.posts agent name payload) :
    (world.after ((world.post agent name payload).map fun later => ((), later))).Heeds
      etiquette regime taken past := by
  unfold World.post
  cases world.controller? agent with
  | none => exact heeds
  | some _ =>
      refine ⟨heeds.roster, fun event member => ?_⟩
      rcases List.mem_append.mp member with before | new
      · exact heeds.queued event before
      · cases List.mem_singleton.mp new
        exact allowed

private theorem destroy (heeds : world.Heeds etiquette regime taken past)
    (upholds : usher.Upholds etiquette regime taken) (allowed : etiquette.destroys agent)
    (payload : vocabulary.Payload) :
    (world.destroyBy usher agent payload).Continues regime.good
      (fun history later => later.Heeds etiquette regime taken history) past := by
  unfold destroyBy
  cases found : world.roster.context? agent with
  | none => exact .pure heeds
  | some context =>
      have told := upholds.farewell payload allowed (heeds.roster.context_of found)
      refine told.since.bind ?_
      rintro _ heard ⟨first, rfl, ownFirst, kept⟩
      have torn := Journaled.Continues.since (upholds.teardown allowed kept)
      refine (torn.imp (fun _ _ known => known.2) fun _ _ known => known).bind ?_
      rintro _ left ⟨_, second, rfl, judged⟩
      have own : regime.Own agent (first ++ second) := by
        intro mark member
        rcases List.mem_append.mp member with early | late
        · exact ownFirst mark early
        · obtain ⟨_, ownSecond, _⟩ := judged mark late
          exact ownSecond
      have discharged := heeds.roster.discharge upholds found own left.timers
      rw [List.append_assoc]
      exact (discharged.carry upholds _).bind fun _ _ kept => .pure (heeds.turned kept)

theorem obey (heeds : world.Heeds etiquette regime taken past)
    (upholds : usher.Upholds etiquette regime taken) {call : Call vocabulary}
    (allowed : etiquette.Admits call) :
    (world.obeyBy usher call).Continues regime.good
      (fun history later => later.Heeds etiquette regime taken history) past := by
  cases call with
  | spawn agent name setup => exact heeds.spawn upholds allowed name
  | spawnWithTree agent name tree => exact heeds.spawn upholds allowed name
  | withAgent agent program => exact heeds.withAgent upholds allowed
  | post agent name payload => exact .pure (heeds.post allowed)
  | destroy agent payload => exact heeds.destroy upholds allowed payload
  | run => exact heeds.toEnd upholds
  | runTicks count => exact heeds.ticks upholds count

/-- What agents keep up from turn to turn they keep up in every play. -/
theorem play (heeds : world.Heeds etiquette regime taken past)
    (upholds : usher.Upholds etiquette regime taken) {calls : List (Call vocabulary)}
    (allowed : ∀ call ∈ calls, etiquette.Admits call) :
    (world.playBy usher calls).Continues regime.good
      (fun history later => later.Heeds etiquette regime taken history) past := by
  induction calls generalizing world past with
  | nil => exact .pure heeds
  | cons call calls ih =>
      obtain ⟨first, rest⟩ := List.forall_mem_cons.mp allowed
      exact (heeds.obey upholds first).bind fun _ _ kept => ih kept rest

end Heeds

end World

end PriorityAgents
