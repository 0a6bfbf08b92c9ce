import PriorityAgents.Proofs.Random.Seeds
import PriorityAgents.Proofs.World.Drivers
import PriorityAgents.Proofs.World.Register

/-!
The random streams of the agents of a world.

A newcomer goes to work with a generator that is made from the seed of the world and its own
identity, and from nothing else. Identities are given out once, and the seeds of two identities are
never the same, so no two agents that ever come into a world begin with the same seed. That takes a
host that leaves the seed of the world alone; what it changes besides does not matter.
-/

set_option autoImplicit false

namespace PriorityAgents

variable {vocabulary : Vocabulary} {repertoire : Repertoire vocabulary} {journal : List Entry}
  {globalSeed : UInt64}

def HostAct.KeepsSeed (globalSeed : UInt64) : HostAct vocabulary → Prop
  | .call _ => True
  | .rearrange config _ _ _ => config.seed = globalSeed

namespace World

variable {world later : World vocabulary} {act : HostAct vocabulary} {reply : Reply}

/-- The agent that comes with an act of the host, as it goes to work. -/
def newcomer? (world : World vocabulary) :
    HostAct vocabulary → Reply → Option (Controller vocabulary)
  | .call (.spawn state name _), .spawned agent
  | .call (.spawnWithTree state name _), .spawned agent =>
      some (world.newcomer agent state name).controller
  | _, _ => none

def welcomeAll (repertoire : Repertoire vocabulary) (world : World vocabulary) :
    List (HostAct vocabulary) → Logged (List (Controller vocabulary) × World vocabulary)
  | [] => pure ([], world)
  | act :: acts => do
      let (reply, later) ← world.consult repertoire act
      let (newcomers, last) ← later.welcomeAll repertoire acts
      pure ((world.newcomer? act reply).toList ++ newcomers, last)

/-- Agents that come into a world with a seed, in turn, and their streams. -/
structure Streams (globalSeed : UInt64) (newcomers : List (Controller vocabulary))
    (world : World vocabulary) : Prop where
  /-- There is one newcomer for each slot. -/
  numbered : (newcomers.map fun newcomer => newcomer.id.index) =
    List.range world.roster.controllers.size
  begun : ∀ newcomer ∈ newcomers,
    newcomer.mind.generator = .ofSeed (Generator.streamSeed globalSeed newcomer.id)
  apart : newcomers.Pairwise fun earlier later =>
    Generator.streamSeed globalSeed earlier.id ≠ Generator.streamSeed globalSeed later.id

/-! ### One act -/

private theorem spawned?_answered {α : Type} {answer : Except WorldError (α × World vocabulary)}
    (told : world.answered (fun _ => .done) answer = (reply, later)) : reply.spawned? = none := by
  cases answer <;> cases told <;> rfl

private theorem id_newcomer? (given : (world.consult repertoire act).Gives (reply, later) journal) :
    (world.newcomer? act reply).map Controller.id = reply.spawned? := by
  have nobody {α : Type} {call : Logged (Except WorldError (α × World vocabulary))}
      (consulted : (world.answered (fun _ => .done) <$> call).Gives (reply, later) journal) :
      reply.spawned? = none := by
    obtain ⟨_, _, told⟩ := Journaled.gives_map.mp consulted
    exact spawned?_answered told
  cases act with
  | rearrange config clock timers change =>
      obtain ⟨_, _, told⟩ := Journaled.gives_map.mp given
      cases told
      rfl
  | call call =>
      cases call with
      | spawn state name setup => cases reply <;> rfl
      | spawnWithTree state name tree => cases reply <;> rfl
      | withAgent agent program => exact (nobody given).symm
      | post agent name payload =>
          obtain ⟨told, _⟩ := Journaled.gives_pure.mp given
          exact (spawned?_answered told).symm
      | destroy agent payload => exact (nobody given).symm
      | run =>
          obtain ⟨_, _, told⟩ := Journaled.gives_map.mp given
          cases told
          rfl
      | runTicks count =>
          obtain ⟨_, _, told⟩ := Journaled.gives_map.mp given
          cases told
          rfl

private theorem generator_of_newcomer? {newcomer : Controller vocabulary}
    (comes : newcomer ∈ world.newcomer? act reply) :
    newcomer.mind.generator =
      .ofSeed (Generator.streamSeed world.config.seed newcomer.id) := by
  unfold newcomer? at comes
  split at comes <;> cases comes <;> rfl

private theorem config_of_spawn {state : vocabulary.State} {name : String}
    {setup : Program vocabulary Unit} {answer : Except WorldError (AgentId × World vocabulary)}
    (given : (world.spawn repertoire state name setup).Gives answer journal) :
    (world.after answer).config = world.config := by
  have outcome := gives_spawn.mp given
  split at outcome
  · obtain ⟨rfl, _⟩ := outcome
    rfl
  · obtain ⟨_, _, _, rfl, _⟩ := outcome
    rfl

private theorem config_of_withAgent {α : Type} {agent : AgentId} {program : Program vocabulary α}
    {answer : Except WorldError (α × World vocabulary)}
    (given : (world.withAgent repertoire agent program).Gives answer journal) :
    (world.after answer).config = world.config := by
  have outcome := gives_withAgent.mp given
  split at outcome
  · obtain ⟨rfl, _⟩ := outcome
    rfl
  · obtain ⟨_, _, _, rfl⟩ := outcome
    rfl

private theorem config_of_destroy {agent : AgentId} {payload : vocabulary.Payload}
    {answer : Except WorldError (Controller vocabulary × World vocabulary)}
    (given : (world.destroy repertoire agent payload).Gives answer journal) :
    (world.after answer).config = world.config := by
  have outcome := gives_destroy.mp given
  split at outcome
  · obtain ⟨rfl, _⟩ := outcome
    rfl
  · obtain ⟨_, _, _, _, _, _, _, rfl, _⟩ := outcome
    rfl

private theorem config_of_toEnd (given : (world.toEnd repertoire).Gives later journal) :
    later.config = world.config := by
  rw [toEnd_eq_ticks] at given
  obtain ⟨_, _, _, ticked, rest, _⟩ := Journaled.gives_bind.mp given
  obtain ⟨_, _, _, _, final, _⟩ := Journaled.gives_bind.mp rest
  obtain ⟨rfl, _⟩ := Journaled.gives_pure.mp final
  exact (config_clock_of_ticks ticked.outcome).1

private theorem config_of_obey {call : Call vocabulary}
    (given : (world.obey repertoire call).Gives later journal) :
    later.config = world.config := by
  cases call with
  | spawn state name setup =>
      obtain ⟨_, spawned, rfl⟩ := Journaled.gives_map.mp given
      exact config_of_spawn spawned
  | spawnWithTree state name tree =>
      obtain ⟨_, spawned, rfl⟩ := Journaled.gives_map.mp given
      exact config_of_spawn spawned
  | withAgent agent program =>
      obtain ⟨_, ran, rfl⟩ := Journaled.gives_map.mp given
      exact config_of_withAgent ran
  | post agent name payload =>
      obtain ⟨rfl, _⟩ := Journaled.gives_pure.mp given
      unfold World.post
      cases world.controller? agent <;> rfl
  | destroy agent payload =>
      obtain ⟨_, destroyed, rfl⟩ := Journaled.gives_map.mp given
      exact config_of_destroy destroyed
  | run =>
      obtain ⟨_, ran, rfl⟩ := Journaled.gives_map.mp given
      exact config_of_toEnd (Logged.gives_observed.mp ran).1
  | runTicks count =>
      obtain ⟨_, ran, rfl⟩ := Journaled.gives_map.mp given
      exact (config_clock_of_ticks (Logged.gives_observed.mp ran).1.outcome).1

private theorem seed_of_consult (kept : act.KeepsSeed globalSeed)
    (seed : world.config.seed = globalSeed)
    (given : (world.consult repertoire act).Gives (reply, later) journal) :
    later.config.seed = globalSeed := by
  have underwent : (world.undergo repertoire act).Gives later journal := by
    rw [← snd_consult]
    exact Journaled.gives_map.mpr ⟨_, given, rfl⟩
  cases act with
  | rearrange config clock timers change =>
      obtain ⟨rfl, _⟩ := Journaled.gives_pure.mp underwent
      exact kept
  | call call => exact (congrArg Config.seed (config_of_obey underwent)).trans seed

/-! ### All acts of a host -/

private theorem welcomed_of_consultAll {acts : List (HostAct vocabulary)} {replies : List Reply}
    (given : (world.consultAll repertoire acts).Gives (replies, later) journal) :
    ∃ newcomers, (world.welcomeAll repertoire acts).Gives (newcomers, later) journal ∧
      newcomers.map Controller.id = Dealings.spawned (acts.zip replies) := by
  induction acts generalizing world replies journal with
  | nil =>
      obtain ⟨reached, rfl⟩ := Journaled.gives_pure.mp given
      cases reached
      exact ⟨[], rfl, rfl⟩
  | cons act acts ih =>
      obtain ⟨⟨reply, middle⟩, _, _, consulted, more, rfl⟩ := Journaled.gives_bind.mp given
      obtain ⟨⟨rest, last⟩, _, _, others, final, rfl⟩ := Journaled.gives_bind.mp more
      obtain ⟨reached, rfl⟩ := Journaled.gives_pure.mp final
      cases reached
      obtain ⟨newcomers, welcomed, ids⟩ := ih others
      refine ⟨(world.newcomer? act reply).toList ++ newcomers, Journaled.gives_bind.mpr
        ⟨_, _, _, consulted, Journaled.gives_bind.mpr ⟨_, _, _, welcomed, rfl, rfl⟩, rfl⟩, ?_⟩
      have first := id_newcomer? consulted
      unfold Dealings.spawned
      rw [List.map_append, ids, List.zip_cons_cons, List.filterMap_cons, ← first]
      cases world.newcomer? act reply <;> rfl

private theorem begun_of_welcomeAll {acts : List (HostAct vocabulary)}
    {newcomers : List (Controller vocabulary)} (seed : world.config.seed = globalSeed)
    (kept : ∀ act ∈ acts, act.KeepsSeed globalSeed)
    (given : (world.welcomeAll repertoire acts).Gives (newcomers, later) journal) :
    ∀ newcomer ∈ newcomers,
      newcomer.mind.generator = .ofSeed (Generator.streamSeed globalSeed newcomer.id) := by
  induction acts generalizing world newcomers journal with
  | nil =>
      obtain ⟨reached, _⟩ := Journaled.gives_pure.mp given
      cases reached
      exact nofun
  | cons act acts ih =>
      obtain ⟨⟨reply, middle⟩, _, _, consulted, more, _⟩ := Journaled.gives_bind.mp given
      obtain ⟨⟨rest, last⟩, _, _, others, final, _⟩ := Journaled.gives_bind.mp more
      obtain ⟨reached, _⟩ := Journaled.gives_pure.mp final
      cases reached
      obtain ⟨here, later⟩ := List.forall_mem_cons.mp kept
      intro newcomer member
      rcases List.mem_append.mp member with now | afterwards
      · rw [← seed]
        exact generator_of_newcomer? (Option.mem_toList.mp now)
      · exact ih (seed_of_consult here seed consulted) later others newcomer afterwards

/-- Slots are numbered, so newcomers have identities of their own, and with them seeds. -/
theorem apart_of_numbered {newcomers : List (Controller vocabulary)} {slots : Nat}
    (numbered : (newcomers.map fun newcomer => newcomer.id.index) = List.range slots) :
    newcomers.Pairwise fun earlier later =>
      Generator.streamSeed globalSeed earlier.id ≠ Generator.streamSeed globalSeed later.id := by
  have distinct : (newcomers.map fun newcomer => newcomer.id.index).Nodup := by
    rw [numbered]
    exact List.nodup_range
  refine (List.pairwise_map.mp distinct).imp fun different same => different ?_
  exact congrArg AgentId.index (Generator.streamSeed_right_inj.mp same)

/-- Under every seed of a run, the seed of a stream is that seed with the scattered identity laid
over it, and any two identities have different ones. So whatever a host does with a world under that
seed from its beginning, no two of the agents that come into it begin with the same seed. -/
theorem streams_apart (globalSeed : UInt64) :
    (∀ agent : AgentId,
      Generator.forAgent globalSeed agent = .ofSeed (Generator.streamSeed globalSeed agent) ∧
      (Generator.streamSeed globalSeed agent).toNat =
        globalSeed.toNat ^^^ (agent.index * 0x9e3779b97f4a7c15 % 2 ^ 64)) ∧
    (∀ agent other : AgentId, agent ≠ other →
      Generator.streamSeed globalSeed agent ≠ Generator.streamSeed globalSeed other) ∧
    ∀ (vocabulary : Vocabulary) (repertoire : Repertoire vocabulary) (config : Config)
      (reconsiderNow : Option Span) (start world : World vocabulary)
      (acts : List (HostAct vocabulary)),
      config.seed = globalSeed → (∀ act ∈ acts, act.KeepsSeed globalSeed) →
      World.create config reconsiderNow = .ok start →
      (start.undergoAll repertoire acts).outcome = .ok world →
      ∃ newcomers, (start.welcomeAll repertoire acts).outcome = .ok (newcomers, world) ∧
        world.Streams globalSeed newcomers := by
  refine ⟨fun agent => ⟨rfl, Generator.toNat_streamSeed globalSeed agent⟩,
    fun agent other distinct same => distinct (Generator.streamSeed_right_inj.mp same), ?_⟩
  intro vocabulary repertoire config reconsiderNow start world acts seed kept created underwent
  rw [← snd_consultAll] at underwent
  obtain ⟨⟨replies, reached⟩, given, rfl⟩ :=
    Journaled.gives_map.mp (Journaled.gives_of_outcome underwent)
  obtain ⟨newcomers, welcomed, ids⟩ := welcomed_of_consultAll given
  have books := (books_of_consultAll (books_of_create created) given).1
  have numbered : (newcomers.map fun newcomer => newcomer.id.index) =
      List.range reached.roster.controllers.size := by
    rw [← books.numbered, List.nil_append, ← ids, List.map_map]
    rfl
  have seeded : start.config.seed = globalSeed := by
    obtain ⟨_, _, _, _, rfl⟩ := of_create created
    exact seed
  exact ⟨newcomers, welcomed.outcome, numbered, begun_of_welcomeAll seeded kept welcomed,
    apart_of_numbered numbered⟩

/-- The host makes the run shorter before three ships come, the last of them after the first one is
taken out. -/
theorem streams_apart_patrol :
    let config : Config := { Config.standard with seed := 7 }
    let ada : AgentId := ⟨0, by decide⟩
    let acts (start : World Patrol.ships) : List (HostAct Patrol.ships) :=
      [.rearrange { config with totalTicks := 8 } start.clock start.roster.timers
          fun _ controller => controller,
        .call (.spawn (.fresh "Ada") "patrol" Patrol.start),
        .call (.spawn (.fresh "Grace") "patrol" Patrol.start), .call (.runTicks 2),
        .call (.destroy ada ⟨"Krait", 100⟩),
        .call (.spawn (.fresh "Mary") "patrol" Patrol.start), .call .run]
    ∃ start world newcomers, config.seed = 7 ∧ (∀ act ∈ acts start, act.KeepsSeed 7) ∧
      World.create config none = .ok start ∧
      (start.undergoAll Patrol.repertoire (acts start)).outcome = .ok world ∧
      (start.welcomeAll Patrol.repertoire (acts start)).outcome = .ok (newcomers, world) ∧
      (newcomers.map fun newcomer => Generator.streamSeed 7 newcomer.id) =
        [7, 0x9e3779b97f4a7c12, 0x3c6ef372fe94f82d] ∧
      world.Streams 7 newcomers ∧ ada ≠ .invalid ∧
      Generator.streamSeed 7 ada ≠ Generator.streamSeed 7 .invalid := by
  intro config ada acts
  obtain ⟨start, created, rest⟩ : ∃ start, World.create config none = .ok start ∧
      ((start.undergoAll Patrol.repertoire (acts start)).outcome.toOption.any fun _ =>
        (start.welcomeAll Patrol.repertoire (acts start)).outcome.toOption.any fun reached =>
          decide ((reached.1.map fun newcomer => Generator.streamSeed 7 newcomer.id) =
            [7, 0x9e3779b97f4a7c12, 0x3c6ef372fe94f82d])) = true :=
    exists_ok (by decide +kernel)
  obtain ⟨world, underwent, facts⟩ := exists_ok rest
  obtain ⟨reached, observed, seeds⟩ := exists_ok facts
  have kept : ∀ act ∈ acts start, act.KeepsSeed 7 := by simp [acts, HostAct.KeepsSeed, config]
  obtain ⟨_, apart, runs⟩ := streams_apart 7
  obtain ⟨newcomers, welcomed, streams⟩ :=
    runs Patrol.ships Patrol.repertoire config none start world (acts start) rfl kept created
      underwent
  obtain rfl : reached = (newcomers, world) := by
    rw [welcomed] at observed
    cases observed
    rfl
  exact ⟨start, world, newcomers, rfl, kept, created, underwent, welcomed,
    of_decide_eq_true seeds, streams, by decide, apart ada .invalid (by decide)⟩

end World

end PriorityAgents
