import PriorityAgents.Proofs.World.Departure
import PriorityAgents.Proofs.World.Moves
import PriorityAgents.Proofs.World.Offers

/-!
Who is in a world, told by what its host has been answered.

Identities are given out in turn, and none twice. An agent is there from the call that its identity
was given out by until a call that takes it out, and what a host asks of it in between is granted.
Of any other identity nothing can be asked: the host is told that nobody is there, nobody takes a
turn, and the world stays as it is. None of this depends on the timers, so it holds of runs of any
length.
-/

set_option autoImplicit false

namespace PriorityAgents

variable {vocabulary : Vocabulary} {repertoire : Repertoire vocabulary} {journal : List Entry}

/-! ### What a host is answered -/

inductive Reply where
  | spawned (agent : AgentId)
  | done
  | refused (cause : WorldError)
deriving DecidableEq

def Reply.spawned? : Reply → Option AgentId
  | .spawned agent => some agent
  | .done | .refused _ => none

def Call.addressee? : Call vocabulary → Option AgentId
  | .withAgent agent _ | .post agent _ _ | .destroy agent _ => some agent
  | .spawn _ _ _ | .spawnWithTree _ _ _ | .run | .runTicks _ => none

def HostAct.KeepsIds : HostAct vocabulary → Prop
  | .call _ => True
  | .rearrange _ _ _ change => ∀ slot controller, (change slot controller).id = controller.id

namespace World

variable {world later : World vocabulary} {act : HostAct vocabulary} {reply : Reply}

/-- What an answer tells the host, and the world after it. -/
def answered {α : Type} (world : World vocabulary) (reply : α → Reply) :
    Except WorldError (α × World vocabulary) → Reply × World vocabulary
  | .ok (value, later) => (reply value, later)
  | .error cause => (.refused cause, world)

def consult (repertoire : Repertoire vocabulary) (world : World vocabulary) :
    HostAct vocabulary → Logged (Reply × World vocabulary)
  | .call (.spawn state name setup) =>
      world.answered .spawned <$> world.spawn repertoire state name setup
  | .call (.spawnWithTree state name tree) =>
      world.answered .spawned <$> world.spawnWithTree repertoire state name tree
  | .call (.withAgent agent program) =>
      world.answered (fun _ => .done) <$> world.withAgent repertoire agent program
  | .call (.post agent name payload) =>
      pure (world.answered (fun _ => .done)
        ((world.post agent name payload).map fun later => ((), later)))
  | .call (.destroy agent payload) =>
      world.answered (fun _ => .done) <$> world.destroy repertoire agent payload
  | act => (Reply.done, ·) <$> world.undergo repertoire act

def consultAll (repertoire : Repertoire vocabulary) (world : World vocabulary) :
    List (HostAct vocabulary) → Logged (List Reply × World vocabulary)
  | [] => pure ([], world)
  | act :: acts => do
      let (reply, later) ← world.consult repertoire act
      let (replies, last) ← later.consultAll repertoire acts
      pure (reply :: replies, last)

private theorem snd_answered {α : Type} (world : World vocabulary) (reply : α → Reply)
    (answer : Except WorldError (α × World vocabulary)) :
    (world.answered reply answer).2 = world.after answer := by
  cases answer <;> rfl

theorem snd_consult (repertoire : Repertoire vocabulary) (world : World vocabulary)
    (act : HostAct vocabulary) :
    Prod.snd <$> world.consult repertoire act = world.undergo repertoire act := by
  have answering {α : Type} (told : α → Reply)
      (call : Logged (Except WorldError (α × World vocabulary))) :
      Prod.snd <$> (world.answered told <$> call) = world.after <$> call := by
    rw [Functor.map_map]
    exact congrArg (· <$> call) (funext fun answer => snd_answered world told answer)
  cases act with
  | rearrange config clock timers change => rfl
  | call call =>
      cases call with
      | spawn state name setup => exact answering _ _
      | spawnWithTree state name tree => exact answering _ _
      | withAgent agent program => exact answering _ _
      | post agent name payload => exact congrArg pure (snd_answered world _ _)
      | destroy agent payload => exact answering _ _
      | run =>
          change Prod.snd <$> ((Reply.done, ·) <$> world.undergo repertoire (.call .run)) = _
          rw [Functor.map_map]
          exact id_map _
      | runTicks count =>
          change Prod.snd <$> ((Reply.done, ·) <$> world.undergo repertoire
            (.call (.runTicks count))) = _
          rw [Functor.map_map]
          exact id_map _

theorem snd_consultAll (repertoire : Repertoire vocabulary) (world : World vocabulary)
    (acts : List (HostAct vocabulary)) :
    Prod.snd <$> world.consultAll repertoire acts = world.undergoAll repertoire acts := by
  induction acts generalizing world with
  | nil => rfl
  | cons act acts ih =>
      rw [consultAll, undergoAll, ← snd_consult, map_bind, bind_map_left]
      refine congrArg _ (funext fun consulted => ?_)
      rw [← ih, map_bind]
      rfl

end World

/-! ### Who is enrolled -/

/-- What a host has done, each time with what it was answered. -/
abbrev Dealings (vocabulary : Vocabulary) : Type 1 := List (HostAct vocabulary × Reply)

def Dismisses (dealing : HostAct vocabulary × Reply) (agent : AgentId) : Prop :=
  ∃ payload, dealing = (.call (.destroy agent payload), .done)

namespace Dealings

variable {history : Dealings vocabulary} {dealing : HostAct vocabulary × Reply} {agent : AgentId}

def KeepIds (history : Dealings vocabulary) : Prop := ∀ dealing ∈ history, dealing.1.KeepsIds

def spawned (history : Dealings vocabulary) : List AgentId :=
  history.filterMap fun dealing => dealing.2.spawned?

/-- An identity was given out by a call, and its agent was not taken out by a later one. -/
def Enrolled (history : Dealings vocabulary) (agent : AgentId) : Prop :=
  ∃ before act after, history = before ++ (act, .spawned agent) :: after ∧
    ∀ dealing ∈ after, ¬Dismisses dealing agent

theorem spawned_append_singleton :
    spawned (history ++ [dealing]) = spawned history ++ dealing.2.spawned?.toList := by
  unfold spawned
  rw [List.filterMap_append]
  cases given : dealing.2.spawned? <;> simp [given]

theorem not_enrolled_nil (agent : AgentId) : ¬Enrolled ([] : Dealings vocabulary) agent := by
  rintro ⟨before, act, after, split, _⟩
  cases before <;> cases split

theorem enrolled_append_singleton :
    Enrolled (history ++ [dealing]) agent ↔
      dealing.2 = .spawned agent ∨ Enrolled history agent ∧ ¬Dismisses dealing agent := by
  constructor
  · rintro ⟨before, act, after, split, stays⟩
    rcases List.eq_nil_or_concat after with rfl | ⟨front, last, rfl⟩
    · obtain ⟨_, same⟩ := List.append_inj' split rfl
      cases same
      exact .inl rfl
    · rw [List.concat_eq_append, ← List.cons_append, ← List.append_assoc] at split
      obtain ⟨rfl, same⟩ := List.append_inj' split rfl
      cases same
      rw [List.concat_eq_append] at stays
      exact .inr ⟨⟨before, act, front, rfl, fun dealing member =>
        stays dealing (List.mem_append_left _ member)⟩,
        stays dealing (List.mem_append_right _ List.mem_cons_self)⟩
  · rintro (here | ⟨⟨before, act, after, rfl, stays⟩, kept⟩)
    · exact ⟨history, dealing.1, [], by rw [← here], nofun⟩
    · refine ⟨before, act, after ++ [dealing], by simp, fun other member => ?_⟩
      rcases List.mem_append.mp member with early | last
      · exact stays other early
      · rw [List.mem_singleton.mp last]
        exact kept

end Dealings

/-! ### What a dealing does to the slots -/

namespace Roster

variable {roster middle later : Roster vocabulary} {agent : AgentId}
  {controller : Controller vocabulary} {done : Context vocabulary}
  {dealing : HostAct vocabulary × Reply} {history : Dealings vocabulary}

structure SameFaces (roster later : Roster vocabulary) : Prop where
  size : later.controllers.size = roster.controllers.size
  there (agent : AgentId) : (later.controller? agent).isSome = (roster.controller? agent).isSome
  seated : roster.Seated → later.Seated

namespace SameFaces

theorem refl (roster : Roster vocabulary) : SameFaces roster roster := ⟨rfl, fun _ => rfl, id⟩

theorem trans (before : SameFaces roster middle) (after : SameFaces middle later) :
    SameFaces roster later where
  size := after.size.trans before.size
  there agent := (after.there agent).trans (before.there agent)
  seated := after.seated ∘ before.seated

private theorem keep (occupied : roster.controller? agent = some controller)
    (id : done.controller.id = controller.id) : SameFaces roster (roster.keep agent done) where
  size := size_keep roster agent done
  there other := by
    rw [controller?_keep occupied]
    split
    · rename_i same
      rw [same, occupied]
      rfl
    · rfl
  seated seated := slots_keep (id.trans (seated.id_eq occupied)) seated

end SameFaces

theorem context?_eq_none (vacant : roster.controller? agent = none) :
    roster.context? agent = none := by
  unfold context?
  rw [vacant]
  rfl

private theorem Seated.discharge (seated : roster.Seated) (agent : AgentId) (timers : TimerQueue) :
    (roster.discharge agent timers).Seated := by
  intro index controller member
  rw [getElem?_discharge] at member
  split at member
  · obtain ⟨_, _, impossible⟩ := Option.map_eq_some_iff.mp member
    cases impossible
  · exact seated index controller member

/-- All that the slots can see of what a host does. -/
inductive Seats (roster : Roster vocabulary) :
    HostAct vocabulary × Reply → Roster vocabulary → Prop
  | enlisted {act : HostAct vocabulary} {agent : AgentId} {done : Context vocabulary}
      (id : done.controller.id = agent) (next : agent.index = roster.controllers.size) :
      Seats roster (act, .spawned agent) (roster.enlist done)
  | discharged {agent : AgentId} {payload : vocabulary.Payload} (timers : TimerQueue) :
      Seats roster (.call (.destroy agent payload), .done) (roster.discharge agent timers)
  | unchanged {dealing : HostAct vocabulary × Reply} {later : Roster vocabulary}
      (silent : dealing.2.spawned? = none) (kept : ∀ agent, ¬Dismisses dealing agent)
      (size : later.controllers.size = roster.controllers.size)
      (there : ∀ agent, (later.controller? agent).isSome = (roster.controller? agent).isSome)
      (seated : dealing.1.KeepsIds → roster.Seated → later.Seated) : Seats roster dealing later

namespace Seats

private theorem refused (act : HostAct vocabulary) (cause : WorldError)
    (faces : SameFaces roster later) : roster.Seats (act, .refused cause) later := by
  refine .unchanged rfl ?_ faces.size faces.there fun _ => faces.seated
  rintro agent ⟨payload, same⟩
  cases same

private theorem granted {act : HostAct vocabulary}
    (stays : ∀ agent payload, act ≠ .call (.destroy agent payload))
    (faces : SameFaces roster later) : roster.Seats (act, .done) later := by
  refine .unchanged rfl ?_ faces.size faces.there fun _ => faces.seated
  rintro agent ⟨payload, same⟩
  exact stays agent payload (congrArg Prod.fst same)

end Seats

/-- The slots of a roster are what a history of dealings makes of them. -/
structure Books (history : Dealings vocabulary) (roster : Roster vocabulary) : Prop where
  seated : history.KeepIds → roster.Seated
  numbered : history.spawned.map AgentId.index = List.range roster.controllers.size
  here (agent : AgentId) : (roster.controller? agent).isSome = true ↔ history.Enrolled agent

private theorem Books.enter (books : Books history roster) (seats : roster.Seats dealing later) :
    Books (history ++ [dealing]) later := by
  have ids (all : Dealings.KeepIds (history ++ [dealing])) :
      roster.Seated ∧ dealing.1.KeepsIds := by
    obtain ⟨before, last⟩ := List.forall_mem_append.mp all
    exact ⟨books.seated before, last dealing List.mem_cons_self⟩
  cases seats with
  | @enlisted act agent done id next =>
      subst id
      refine
        { seated := fun all => (ids all).1.enlist next
          numbered := ?_
          here := fun other => ?_ }
      · have size : (roster.enlist done).controllers.size = roster.controllers.size + 1 :=
          Array.size_push _
        rw [Dealings.spawned_append_singleton, List.map_append, books.numbered, size,
          List.range_succ, ← next]
        rfl
      · rw [Dealings.enrolled_append_singleton, controller?_enlist next, ← books.here other]
        have stays : ¬Dismisses (act, Reply.spawned done.controller.id) other := by
          rintro ⟨payload, impossible⟩
          cases impossible
        by_cases same : other = done.controller.id
        · simp [same]
        · simp [same, stays, Ne.symm same]
  | @discharged agent payload timers =>
      refine
        { seated := fun all => (ids all).1.discharge agent timers
          numbered := ?_
          here := fun other => ?_ }
      · have size : (roster.discharge agent timers).controllers.size = roster.controllers.size :=
          Array.size_setIfInBounds
        rw [Dealings.spawned_append_singleton, size, ← books.numbered]
        exact congrArg _ (List.append_nil _)
      · rw [Dealings.enrolled_append_singleton, controller?_discharge, ← books.here other]
        have leaves : Dismisses (.call (.destroy agent payload), Reply.done) other ↔
            other = agent := by
          constructor
          · rintro ⟨_, same⟩
            cases same
            rfl
          · rintro rfl
            exact ⟨payload, rfl⟩
        by_cases same : other = agent
        · rw [if_pos same]
          refine iff_of_false Bool.false_ne_true ?_
          rintro (impossible | ⟨_, stays⟩)
          · cases impossible
          · exact stays (leaves.mpr same)
        · rw [if_neg same, or_iff_right nofun, and_iff_left (same ∘ leaves.mp)]
  | unchanged silent kept size there seated =>
      refine
        { seated := fun all => seated (ids all).2 (ids all).1
          numbered := ?_
          here := fun other => ?_ }
      · rw [Dealings.spawned_append_singleton, silent, size, ← books.numbered]
        exact congrArg _ (List.append_nil _)
      · rw [Dealings.enrolled_append_singleton, there, books.here other]
        have nobody : dealing.2 ≠ .spawned other := by
          intro spawned
          rw [spawned] at silent
          cases silent
        simp [nobody, kept other]

end Roster

namespace World

open Roster (SameFaces Seats)

variable {world later : World vocabulary} {agent : AgentId} {act : HostAct vocabulary}
  {reply : Reply} {history : Dealings vocabulary}

private theorem sameFaces_of_tick (given : (world.tick repertoire).Gives later journal) :
    SameFaces world.roster later.roster := by
  have offers := (offers_of_tick given).1
  obtain ⟨_, _, _, middle, roster, _, delivered, fires, _, rfl, _⟩ := gives_tick.mp given
  have size : middle.controllers.size =
      (world.roster.advanceTo world.clock.now).controllers.size :=
    Roster.size_of_deliverAll delivered
  exact ⟨(Roster.size_of_fire fires).trans size, offers.there, offers.seated⟩

private theorem sameFaces_of_ticks {count : Nat}
    (given : (world.ticks repertoire count).Gives later journal) :
    SameFaces world.roster later.roster := by
  induction count generalizing world journal with
  | zero =>
      obtain ⟨rfl, _⟩ := Journaled.gives_pure.mp given
      exact .refl _
  | succ count ih =>
      obtain ⟨middle, _, _, ticked, rest, _⟩ := Journaled.gives_bind.mp given
      exact (sameFaces_of_tick ticked).trans (ih rest)

private theorem sameFaces_of_toEnd (given : (world.toEnd repertoire).Gives later journal) :
    SameFaces world.roster later.roster := by
  rw [toEnd_eq_ticks] at given
  obtain ⟨middle, _, _, ticked, rest, _⟩ := Journaled.gives_bind.mp given
  obtain ⟨_, _, _, _, final, _⟩ := Journaled.gives_bind.mp rest
  obtain ⟨rfl, _⟩ := Journaled.gives_pure.mp final
  exact sameFaces_of_ticks ticked

private theorem seats_of_spawn {name : String} {state : vocabulary.State}
    {setup : Program vocabulary Unit} {answer : Except WorldError (AgentId × World vocabulary)}
    (given : (world.spawn repertoire state name setup).Gives answer journal)
    (told : world.answered .spawned answer = (reply, later)) :
    world.roster.Seats (act, reply) later.roster := by
  have outcome := gives_spawn.mp given
  cases free : agentIdFor world.roster.controllers.size with
  | error cause =>
      rw [free] at outcome
      obtain ⟨rfl, _⟩ := outcome
      cases told
      exact .refused act cause (.refl _)
  | ok id =>
      rw [free] at outcome
      obtain ⟨done, _, ran, rfl, _⟩ := outcome
      cases told
      exact .enlisted (Context.Works.run ran).id (agentIdFor_eq_ok.mp free).1

private theorem seats_of_withAgent {α : Type} {program : Program vocabulary α}
    {answer : Except WorldError (α × World vocabulary)}
    (given : (world.withAgent repertoire agent program).Gives answer journal)
    (told : world.answered (fun _ => .done) answer = (reply, later)) :
    world.roster.Seats (.call (.withAgent agent program), reply) later.roster := by
  have outcome := gives_withAgent.mp given
  cases found : (world.roster.advanceTo world.clock.now).context? agent with
  | none =>
      rw [found] at outcome
      obtain ⟨rfl, _⟩ := outcome
      cases told
      exact .refused _ _ (.refl _)
  | some context =>
      rw [found] at outcome
      obtain ⟨value, done, ran, rfl⟩ := outcome
      cases told
      have occupied : world.roster.controller? agent = some context.controller :=
        (Roster.context?_eq_some.mp found).1
      exact .granted nofun (.keep occupied (Context.Works.run ran).id)

private theorem seats_of_post {name : EventName} {payload : vocabulary.Payload}
    (told : world.answered (fun _ => .done)
      ((world.post agent name payload).map fun later => ((), later)) = (reply, later)) :
    world.roster.Seats (.call (.post agent name payload), reply) later.roster := by
  unfold World.post at told
  cases found : world.controller? agent with
  | none =>
      rw [found] at told
      cases told
      exact .refused _ _ (.refl _)
  | some controller =>
      rw [found] at told
      cases told
      exact .granted nofun (.refl _)

private theorem seats_of_destroy {payload : vocabulary.Payload}
    {answer : Except WorldError (Controller vocabulary × World vocabulary)}
    (given : (world.destroy repertoire agent payload).Gives answer journal)
    (told : world.answered (fun _ => .done) answer = (reply, later)) :
    world.roster.Seats (.call (.destroy agent payload), reply) later.roster := by
  have outcome := gives_destroy.mp given
  cases found : world.roster.context? agent with
  | none =>
      rw [found] at outcome
      obtain ⟨rfl, _⟩ := outcome
      cases told
      exact .refused _ _ (.refl _)
  | some context =>
      rw [found] at outcome
      obtain ⟨_, _, done, _, _, _, _, rfl, _⟩ := outcome
      cases told
      exact .discharged done.timers

private theorem seats_rearranged (world : World vocabulary) (config : Config) (clock : Clock)
    (timers : TimerQueue) (change : Nat → Controller vocabulary → Controller vocabulary) :
    world.roster.Seats (.rearrange config clock timers change, .done)
      (world.rearranged config clock timers change).roster := by
  refine .unchanged rfl ?_ Array.size_mapIdx ?_ ?_
  · rintro agent ⟨payload, same⟩
    cases same
  · intro agent
    unfold Roster.controller? rearranged
    rw [Array.getElem?_mapIdx]
    cases world.roster.controllers[agent.index]? with
    | none => rfl
    | some slot => cases slot <;> rfl
  · intro ids seated index controller member
    change (world.roster.controllers.mapIdx _)[index]? = _ at member
    rw [Array.getElem?_mapIdx] at member
    obtain ⟨slot, found, changed⟩ := Option.map_eq_some_iff.mp member
    obtain ⟨before, rfl, rfl⟩ := Option.map_eq_some_iff.mp changed
    rw [ids]
    exact seated index before found

private theorem seats_of_consult
    (given : (world.consult repertoire act).Gives (reply, later) journal) :
    world.roster.Seats (act, reply) later.roster := by
  cases act with
  | rearrange config clock timers change =>
      obtain ⟨_, arranged, told⟩ := Journaled.gives_map.mp given
      obtain ⟨rfl, _⟩ := Journaled.gives_pure.mp arranged
      cases told
      exact world.seats_rearranged config clock timers change
  | call call =>
      cases call with
      | spawn state name setup =>
          obtain ⟨answer, spawned, told⟩ := Journaled.gives_map.mp given
          exact seats_of_spawn spawned told
      | spawnWithTree state name tree =>
          obtain ⟨answer, spawned, told⟩ := Journaled.gives_map.mp given
          exact seats_of_spawn spawned told
      | withAgent agent program =>
          obtain ⟨answer, ran, told⟩ := Journaled.gives_map.mp given
          exact seats_of_withAgent ran told
      | post agent name payload =>
          obtain ⟨told, _⟩ := Journaled.gives_pure.mp given
          exact seats_of_post told
      | destroy agent payload =>
          obtain ⟨answer, destroyed, told⟩ := Journaled.gives_map.mp given
          exact seats_of_destroy destroyed told
      | run =>
          obtain ⟨_, obeyed, told⟩ := Journaled.gives_map.mp given
          obtain ⟨⟨_, reached⟩, ran, rfl⟩ := Journaled.gives_map.mp obeyed
          cases told
          exact .granted nofun (sameFaces_of_toEnd (Logged.gives_observed.mp ran).1)
      | runTicks count =>
          obtain ⟨_, obeyed, told⟩ := Journaled.gives_map.mp given
          obtain ⟨⟨_, reached⟩, ran, rfl⟩ := Journaled.gives_map.mp obeyed
          cases told
          exact .granted nofun (sameFaces_of_ticks (Logged.gives_observed.mp ran).1)

theorem books_of_consultAll {acts : List (HostAct vocabulary)} {replies : List Reply}
    (books : Roster.Books history world.roster)
    (given : (world.consultAll repertoire acts).Gives (replies, later) journal) :
    Roster.Books (history ++ acts.zip replies) later.roster ∧ replies.length = acts.length := by
  induction acts generalizing world history replies journal with
  | nil =>
      obtain ⟨reached, _⟩ := Journaled.gives_pure.mp given
      cases reached
      exact ⟨by rwa [List.zip_nil_left, List.append_nil], rfl⟩
  | cons act acts ih =>
      obtain ⟨⟨reply, middle⟩, _, _, consulted, more, _⟩ := Journaled.gives_bind.mp given
      obtain ⟨⟨rest, last⟩, _, _, others, final, _⟩ := Journaled.gives_bind.mp more
      obtain ⟨reached, _⟩ := Journaled.gives_pure.mp final
      cases reached
      obtain ⟨ended, lengths⟩ := ih (books.enter (seats_of_consult consulted)) others
      rw [List.append_assoc] at ended
      exact ⟨ended, congrArg (· + 1) lengths⟩

/-! ### What a host may ask of whom -/

/-- A call is granted: it fails as the turn of the agent fails, and when the turn is over its answer
is no refusal. -/
def Granted {α β : Type} (call : Logged (Except WorldError β)) (turn : Logged α) : Prop :=
  ∃ value : α → β, call.outcome = turn.outcome.map fun answer => .ok (value answer)

/-- What a host asks of an agent is granted. -/
structure Grants (repertoire : Repertoire vocabulary) (world : World vocabulary)
    (agent : AgentId) : Prop where
  withAgent {α : Type} (program : Program vocabulary α) :
    ∃ context, (world.roster.advanceTo world.clock.now).context? agent = some context ∧
      Granted (world.withAgent repertoire agent program) (context.run repertoire program)
  post (name : EventName) (payload : vocabulary.Payload) :
    world.post agent name payload =
      .ok { world with events := world.events ++ [{ agent, name, payload }] }
  destroy (payload : vocabulary.Payload) :
    ∃ context, world.roster.context? agent = some context ∧
      Granted (world.destroy repertoire agent payload)
        (context.handleEvent repertoire .entityDestroyed payload)

/-- Nothing can be asked of an identity: the host is told so, nobody takes a turn, and the world
stays as it is. -/
structure Refuses (repertoire : Repertoire vocabulary) (world : World vocabulary)
    (agent : AgentId) : Prop where
  withAgent {α : Type} (program : Program vocabulary α) :
    world.withAgent repertoire agent program = pure (.error (.agentNotFound agent))
  post (name : EventName) (payload : vocabulary.Payload) :
    world.post agent name payload = .error (.agentNotFound agent)
  destroy (payload : vocabulary.Payload) :
    world.destroy repertoire agent payload = pure (.error (.agentNotFound agent))
  unmoved (call : Call vocabulary) : call.addressee? = some agent →
    world.consult repertoire (.call call) = pure (.refused (.agentNotFound agent), world)
  quiet {ε : Type} (usher : Usher vocabulary ε) (call : Call vocabulary) :
    call.addressee? = some agent → world.obeyBy usher call = pure world

private theorem grants_of_occupied {controller : Controller vocabulary}
    (occupied : world.controller? agent = some controller) : world.Grants repertoire agent where
  withAgent program := by
    let context : Context vocabulary :=
      ⟨controller, (world.roster.advanceTo world.clock.now).timers⟩
    have found : (world.roster.advanceTo world.clock.now).context? agent = some context :=
      Roster.context?_eq_some.mpr ⟨occupied, rfl⟩
    refine ⟨context, found, fun ended =>
      (ended.1, { world with roster := world.roster.keep agent ended.2 }), ?_⟩
    unfold World.withAgent
    rw [found, Journaled.outcome_bind]
    cases (context.run repertoire program).outcome <;> rfl
  post name payload := by
    unfold World.post
    rw [occupied]
  destroy payload := by
    let context : Context vocabulary := ⟨controller, world.roster.timers⟩
    have found : world.roster.context? agent = some context :=
      Roster.context?_eq_some.mpr ⟨occupied, rfl⟩
    refine ⟨context, found, fun ended => (ended.2.released.controller,
      { world with roster := world.roster.discharge agent ended.2.released.timers }), ?_⟩
    unfold World.destroy
    rw [found, Journaled.outcome_bind]
    cases (context.handleEvent repertoire .entityDestroyed payload).outcome with
    | error fault => rfl
    | ok ended =>
        have torn : ended.2.teardown.Gives ended.2.released ended.2.releaseEntries :=
          Context.gives_teardown.mpr ⟨rfl, rfl⟩
        change (ended.2.teardown >>= _).outcome = _
        rw [Journaled.outcome_bind, torn.outcome]
        rfl

private theorem refuses_of_vacant (vacant : world.controller? agent = none) :
    world.Refuses repertoire agent := by
  have nobody : world.roster.context? agent = none := Roster.context?_eq_none vacant
  have stillNobody : (world.roster.advanceTo world.clock.now).context? agent = none :=
    Roster.context?_eq_none vacant
  have withAgent {α : Type} (program : Program vocabulary α) :
      world.withAgent repertoire agent program = pure (.error (.agentNotFound agent)) := by
    unfold World.withAgent
    rw [stillNobody]
  have post (name : EventName) (payload : vocabulary.Payload) :
      world.post agent name payload = .error (.agentNotFound agent) := by
    unfold World.post
    rw [vacant]
  have destroy (payload : vocabulary.Payload) :
      world.destroy repertoire agent payload = pure (.error (.agentNotFound agent)) := by
    unfold World.destroy
    rw [nobody]
  refine
    { withAgent
      post
      destroy
      unmoved := fun call addressed => ?_
      quiet := fun usher call addressed => ?_ }
  · cases call with
    | withAgent other program =>
        cases addressed
        change world.answered _ <$> world.withAgent repertoire agent program = _
        rw [withAgent]
        rfl
    | post other name payload =>
        cases addressed
        change pure (world.answered _ ((world.post agent name payload).map _)) = _
        rw [post]
        rfl
    | destroy other payload =>
        cases addressed
        change world.answered _ <$> world.destroy repertoire agent payload = _
        rw [destroy]
        rfl
    | _ => cases addressed
  · cases call with
    | withAgent other program =>
        cases addressed
        change world.withAgentBy usher agent program = _
        unfold withAgentBy
        rw [stillNobody]
    | post other name payload =>
        cases addressed
        change pure (world.after ((world.post agent name payload).map _)) = _
        rw [post]
        rfl
    | destroy other payload =>
        cases addressed
        change world.destroyBy usher agent payload = _
        unfold destroyBy
        rw [nobody]
    | _ => cases addressed

/-- What a history of dealings says of the world that it leads to. -/
structure Registers (repertoire : Repertoire vocabulary) (history : Dealings vocabulary)
    (world : World vocabulary) : Prop where
  /-- Identities count the agents that were spawned before, so none is given out twice. -/
  inTurn (count : Nat) (agent : AgentId) :
    history.spawned[count]? = some agent → agent.index = count
  /-- As long as there are identities left, a spawn is granted. -/
  next : history.spawned.length < 2 ^ 32 - 1 → ∃ id : AgentId, id.index = history.spawned.length ∧
    ∀ state name setup, Granted (world.spawn repertoire state name setup)
      ((world.newcomer id state name).run repertoire setup)
  live : history.KeepIds → ∀ agent, agent ∈ world.liveAgents ↔ history.Enrolled agent
  ascending : history.KeepIds →
    world.liveAgents.Pairwise fun earlier later => earlier.index < later.index
  grants (agent : AgentId) : history.Enrolled agent → world.Grants repertoire agent
  refuses (agent : AgentId) : ¬history.Enrolled agent → world.Refuses repertoire agent

private theorem granted_spawn {id : AgentId} (next : id.index = world.roster.controllers.size)
    (room : id.index < 2 ^ 32 - 1) (state : vocabulary.State) (name : String)
    (setup : Program vocabulary Unit) :
    Granted (world.spawn repertoire state name setup)
      ((world.newcomer id state name).run repertoire setup) := by
  have free : agentIdFor world.roster.controllers.size = .ok id :=
    agentIdFor_eq_ok.mpr ⟨next, next ▸ room⟩
  refine ⟨fun ended => (id, { world with
    roster := (world.roster.advanceTo world.clock.now).enlist ended.2 }), ?_⟩
  unfold World.spawn
  rw [free]
  change ((world.newcomer id state name).run repertoire setup >>= _).outcome = _
  rw [Journaled.outcome_bind]
  cases ((world.newcomer id state name).run repertoire setup).outcome <;> rfl

private theorem registers_of_books (books : Roster.Books history world.roster) :
    world.Registers repertoire history := by
  have size : history.spawned.length = world.roster.controllers.size := by
    have lengths := congrArg List.length books.numbered
    rwa [List.length_map, List.length_range] at lengths
  refine
    { inTurn := fun count agent given => ?_
      next := fun room => ⟨⟨history.spawned.length, by omega⟩, rfl, granted_spawn size room⟩
      live := fun ids agent => (books.seated ids).mem_liveAgents.trans (books.here agent)
      ascending := fun ids => (books.seated ids).ascending_liveAgents
      grants := fun agent enrolled => ?_
      refuses := fun agent unknown => ?_ }
  · have number : (history.spawned.map AgentId.index)[count]? = some agent.index := by
      rw [List.getElem?_map, given]
      rfl
    rw [books.numbered] at number
    obtain ⟨_, same⟩ := List.getElem?_eq_some_iff.mp number
    rw [← same, List.getElem_range]
  · obtain ⟨controller, occupied⟩ := Option.isSome_iff_exists.mp ((books.here agent).mpr enrolled)
    exact grants_of_occupied occupied
  · apply refuses_of_vacant
    cases occupied : world.roster.controller? agent with
    | none => exact occupied
    | some controller =>
        exact absurd ((books.here agent).mp (Option.isSome_of_eq_some occupied)) unknown

theorem books_of_create {config : Config} {reconsiderNow : Option Span}
    (created : World.create config reconsiderNow = .ok world) :
    Roster.Books ([] : Dealings vocabulary) world.roster := by
  obtain ⟨timers, _, _, _, rfl⟩ := of_create created
  exact
    { seated := fun _ => nofun
      numbered := rfl
      here := fun agent => iff_of_false Bool.false_ne_true (Dealings.not_enrolled_nil agent) }

/-- Whatever a host does with a world from its beginning: identities are given out in turn, the
live agents are those whose identity was given out and who were not taken out since, in the order of
their identities, what is asked of them is granted, and all else is refused and changes nothing. -/
theorem registers_of_undergoAll {config : Config} {reconsiderNow : Option Span}
    {start : World vocabulary} {acts : List (HostAct vocabulary)}
    (created : World.create config reconsiderNow = .ok start)
    (underwent : (start.undergoAll repertoire acts).outcome = .ok world) :
    ∃ replies, (start.consultAll repertoire acts).outcome = .ok (replies, world) ∧
      replies.length = acts.length ∧ world.Registers repertoire (acts.zip replies) := by
  rw [← snd_consultAll] at underwent
  obtain ⟨⟨replies, reached⟩, given, rfl⟩ :=
    Journaled.gives_map.mp (Journaled.gives_of_outcome underwent)
  obtain ⟨books, lengths⟩ := books_of_consultAll (books_of_create created) given
  exact ⟨replies, given.outcome, lengths, registers_of_books books⟩

/-- Of three ships the first is taken out before the last one comes. It cannot be taken out again,
and its identity is not given out again. -/
theorem registers_of_undergoAll_patrol :
    let ada : AgentId := ⟨0, by decide⟩
    let grace : AgentId := ⟨1, by decide⟩
    let mary : AgentId := ⟨2, by decide⟩
    let acts : List (HostAct Patrol.ships) :=
      [.call (.spawn (.fresh "Ada") "patrol" Patrol.start),
        .call (.spawn (.fresh "Grace") "patrol" Patrol.start), .call (.runTicks 2),
        .call (.destroy ada ⟨"Krait", 100⟩), .call (.destroy ada ⟨"Krait", 100⟩),
        .call (.spawn (.fresh "Mary") "patrol" Patrol.start)]
    let replies : List Reply :=
      [.spawned ada, .spawned grace, .done, .done, .refused (.agentNotFound ada), .spawned mary]
    ∃ start world, World.create .standard none = .ok start ∧
      (start.undergoAll Patrol.repertoire acts).outcome = .ok world ∧
      world.liveAgents = [grace, mary] ∧
      (start.consultAll Patrol.repertoire acts).outcome = .ok (replies, world) ∧
      world.Registers Patrol.repertoire (acts.zip replies) := by
  intro ada grace mary acts replies
  obtain ⟨start, created, rest⟩ : ∃ start, World.create .standard none = .ok start ∧
      ((start.undergoAll Patrol.repertoire acts).outcome.toOption.any fun world =>
        decide (world.liveAgents = [grace, mary]) &&
        (start.consultAll Patrol.repertoire acts).outcome.toOption.any fun reached =>
          decide (reached.1 = replies)) = true :=
    exists_ok (by decide +kernel)
  obtain ⟨world, underwent, facts⟩ := exists_ok rest
  obtain ⟨live, facts⟩ := (Bool.and_eq_true _ _).mp facts
  obtain ⟨reached, consulted, same⟩ := exists_ok facts
  obtain ⟨answers, given, _, registers⟩ := registers_of_undergoAll created underwent
  obtain rfl : answers = replies := by
    rw [given] at consulted
    cases consulted
    exact of_decide_eq_true same
  exact ⟨start, world, created, underwent, of_decide_eq_true live, given, registers⟩

end World

end PriorityAgents
