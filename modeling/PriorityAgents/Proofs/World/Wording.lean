import PriorityAgents.Patrol.Rules
import PriorityAgents.Proofs.Controller.Wording
import PriorityAgents.Proofs.World.Moves

/-!
What the agents of a world say, whatever a host does with them.

A phrase that an agent's code sets is the one that it says from then on, in the same turn and in
every later one, until its code sets another. A host may have its hands on agents in between, as
long as it leaves the phrase alone.
-/

set_option autoImplicit false

namespace PriorityAgents

open Phrasebook (openPlace Plain)

variable {vocabulary : Vocabulary} {repertoire : Repertoire vocabulary} {agent : AgentId}
  {key : String} {first : Option String}

def Move.Spares (agent : AgentId) (key : String) : Move vocabulary → Prop
  | .call _ => True
  | .touch other hands => other = agent → ∀ controller,
      (hands.change controller).mind.phrases.template? key =
        controller.mind.phrases.template? key

/-- What an agent says on an occasion in the course of some scenes, if its phrase was `first` before
them. -/
structure Voices (repertoire : Repertoire vocabulary) (agent : AgentId) (key : String)
    (first : Option String) (scenes : List (Scene vocabulary)) : Prop where
  /-- From the moment at which its code sets a phrase until its code sets another one, the agent
  says that phrase. -/
  afterwards (earlier between after : List (Scene vocabulary)) (role other : Role vocabulary)
    (setter context : Context vocabulary) (mind : Mind vocabulary) (pieces : List String)
    (substitution : String) :
    scenes = earlier ++ .asked role setter (.setMind mind) ::
        (between ++ .asked other context (.communicate key substitution) :: after) →
      setter.controller.id = agent → context.controller.id = agent →
        (∀ scene ∈ between, scene.rewords agent key = false) →
          mind.phrases.template? key = some (openPlace.intercalate pieces) →
            (∀ piece ∈ pieces, Plain piece) →
              context.Says repertoire key substitution (substitution.intercalate pieces)
  /-- As long as its code has set no other phrase, the agent says the one that it had. -/
  before (earlier after : List (Scene vocabulary)) (role : Role vocabulary)
    (context : Context vocabulary) (pieces : List String) (substitution : String) :
    scenes = earlier ++ .asked role context (.communicate key substitution) :: after →
      context.controller.id = agent → (∀ scene ∈ earlier, scene.rewords agent key = false) →
        first = some (openPlace.intercalate pieces) → (∀ piece ∈ pieces, Plain piece) →
          context.Says repertoire key substitution (substitution.intercalate pieces)
  /-- If it had none, then it says nothing. -/
  never (earlier after : List (Scene vocabulary)) (role : Role vocabulary)
    (context : Context vocabulary) (substitution : String) :
    scenes = earlier ++ .asked role context (.communicate key substitution) :: after →
      context.controller.id = agent → (∀ scene ∈ earlier, scene.rewords agent key = false) →
        first = none → context.Silent repertoire key substitution

section

variable {scenes past between after : List (Scene vocabulary)}

private theorem template?_of_fair {role : Role vocabulary} {context : Context vocabulary}
    {request : Request vocabulary}
    (fair : Journaled.Fair (diction vocabulary agent key first).good []
      (past ++ (between ++ .asked role context request :: after)))
    (mine : context.controller.id = agent)
    (kept : ∀ scene ∈ between, scene.rewords agent key = false) :
    context.controller.mind.phrases.template? key = wording agent key first past := by
  have later := fair.right
  have shown := later between _ after rfl context rfl mine
  exact shown.trans (wording_of_unworded later.left kept)

private theorem voices_of_fair
    (fair : Journaled.Fair (diction vocabulary agent key first).good [] scenes) :
    Voices repertoire agent key first scenes := by
  refine
    { afterwards := ?_
      before := ?_
      never := ?_ }
  · rintro earlier between after role other setter context mind pieces substitution rfl setting mine
      kept template plain
    have set : wording agent key first (earlier ++ [.asked role setter (.setMind mind)]) =
        mind.phrases.template? key := by
      rw [wording_append]
      exact if_pos setting
    rw [List.append_cons] at fair
    have phrase := template?_of_fair fair mine kept
    exact (context.speaks repertoire key).phrase pieces substitution
      (phrase.trans (set.trans template)) plain
  · rintro earlier after role context pieces substitution rfl mine kept template plain
    have phrase : _ = wording agent key first [] := template?_of_fair fair mine kept
    exact (context.speaks repertoire key).phrase pieces substitution (phrase.trans template) plain
  · rintro earlier after role context substitution rfl mine kept unset
    have phrase : _ = wording agent key first [] := template?_of_fair fair mine kept
    exact (context.speaks repertoire key).silence substitution (phrase.trans unset)

end

namespace World

variable {world : World vocabulary} {start : World vocabulary} {config : Config}
  {reconsiderNow : Option Span} {moves more : List (Move vocabulary)}

/-- The phrase that an agent of a world has for an occasion. -/
def phrase? (world : World vocabulary) (agent : AgentId) (key : String) : Option String :=
  (world.controller? agent).bind fun controller => controller.mind.phrases.template? key

private theorem admits_unbound {regime : Regime vocabulary (Scene vocabulary)}
    {move : Move vocabulary}
    (bears : ∀ other hands, move = .touch other hands → regime.Bears other hands) :
    regime.Admits (unbound vocabulary) move := by
  cases move with
  | call call => cases call <;> exact trivial
  | touch other hands => exact bears other hands rfl

private theorem phrase?_of_beyond (beyond : world.roster.controllers.size ≤ agent.index) :
    world.phrase? agent key = none := by
  have vacant : world.controller? agent = none := by
    change world.roster.controllers[agent.index]?.join = none
    rw [Array.getElem?_eq_none beyond]
    rfl
  unfold phrase?
  rw [vacant]
  rfl

private theorem id_of_moves (created : World.create config reconsiderNow = .ok start)
    (reached : (start.moves repertoire moves).outcome = .ok world) {other : AgentId}
    {controller : Controller vocabulary} (found : world.controller? other = some controller) :
    controller.id = other := by
  have heeds := World.Heeds.create created (unbound vocabulary) (naming vocabulary)
  have allowed : ∀ move ∈ moves, (naming vocabulary).Admits (unbound vocabulary) move := by
    intro move _
    apply admits_unbound
    intro other hands _ past controller kept
    exact (hands.id controller).trans kept
  have kept := heeds.moves (upholds_naming repertoire _) allowed
  rw [← repertoire.stager_follows.moves start moves] at reached
  exact (kept.answer world reached).roster.slots other controller found

/-- Whatever a host does that leaves an agent's phrase alone, the agent has the phrase that its code
has set last. -/
theorem fair_of_moves (created : World.create config reconsiderNow = .ok start)
    (reached : (start.moves repertoire moves).outcome = .ok world)
    (spares : ∀ move ∈ more, move.Spares agent key) :
    Journaled.Fair (diction vocabulary agent key (world.phrase? agent key)).good []
      (world.movesBy repertoire.stager more).journal := by
  have heeds : world.Heeds (unbound vocabulary)
      (diction vocabulary agent key (world.phrase? agent key))
      world.roster.controllers.size [] := by
    refine ⟨⟨fun other controller found => ?_, nofun, Nat.le_refl _⟩,
      fun _ _ => trivial⟩
    refine ⟨id_of_moves created reached found, fun mine => ?_⟩
    subst mine
    change _ = world.phrase? other key
    unfold phrase?
    rw [show world.controller? other = some controller from found]
    rfl
  have allowed : ∀ move ∈ more,
      (diction vocabulary agent key (world.phrase? agent key)).Admits (unbound vocabulary)
        move := by
    intro move member
    apply admits_unbound
    rintro other hands rfl past controller ⟨id, held⟩
    exact ⟨(hands.id controller).trans id,
      fun mine => (spares _ member mine controller).trans (held mine)⟩
  exact (heeds.moves (upholds_diction phrase?_of_beyond repertoire _) allowed).entries

/-- Every open place of a phrase is filled once, with whatever there is to put in, and an occasion
without a phrase is rendered to nothing. So it is with what the agents of a world say: from the
moment at which an agent's code sets a phrase to the moment at which it sets another one the agent
is handed exactly the message that the phrase comes to, each time that its code says it, and as long
as there is no phrase it is handed none. The scenes are those of the moves themselves. -/
theorem voices_of_moves (created : World.create config reconsiderNow = .ok start)
    (reached : (start.moves repertoire moves).outcome = .ok world)
    (spares : ∀ move ∈ more, move.Spares agent key) :
    let staged := world.movesBy repertoire.stager more
    Phrasebook.Renders key ∧ (∀ context : Context vocabulary, context.Speaks repertoire key) ∧
      staged.reading Scene.entry? = world.moves repertoire more ∧
      Voices repertoire agent key (world.phrase? agent key) staged.journal := by
  intro staged
  have fair := fair_of_moves created reached spares
  exact ⟨Phrasebook.renders key, fun context => context.speaks repertoire key,
    repertoire.stager_follows.moves world more, voices_of_fair fair⟩

/-- A ship is taught a greeting and told to use it. What is put into the first of its open places
completes a mark with what stands before, and the mark stays. -/
theorem voices_of_moves_patrol :
    let ada : AgentId := ⟨0, by decide⟩
    let more : List (Move Patrol.ships) :=
      [.call (.spawn (.fresh "Ada") "greeter"
          (Program.setPhrase "greeting" "[p1[p1], is it [p1]?")),
        .call (.withAgent ada (Program.request (.communicate "greeting" "]")))]
    ∃ start earlier setter mind between context after,
      World.create .standard none = .ok start ∧
      (start.movesBy Patrol.repertoire.stager more).journal =
        earlier ++ .asked .call setter (.setMind mind) ::
          (between ++ .asked .call context (.communicate "greeting" "]") :: after) ∧
      context.controller.id = ada ∧
      context.Says Patrol.repertoire "greeting" "]" "[p1], is it ]?" := by
  intro ada more
  have spares : ∀ move ∈ more, move.Spares ada "greeting" := by
    intro move member
    rcases List.mem_pair.mp member with rfl | rfl
    · exact trivial
    · exact trivial
  obtain ⟨start, created, setter, mind, context, ended, entered, began, after, split, setting, mine,
      template⟩ : ∃ start, World.create .standard none = .ok start ∧
      ∃ setter mind context ended entered began after,
        (start.movesBy Patrol.repertoire.stager more).journal =
          [.began .call setter, .asked .call setter .mind] ++
            .asked .call setter (.setMind mind) ::
              ([.ended .call ended, .entered entered, .began .call began] ++
                .asked .call context (.communicate "greeting" "]") :: after) ∧
        setter.controller.id = ada ∧ context.controller.id = ada ∧
        mind.phrases.template? "greeting" =
          some (openPlace.intercalate ["[p1", ", is it ", "?"]) :=
    ⟨_, rfl, _, _, _, _, _, _, _, rfl, rfl, rfl,
      (Phrasebook.template?_set _ _ _ _).trans (if_pos rfl)⟩
  have reached : (start.moves Patrol.repertoire []).outcome = .ok start := rfl
  obtain ⟨_, _, _, voices⟩ := voices_of_moves created reached spares
  have said := voices.afterwards _ _ _ _ _ setter context mind _ "]" split setting mine
    (by simp [Scene.rewords]) template (by decide)
  exact ⟨start, _, setter, mind, _, context, after, created, split, mine, said⟩

end World

end PriorityAgents
