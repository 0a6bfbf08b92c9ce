import PriorityAgents.Proofs.Controller.Bearing
import PriorityAgents.Proofs.Phrasebook.Rendering

/-!
What an agent has to say on an occasion.

Its phrase is the one that its own code has set last. Of the requests of its code only the keeping
of a mind has a hand in that: a message that the agent is handed may change the agent and nothing
else of its mind.
-/

set_option autoImplicit false

namespace PriorityAgents

open Phrasebook (openPlace Plain template?)

variable {vocabulary : Vocabulary} {repertoire : Repertoire vocabulary} {agent : AgentId}
  {key : String} {first : Option String}

/-! ### Messages -/

namespace Context

def handed (repertoire : Repertoire vocabulary) (context : Context vocabulary) (message : String) :
    Logged (Context vocabulary) := do
  let agent ← (repertoire.receive message context.controller.agent).logged
  pure { context with controller := context.controller.mapAgent fun _ => agent }

/-- The phrase of an occasion comes to a message, and to say it is to hand the agent that message,
once. -/
structure Says (repertoire : Repertoire vocabulary) (context : Context vocabulary)
    (key substitution message : String) : Prop where
  rendered : context.controller.mind.phrases.render? key substitution = some message
  performed : context.perform repertoire (.communicate key substitution) =
    effect (context.handed repertoire message)

/-- There is no phrase for an occasion, and the agent is handed nothing. -/
structure Silent (repertoire : Repertoire vocabulary) (context : Context vocabulary)
    (key substitution : String) : Prop where
  rendered : context.controller.mind.phrases.render? key substitution = none
  performed : context.perform repertoire (.communicate key substitution) = pure ((), context)

structure Speaks (repertoire : Repertoire vocabulary) (context : Context vocabulary)
    (key : String) : Prop where
  phrase (pieces : List String) (substitution : String) :
    context.controller.mind.phrases.template? key = some (openPlace.intercalate pieces) →
      (∀ piece ∈ pieces, Plain piece) →
        context.Says repertoire key substitution (substitution.intercalate pieces)
  silence (substitution : String) : context.controller.mind.phrases.template? key = none →
    context.Silent repertoire key substitution

theorem speaks (repertoire : Repertoire vocabulary) (context : Context vocabulary)
    (key : String) : context.Speaks repertoire key where
  phrase := by
    intro pieces substitution template plain
    have rendered := Phrasebook.render?_of_pieces substitution template plain
    refine ⟨rendered, ?_⟩
    change effect (context.communicate repertoire key substitution) = _
    unfold communicate
    rw [rendered]
    rfl
  silence := by
    intro substitution unset
    have rendered := Phrasebook.render?_of_unset substitution unset
    refine ⟨rendered, ?_⟩
    change effect (context.communicate repertoire key substitution) = _
    unfold communicate
    rw [rendered]
    rfl

end Context

/-! ### Phrases from scene to scene -/

def Scene.wording (agent : AgentId) (key : String) (held : Option String) :
    Scene vocabulary → Option String
  | .asked _ context (.setMind mind) =>
      if context.controller.id = agent then mind.phrases.template? key else held
  | _ => held

/-- Whether a scene gives an agent another phrase for an occasion than the one that it has. -/
def Scene.rewords (agent : AgentId) (key : String) : Scene vocabulary → Bool
  | .asked _ context (.setMind mind) =>
      context.controller.id = agent ∧
        mind.phrases.template? key ≠ context.controller.mind.phrases.template? key
  | _ => false

def wording (agent : AgentId) (key : String) (first : Option String)
    (history : List (Scene vocabulary)) : Option String :=
  history.foldl (Scene.wording agent key) first

section

variable {past more : List (Scene vocabulary)} {scene : Scene vocabulary}

theorem wording_append : wording agent key first (past ++ more) =
    wording agent key (wording agent key first past) more :=
  List.foldl_append

private theorem wording_of_others (others : ∀ scene ∈ more, scene.agent? ≠ some agent) :
    wording agent key first more = first := by
  induction more with
  | nil => rfl
  | cons scene more ih =>
      obtain ⟨here, rest⟩ := List.forall_mem_cons.mp others
      have kept : scene.wording agent key first = first := by
        unfold Scene.wording
        split
        · rw [if_neg]
          rintro rfl
          exact here rfl
        · rfl
      change wording agent key (scene.wording agent key first) more = first
      rw [kept]
      exact ih rest

end

private theorem template?_of_perform {context later : Context vocabulary}
    {request : Request vocabulary} {answer : request.Answer} {journal : List Entry}
    (role : Role vocabulary) (mine : context.controller.id = agent)
    (given : (context.perform repertoire request).Gives (answer, later) journal) :
    later.controller.mind.phrases.template? key =
      (Scene.asked role context request).wording agent key
        (context.controller.mind.phrases.template? key) := by
  cases request with
  | setMind mind =>
      cases (Journaled.gives_pure.mp given).1
      exact (if_pos mine).symm
  | communicate occasion text =>
      have meets : (Program.request (.communicate occasion text)).Meets repertoire
          (fun controller => controller.mind.phrases = context.controller.mind.phrases)
          fun _ controller => controller.mind.phrases = context.controller.mind.phrases :=
        .communicate (fun _ kept => kept) fun _ _ _ _ kept => kept
      exact congrArg (template? · key) (meets.performed given rfl)
  | _ => exact congrArg (template? ·.phrases key) (Context.mind_of_perform given nofun nofun)

/-! ### Diction -/

/-- An agent has the phrase for an occasion that its code has set last, at every moment. -/
def diction (vocabulary : Vocabulary) (agent : AgentId) (key : String) (first : Option String) :
    Regime vocabulary (Scene vocabulary) where
  agent? := Scene.agent?
  good past scene := ∀ context, scene.context? = some context → context.controller.id = agent →
    context.controller.mind.phrases.template? key = wording agent key first past
  invariant past other controller := controller.id = other ∧
    (other = agent → controller.mind.phrases.template? key = wording agent key first past)

private theorem diction_isOfMinds (repertoire : Repertoire vocabulary) :
    (diction vocabulary agent key first).IsOfMinds repertoire where
  agent? := rfl
  id kept := kept.1
  entered _ _ := nofun
  shown := by
    rintro past other context scene ⟨id, held⟩ own shown same mine
    cases own.symm.trans same
    exact held (id.symm.trans mine)
  aside := by
    rintro past more other controller ⟨id, held⟩ others
    refine ⟨id, fun mine => ?_⟩
    subst mine
    rw [wording_append, wording_of_others others]
    exact held rfl
  same := by
    rintro past other controller later ⟨id, held⟩ name mind
    rw [← mind] at held
    exact ⟨name.trans id, held⟩
  unasked := by
    rintro past other context scene ⟨id, held⟩ own unasked
    refine ⟨id, fun mine => ?_⟩
    rw [wording_append, held mine]
    cases scene with
    | asked role standing request =>
        cases own
        exact absurd rfl (unasked role request)
    | _ => rfl
  asked := by
    rintro past other context later request answer journal role ⟨id, held⟩ given
    refine ⟨(Context.Works.of_course (.perform given)).id.trans id, fun mine => ?_⟩
    subst mine
    rw [wording_append, ← held rfl]
    exact template?_of_perform role id given

theorem upholds_diction {taken : Nat} (unknown : taken ≤ agent.index → first = none)
    (repertoire : Repertoire vocabulary) (etiquette : Etiquette vocabulary) :
    repertoire.stager.Upholds etiquette (diction vocabulary agent key first) taken := by
  refine (diction_isOfMinds repertoire).upholds ?_ etiquette
  intro past other name state seed delay beyond unseen
  refine ⟨rfl, fun mine => ?_⟩
  subst mine
  rw [wording_of_others unseen, unknown beyond]
  exact Phrasebook.template?_empty key

theorem wording_of_unworded {past between : List (Scene vocabulary)}
    (fair : Journaled.Fair (diction vocabulary agent key first).good past between)
    (kept : ∀ scene ∈ between, scene.rewords agent key = false) :
    wording agent key first (past ++ between) = wording agent key first past := by
  induction between generalizing past with
  | nil => rw [List.append_nil]
  | cons scene between ih =>
      obtain ⟨here, rest⟩ := List.forall_mem_cons.mp kept
      have shown := fair [] scene between rfl
      rw [List.append_nil] at shown
      have still : wording agent key first (past ++ [scene]) = wording agent key first past := by
        rw [wording_append]
        change scene.wording agent key _ = _
        unfold Scene.wording
        split
        · rename_i context mind
          split
          · rename_i mine
            have same := of_decide_eq_false here
            rw [← shown context rfl mine]
            exact not_ne_iff.mp fun other => same ⟨mine, other⟩
          · rfl
        · rfl
      have following : Journaled.Fair (diction vocabulary agent key first).good
          (past ++ [scene]) between := Journaled.Fair.right fair
      have later := ih following rest
      rw [List.append_assoc, still] at later
      exact later

end PriorityAgents
