import PriorityAgents.Proofs.Controller.Contract
import PriorityAgents.Proofs.Controller.Scene

/-!
Regimes that have to do with the minds of agents only.

A mind is changed in one request at a time, whatever code the request is part of and for whatever
the code is run. So such a regime is upheld by all agents in every turn, whatever a host has them
do, once each request is known to uphold it.
-/

set_option autoImplicit false

namespace PriorityAgents

variable {vocabulary : Vocabulary} {α β : Type} {repertoire : Repertoire vocabulary}
  {regime : Regime vocabulary (Scene vocabulary)} {agent : AgentId}

/-- What is kept up depends on the name and the mind of an agent, and requests keep it up. -/
structure Regime.IsOfMinds (repertoire : Repertoire vocabulary)
    (regime : Regime vocabulary (Scene vocabulary)) : Prop where
  agent? : regime.agent? = Scene.agent?
  id {past : List (Scene vocabulary)} {agent : AgentId} {controller : Controller vocabulary} :
    regime.invariant past agent controller → controller.id = agent
  entered (past : List (Scene vocabulary)) (entry : Entry) : regime.good past (.entered entry)
  /-- The scenes of an agent are good while it keeps up what it has to. -/
  shown {past : List (Scene vocabulary)} {agent : AgentId} {context : Context vocabulary}
    {scene : Scene vocabulary} : regime.invariant past agent context.controller →
      scene.context? = some context → regime.good past scene
  aside {past more : List (Scene vocabulary)} {agent : AgentId}
    {controller : Controller vocabulary} : regime.invariant past agent controller →
      (∀ scene ∈ more, scene.agent? ≠ some agent) →
        regime.invariant (past ++ more) agent controller
  /-- Nothing but the name and the mind counts. -/
  same {past : List (Scene vocabulary)} {agent : AgentId}
    {controller later : Controller vocabulary} : regime.invariant past agent controller →
      later.id = controller.id → later.mind = controller.mind →
        regime.invariant past agent later
  unasked {past : List (Scene vocabulary)} {agent : AgentId} {context : Context vocabulary}
    {scene : Scene vocabulary} : regime.invariant past agent context.controller →
      scene.context? = some context → (∀ role request, scene ≠ .asked role context request) →
        regime.invariant (past ++ [scene]) agent context.controller
  asked {past : List (Scene vocabulary)} {agent : AgentId} {context later : Context vocabulary}
    {request : Request vocabulary} {answer : request.Answer} {journal : List Entry}
    (role : Role vocabulary) : regime.invariant past agent context.controller →
      (context.perform repertoire request).Gives (answer, later) journal →
        regime.invariant (past ++ [.asked role context request]) agent later.controller

def Staged.Upholds (regime : Regime vocabulary (Scene vocabulary)) (agent : AgentId)
    (staged : Staged vocabulary α) : Prop :=
  ∀ past context, regime.invariant past agent context.controller →
    regime.Turn past agent (staged context)

namespace Staged.Upholds

theorem pure (answer : α) : (Pure.pure answer : Staged vocabulary α).Upholds regime agent :=
  fun _ _ kept => .pure kept

theorem bind {first : Staged vocabulary β} {next : β → Staged vocabulary α}
    (early : first.Upholds regime agent) (late : ∀ answer, (next answer).Upholds regime agent) :
    (first >>= next).Upholds regime agent :=
  fun past context kept => (early past context kept).bind
    fun history reached kept => late reached.1 history reached.2 kept

end Staged.Upholds

namespace Regime.IsOfMinds

open Staged

private theorem fair_entries (minds : regime.IsOfMinds repertoire) (agent : AgentId)
    (past : List (Scene vocabulary)) (entries : List Entry) :
    Journaled.Fair (fun before scene =>
      (∀ other, regime.agent? scene = some other → other = agent) ∧ regime.good before scene)
      past (entries.map .entered) := by
  apply Journaled.Fair.of_all
  intro scene member before
  obtain ⟨entry, _, rfl⟩ := List.mem_map.mp member
  rw [minds.agent?]
  exact ⟨nofun, minds.entered before entry⟩

private theorem afterEntries (minds : regime.IsOfMinds repertoire) {past : List (Scene vocabulary)}
    {controller : Controller vocabulary} (kept : regime.invariant past agent controller)
    (entries : List Entry) :
    regime.invariant (past ++ entries.map .entered) agent controller := by
  apply minds.aside kept
  intro scene member
  obtain ⟨entry, _, rfl⟩ := List.mem_map.mp member
  exact nofun

private theorem alone (minds : regime.IsOfMinds repertoire) {past : List (Scene vocabulary)}
    {context : Context vocabulary} {scene : Scene vocabulary}
    (kept : regime.invariant past agent context.controller)
    (own : scene.context? = some context) :
    ∀ other, regime.agent? scene = some other → other = agent := by
  intro other about
  rw [minds.agent?, Scene.agent?, own, Option.map_some, minds.id kept] at about
  exact (Option.some.inj about).symm

private theorem mark (minds : regime.IsOfMinds repertoire)
    {scene : Context vocabulary → Scene vocabulary}
    (own : ∀ context, (scene context).context? = some context)
    (unasked : ∀ context role request, scene context ≠ .asked role context request) :
    (Staged.mark scene).Upholds regime agent := by
  intro past context kept
  refine ⟨.singleton ⟨minds.alone kept (own context), minds.shown kept (own context)⟩, ?_⟩
  rintro _ ⟨rfl⟩
  exact minds.unasked kept (own context) (unasked context)

private theorem carried (minds : regime.IsOfMinds repertoire)
    {step : Context vocabulary → Logged (α × Context vocabulary)} {past : List (Scene vocabulary)}
    {context : Context vocabulary} (kept : regime.invariant past agent context.controller)
    (mindless : ∀ answer later journal, (step context).Gives (answer, later) journal →
      later.controller.id = context.controller.id ∧
        later.controller.mind = context.controller.mind) :
    regime.Turn past agent (Staged.carry step context) := by
  refine ⟨minds.fair_entries agent past _, fun reached same => ?_⟩
  obtain ⟨id, mind⟩ := mindless reached.1 reached.2 _ (Journaled.gives_of_outcome same)
  exact minds.afterEntries (minds.same kept id mind) _

private theorem carry (minds : regime.IsOfMinds repertoire)
    {step : Context vocabulary → Logged (α × Context vocabulary)}
    (mindless : ∀ context answer later journal, (step context).Gives (answer, later) journal →
      later.controller.id = context.controller.id ∧
        later.controller.mind = context.controller.mind) :
    (Staged.carry step).Upholds regime agent :=
  fun _ context kept => minds.carried kept (mindless context)

private theorem ask (minds : regime.IsOfMinds repertoire) (role : Role vocabulary)
    (request : Request vocabulary) : Staged.Upholds regime agent (do
      Staged.mark fun context => .asked role context request
      Staged.carry fun context => context.perform repertoire request) := by
  intro past context kept
  have marked : ((Staged.mark fun context => .asked role context request) context).Continues
      (fun before scene => (∀ other, regime.agent? scene = some other → other = agent) ∧
        regime.good before scene)
      (fun history reached =>
        history = past ++ [.asked role context request] ∧ reached.2 = context) past := by
    refine ⟨.singleton ⟨minds.alone kept rfl, minds.shown kept rfl⟩, ?_⟩
    rintro _ ⟨rfl⟩
    exact ⟨rfl, rfl⟩
  have performed (history : List (Scene vocabulary)) (reached : Unit × Context vocabulary)
      (known : history = past ++ [.asked role context request] ∧ reached.2 = context) :
      regime.Turn history agent
        (Staged.carry (fun context => context.perform repertoire request) reached.2) := by
    obtain ⟨rfl, same⟩ := known
    rw [same]
    refine ⟨minds.fair_entries agent _ _, fun answer done => ?_⟩
    exact minds.afterEntries (minds.asked role kept (Journaled.gives_of_outcome done)) _
  exact marked.bind performed

private theorem enact (minds : regime.IsOfMinds repertoire) (role : Role vocabulary)
    (program : Program vocabulary α) : (repertoire.enact role program).Upholds regime agent := by
  induction program with
  | pure answer => exact .pure answer
  | ask request next ih =>
      unfold Repertoire.enact
      rw [← bind_assoc]
      exact .bind (minds.ask role request) ih

private theorem stage (minds : regime.IsOfMinds repertoire) (role : Role vocabulary)
    (program : Program vocabulary α) : (repertoire.stage role program).Upholds regime agent :=
  .bind (minds.mark (fun _ => rfl) nofun) fun _ => .bind (minds.enact role program) fun answer =>
    .bind (minds.mark (fun _ => rfl) nofun) fun _ => .pure answer

private theorem tell (minds : regime.IsOfMinds repertoire) (severity : Severity)
    (message : String) : (Staged.carry (Context.tell severity message)).Upholds regime agent :=
  minds.carry fun _ _ _ _ given => by
    rw [Context.eq_of_tell given]
    exact ⟨rfl, rfl⟩

private theorem actor (minds : regime.IsOfMinds repertoire) :
    repertoire.actor.Closed fun {_} staged => staged.Upholds regime agent where
  pure := .pure
  bind := .bind
  test _ := minds.stage _ _
  perform _ := minds.stage _ _
  arm delay := by
    refine minds.carry fun context answer later journal given => ?_
    exact ⟨(Context.Works.of_course (.perform given)).id,
      Context.mind_of_perform given nofun nofun⟩
  visited depth index isMatch := by
    refine minds.carry fun context answer later journal given => ?_
    have mindless : (Repertoire.noteVisit depth index isMatch : Program vocabulary Unit).Meets
        repertoire (fun controller => controller.mind = context.controller.mind)
        fun _ controller => controller.mind = context.controller.mind :=
      Repertoire.Upholds.noteVisit depth index isMatch
    exact ⟨(Context.Works.run given).id, mindless context answer later journal given rfl⟩

private theorem choice (minds : regime.IsOfMinds repertoire) (rules : List (Rule vocabulary)) :
    (repertoire.stagedChoice rules).Upholds regime agent := by
  refine .bind (minds.actor.walk rules) fun chosen => ?_
  cases chosen with
  | none => exact .bind (minds.tell _ _) fun _ => .pure _
  | some chosen => exact .bind (minds.tell _ _) fun _ => .bind (minds.stage _ _) fun _ => .pure _

private theorem onTimer (minds : regime.IsOfMinds repertoire) (fired : TimerHandle) :
    (repertoire.stagedOnTimer fired).Upholds regime agent := by
  intro past context kept
  unfold Repertoire.stagedOnTimer
  by_cases pending : context.controller.pending = some fired
  · rw [if_pos pending]
    have detached : regime.invariant past agent context.detached.controller :=
      minds.same kept rfl rfl
    split
    · have walks : (Staged.mark .setOut >>= fun _ =>
          repertoire.stagedChoice context.controller.tree.rules).Upholds regime agent :=
        .bind (minds.mark (fun _ => rfl) nofun) fun _ => minds.choice _
      exact walks past context.detached detached
    · exact .pure detached
  · rw [if_neg pending]
    refine minds.carried kept fun _ later _ given => ?_
    rw [(Context.stale_of_onTimer pending given).2]
    exact ⟨rfl, rfl⟩

private theorem handleEvent (minds : regime.IsOfMinds repertoire) (name : EventName)
    (payload : vocabulary.Payload) :
    (repertoire.stagedHandleEvent name payload).Upholds regime agent := by
  intro past context kept
  unfold Repertoire.stagedHandleEvent
  cases context.controller.surface.handler? name with
  | none => exact .pure kept
  | some handler =>
      have answers : (repertoire.stage (.response name handler payload)
          (repertoire.handle handler payload) >>= fun _ => Pure.pure true).Upholds regime agent :=
        .bind (minds.stage _ _) fun _ => .pure true
      exact answers past context kept

/-- What every request keeps up, and every new agent, all agents keep up whatever a host does. -/
theorem upholds (minds : regime.IsOfMinds repertoire) {taken : Nat}
    (start : ∀ past agent name state seed delay, taken ≤ agent.index →
      (∀ scene ∈ past, scene.agent? ≠ some agent) →
        regime.invariant past agent (Controller.start agent name state seed delay))
    (etiquette : Etiquette vocabulary) :
    repertoire.stager.Upholds etiquette regime taken where
  impersonal _ := by
    rw [minds.agent?]
    rfl
  entered := minds.entered
  aside := by
    intro past more agent controller kept others
    rw [minds.agent?] at others
    exact minds.aside kept others
  spawn := by
    intro past agent state setup name seed delay timers _ beyond unseen
    rw [minds.agent?] at unseen
    exact minds.stage .call setup past _ (start past agent name state seed delay beyond unseen)
  call _ kept := minds.stage .call _ _ _ kept
  event _ kept := minds.handleEvent _ _ _ _ kept
  timer fired kept := minds.onTimer fired _ _ kept
  farewell payload _ kept := minds.handleEvent .entityDestroyed payload _ _ kept
  teardown _ _ := ⟨minds.fair_entries _ _ _, fun _ _ => trivial⟩

end Regime.IsOfMinds

/-- A host that may do anything. -/
def unbound (vocabulary : Vocabulary) : Etiquette vocabulary where
  spawns _ _ := True
  calls _ _ _ := True
  posts _ _ _ := True
  destroys _ := True

/-! ### Names -/

/-- Every agent keeps the name of its slot. -/
def naming (vocabulary : Vocabulary) : Regime vocabulary (Scene vocabulary) where
  agent? := Scene.agent?
  good _ _ := True
  invariant _ agent controller := controller.id = agent

private theorem naming_isOfMinds (repertoire : Repertoire vocabulary) :
    (naming vocabulary).IsOfMinds repertoire where
  agent? := rfl
  id kept := kept
  entered _ _ := trivial
  shown _ _ := trivial
  aside kept _ := kept
  same kept id _ := id.trans kept
  unasked kept _ _ := kept
  asked _ kept given := (Context.Works.of_course (.perform given)).id.trans kept

theorem upholds_naming (repertoire : Repertoire vocabulary) (etiquette : Etiquette vocabulary) :
    repertoire.stager.Upholds etiquette (naming vocabulary) 0 :=
  (naming_isOfMinds repertoire).upholds (fun _ _ _ _ _ _ _ _ => rfl) etiquette

end PriorityAgents
