import PriorityAgents.Proofs.Controller.Keeping
import PriorityAgents.Proofs.Controller.Usher
import PriorityAgents.Proofs.Rule.Parts

/-!
Agents on stage: what an agent's code is run for, and what the controller and its timers look like
at each moment of it.

A question, a deed or a response has a beginning and an end, and between them it asks for one thing
after another. That tells one callback from the next, and what one of them leaves behind from what
the next one finds. Nothing is added but the account.
-/

set_option autoImplicit false

namespace PriorityAgents

variable {vocabulary : Vocabulary} {α β : Type}

theorem Context.stale_of_onTimer {repertoire : Repertoire vocabulary}
    {context later : Context vocabulary} {fired : TimerHandle} {outcome : Reconsideration}
    {journal : List Entry} (stale : context.controller.pending ≠ some fired)
    (given : (context.onTimer repertoire fired).Gives (outcome, later) journal) :
    outcome = .stale ∧ later = context := by
  have detach : context.controller.scheduler.detach? fired = none := if_neg stale
  unfold Context.onTimer at given
  rw [detach] at given
  obtain ⟨_, _, _, _, rest, _⟩ := Journaled.gives_bind.mp given
  cases (Journaled.gives_pure.mp rest).1
  exact ⟨rfl, rfl⟩

/-- A record of a controller is told, and nothing else is done. -/
def Context.tell (severity : Severity) (message : String) (context : Context vocabulary) :
    Logged (Unit × Context vocabulary) := do
  context.report severity message [("ai", context.controller.name)]
  pure ((), context)

theorem Context.eq_of_tell {severity : Severity} {message : String}
    {context later : Context vocabulary} {answer : Unit} {journal : List Entry}
    (given : (context.tell severity message).Gives (answer, later) journal) : later = context := by
  obtain ⟨_, _, _, _, rest, _⟩ := Journaled.gives_bind.mp given
  cases (Journaled.gives_pure.mp rest).1
  rfl

/-- What a piece of an agent's code is run for. -/
inductive Role (vocabulary : Vocabulary) where
  /-- Its setup, or something that a host has it do. -/
  | call
  | question (condition : vocabulary.Condition)
  | deed (action : vocabulary.Action)
  /-- The handler that an event of some name has met. -/
  | response (name : EventName) (handler : Handler vocabulary) (payload : vocabulary.Payload)

inductive Scene (vocabulary : Vocabulary) where
  | entered (entry : Entry)
  /-- A walk over the tree sets out. -/
  | setOut (context : Context vocabulary)
  | began (role : Role vocabulary) (context : Context vocabulary)
  /-- A piece of code asks something of its controller. -/
  | asked (role : Role vocabulary) (context : Context vocabulary)
      (request : Request vocabulary)
  | ended (role : Role vocabulary) (context : Context vocabulary)

namespace Scene

def entry? : Scene vocabulary → Option Entry
  | .entered entry => some entry
  | _ => none

def context? : Scene vocabulary → Option (Context vocabulary)
  | .entered _ => none
  | .setOut context | .began _ context | .asked _ context _ | .ended _ context => some context

def agent? (scene : Scene vocabulary) : Option AgentId :=
  scene.context?.map fun context => context.controller.id

end Scene

/-- A piece of code at work on a controller and its timers, on stage. -/
abbrev Staged (vocabulary : Vocabulary) (α : Type) : Type :=
  StateT (Context vocabulary) (Journaled (Scene vocabulary)) α

namespace Staged

def mark (scene : Context vocabulary → Scene vocabulary) : Staged vocabulary Unit :=
  fun context => ⟨.ok ((), context), [scene context]⟩

def carry (step : Context vocabulary → Logged (α × Context vocabulary)) : Staged vocabulary α :=
  fun context => ⟨(step context).outcome, (step context).journal.map .entered⟩

def unstaged (staged : Staged vocabulary α) (context : Context vocabulary) :
    Logged (α × Context vocabulary) :=
  (staged context).reading Scene.entry?

theorem unstaged_bind (first : Staged vocabulary α) (next : α → Staged vocabulary β)
    (context : Context vocabulary) :
    (first >>= next).unstaged context =
      first.unstaged context >>= fun reached => (next reached.1).unstaged reached.2 :=
  Journaled.reading_bind Scene.entry? (first context) _

private theorem unstaged_mark {scene : Context vocabulary → Scene vocabulary}
    (silent : ∀ context, Scene.entry? (scene context) = none) (context : Context vocabulary) :
    (mark scene).unstaged context = pure ((), context) :=
  Journaled.ext rfl (List.filterMap_cons_none (silent context))

private theorem unstaged_carry (step : Context vocabulary → Logged (α × Context vocabulary))
    (context : Context vocabulary) : (carry step).unstaged context = step context := by
  refine Journaled.ext rfl ?_
  change ((step context).journal.map Scene.entered).filterMap Scene.entry? = _
  rw [List.filterMap_map]
  exact List.filterMap_some

private def offstage : Reading (Staged vocabulary) (StateT (Context vocabulary) Logged) where
  read := fun staged context => staged.unstaged context
  read_pure := fun _ => rfl
  read_bind := fun early next => funext (unstaged_bind early next)

end Staged

namespace Repertoire

variable (repertoire : Repertoire vocabulary)

/-- What a program asks for, one request after another. -/
def enact (role : Role vocabulary) : Program vocabulary α → Staged vocabulary α
  | .pure answer => pure answer
  | .ask request next => do
      Staged.mark fun context => .asked role context request
      let answer ← Staged.carry fun context => context.perform repertoire request
      enact role (next answer)

def stage (role : Role vocabulary) (program : Program vocabulary α) :
    Staged vocabulary α := do
  Staged.mark (.began role)
  let answer ← repertoire.enact role program
  Staged.mark (.ended role)
  pure answer

def actor : Walker vocabulary (Staged vocabulary) where
  test := fun condition => repertoire.stage (.question condition) (repertoire.condition condition)
  perform := fun action => repertoire.stage (.deed action) (repertoire.action action)
  arm := fun delay => Staged.carry fun context => context.perform repertoire (.schedule delay)
  visited := fun depth index isMatch =>
    Staged.carry fun context => context.run repertoire (noteVisit depth index isMatch)

def stagedChoice (rules : List (Rule vocabulary)) : Staged vocabulary Reconsideration := do
  match ← repertoire.actor.walk rules with
  | some chosen =>
      Staged.carry (Context.tell .debug "behaviour selected")
      repertoire.actor.perform chosen
      pure .selected
  | none =>
      Staged.carry (Context.tell .warn
        "all priorities failed; priority trees should end with an unconditional entry")
      pure .noMatch

def stagedReconsider : Staged vocabulary Reconsideration := fun context =>
  (Staged.mark .setOut >>= fun _ => repertoire.stagedChoice context.controller.tree.rules) context

def stagedOnTimer (fired : TimerHandle) : Staged vocabulary Reconsideration := fun context =>
  if context.controller.pending = some fired then
    if repertoire.isPresent context.controller.agent then
      repertoire.stagedReconsider context.detached
    else pure (.agentGone, context.detached)
  else (Staged.carry fun context => context.onTimer repertoire fired) context

def stagedHandleEvent (name : EventName) (payload : vocabulary.Payload) :
    Staged vocabulary Bool := fun context =>
  match context.controller.surface.handler? name with
  | none => pure (false, context)
  | some handler =>
      (repertoire.stage (.response name handler payload) (repertoire.handle handler payload) >>=
        fun _ => pure true) context

/-- An usher who writes down every scene. -/
def stager : Usher vocabulary (Scene vocabulary) where
  enter := .entered
  call program := repertoire.stage .call program
  event := repertoire.stagedHandleEvent
  timer := repertoire.stagedOnTimer
  teardown context := ⟨context.teardown.outcome, context.teardown.journal.map .entered⟩

theorem enact_bind (role : Role vocabulary) (program : Program vocabulary α)
    (next : α → Program vocabulary β) :
    repertoire.enact role (program >>= next) =
      repertoire.enact role program >>= fun answer => repertoire.enact role (next answer) := by
  induction program with
  | pure answer =>
      exact (pure_bind answer fun answer => repertoire.enact role (next answer)).symm
  | ask request rest ih =>
      rw [Program.ask_bind, enact, enact, bind_assoc]
      refine congrArg _ (funext fun _ => ?_)
      rw [bind_assoc]
      exact congrArg _ (funext ih)

/-! ### What is left off stage -/

open Staged

private theorem unstaged_enact (role : Role vocabulary) (program : Program vocabulary α)
    (context : Context vocabulary) :
    (repertoire.enact role program).unstaged context = context.run repertoire program := by
  induction program generalizing context with
  | pure answer => rfl
  | ask request next ih =>
      rw [enact, unstaged_bind, unstaged_mark (fun _ => rfl), pure_bind, unstaged_bind,
        unstaged_carry]
      exact congrArg _ (funext fun reached => ih reached.1 reached.2)

private theorem unstaged_stage (role : Role vocabulary) (program : Program vocabulary α)
    (context : Context vocabulary) :
    (repertoire.stage role program).unstaged context = context.run repertoire program := by
  rw [stage, unstaged_bind, unstaged_mark (fun _ => rfl), pure_bind, unstaged_bind,
    unstaged_enact]
  refine (bind_congr fun reached => ?_).trans (bind_pure _)
  rw [unstaged_bind, unstaged_mark (fun _ => rfl), pure_bind]
  rfl

private theorem unstaged_walk (rules : List (Rule vocabulary)) (context : Context vocabulary) :
    (repertoire.actor.walk rules).unstaged context =
      context.run repertoire (repertoire.evaluate rules) := by
  let ran : Reading (Program vocabulary) (StateT (Context vocabulary) Logged) :=
    { read := fun program context => context.run repertoire program
      read_pure := fun _ => rfl
      read_bind := fun early next => funext fun context => context.run_bind repertoire early next }
  have parts : offstage.through repertoire.actor = ran.through repertoire.walker := by
    unfold Reading.through
    congr 1
    · funext condition context
      exact repertoire.unstaged_stage _ _ context
    · funext action context
      exact repertoire.unstaged_stage _ _ context
    · funext delay context
      exact (unstaged_carry _ context).trans (bind_pure _).symm
  have walked := offstage.read_walk repertoire.actor rules
  rw [parts, ← ran.read_walk] at walked
  exact congrFun walked context

private theorem unstaged_reconsider (context : Context vocabulary) :
    repertoire.stagedReconsider.unstaged context = context.reconsider repertoire := by
  change (mark .setOut >>= fun _ =>
    repertoire.stagedChoice context.controller.tree.rules).unstaged context = _
  rw [unstaged_bind, unstaged_mark (fun _ => rfl), pure_bind, stagedChoice, unstaged_bind,
    repertoire.unstaged_walk, Context.reconsider]
  refine congrArg _ (funext fun reached => ?_)
  obtain ⟨chosen, later⟩ := reached
  cases chosen with
  | none =>
      change (carry _ >>= fun _ => pure Reconsideration.noMatch).unstaged later = _
      rw [unstaged_bind, unstaged_carry, Context.tell, bind_assoc]
      rfl
  | some chosen =>
      change (carry _ >>= fun _ => repertoire.actor.perform chosen >>= fun _ =>
        pure Reconsideration.selected).unstaged later = _
      rw [unstaged_bind, unstaged_carry, Context.tell, bind_assoc]
      refine congrArg _ (funext fun _ => ?_)
      rw [pure_bind, unstaged_bind]
      exact congrArg (· >>= _) (repertoire.unstaged_stage _ _ later)

private theorem unstaged_onTimer (fired : TimerHandle) (context : Context vocabulary) :
    (repertoire.stagedOnTimer fired).unstaged context = context.onTimer repertoire fired := by
  unfold unstaged stagedOnTimer
  by_cases pending : context.controller.pending = some fired
  · rw [if_pos pending, Context.onTimer_of_pending pending]
    split
    · exact repertoire.unstaged_reconsider context.detached
    · rfl
  · rw [if_neg pending]
    exact unstaged_carry _ context

private theorem unstaged_handleEvent (name : EventName) (payload : vocabulary.Payload)
    (context : Context vocabulary) :
    (repertoire.stagedHandleEvent name payload).unstaged context =
      context.handleEvent repertoire name payload := by
  unfold unstaged stagedHandleEvent Context.handleEvent
  cases context.controller.surface.handler? name with
  | none => rfl
  | some handler =>
      change (repertoire.stage _ _ >>= fun _ => pure true).unstaged context = _
      rw [unstaged_bind, unstaged_stage]
      rfl

theorem stager_follows : repertoire.stager.Follows repertoire Scene.entry? where
  enter _ := rfl
  call program context := repertoire.unstaged_stage .call program context
  event name payload context := repertoire.unstaged_handleEvent name payload context
  timer fired context := repertoire.unstaged_onTimer fired context
  teardown context := Journaled.ext rfl (by
    change (context.teardown.journal.map Scene.entered).filterMap Scene.entry? = _
    rw [List.filterMap_map]
    exact List.filterMap_some)

end Repertoire

/-! ### Whose scenes they are -/

def Staged.IsOwn (agent : AgentId) (staged : Staged vocabulary α) : Prop :=
  ∀ past context, context.controller.id = agent →
    (staged context).Continues
      (fun _ scene => ∀ other, scene.agent? = some other → other = agent)
      (fun _ reached => reached.2.controller.id = agent) past

namespace Staged.IsOwn

variable {agent : AgentId} {repertoire : Repertoire vocabulary}

theorem pure (answer : α) : (Pure.pure answer : Staged vocabulary α).IsOwn agent :=
  fun _ _ id => .pure id

theorem bind {first : Staged vocabulary β} {next : β → Staged vocabulary α}
    (early : first.IsOwn agent) (late : ∀ answer, (next answer).IsOwn agent) :
    (first >>= next).IsOwn agent :=
  fun past context id => (early past context id).bind
    fun history reached kept => late reached.1 history reached.2 kept

private theorem mark {scene : Context vocabulary → Scene vocabulary}
    (own : ∀ context, (scene context).context? = some context) :
    (Staged.mark scene).IsOwn agent := by
  intro past context id
  refine ⟨.singleton fun other about => ?_, fun reached same => ?_⟩
  · rw [Scene.agent?, own, Option.map_some] at about
    exact (Option.some.inj about).symm.trans id
  · cases same
    exact id

private theorem carry {step : Context vocabulary → Logged (α × Context vocabulary)}
    (keeps : ∀ context answer later journal, (step context).Gives (answer, later) journal →
      later.controller.id = context.controller.id) :
    (Staged.carry step).IsOwn agent := by
  intro past context id
  refine ⟨.of_all fun scene member _ => ?_, fun reached same => ?_⟩
  · obtain ⟨entry, _, rfl⟩ := List.mem_map.mp member
    exact nofun
  · exact (keeps context reached.1 reached.2 _ (Journaled.gives_of_outcome same)).trans id

private theorem enact (role : Role vocabulary) (program : Program vocabulary α) :
    (repertoire.enact role program).IsOwn agent := by
  induction program with
  | pure answer => exact .pure answer
  | ask request next ih =>
      refine .bind (.mark fun _ => rfl) fun _ => .bind (.carry ?_) ih
      exact fun _ _ _ _ given => (Context.Works.of_course (.perform given)).id

theorem stage (role : Role vocabulary) (program : Program vocabulary α) :
    (repertoire.stage role program).IsOwn agent :=
  .bind (.mark fun _ => rfl) fun _ => .bind (.enact role program) fun answer =>
    .bind (.mark fun _ => rfl) fun _ => .pure answer

private theorem actor : repertoire.actor.Closed fun {_} staged => staged.IsOwn agent where
  pure := .pure
  bind := .bind
  test _ := .stage _ _
  perform _ := .stage _ _
  arm _ := .carry fun _ _ _ _ given => (Context.Works.of_course (.perform given)).id
  visited _ _ _ := .carry fun _ _ _ _ given => (Context.Works.run given).id

private theorem tell (severity : Severity) (message : String) :
    (Staged.carry (Context.tell severity message) : Staged vocabulary Unit).IsOwn agent :=
  .carry fun _ _ _ _ given => congrArg (·.controller.id) (Context.eq_of_tell given)

private theorem choice (rules : List (Rule vocabulary)) :
    (repertoire.stagedChoice rules).IsOwn agent := by
  refine .bind (actor.walk rules) fun chosen => ?_
  cases chosen with
  | none => exact .bind (.tell _ _) fun _ => .pure _
  | some chosen => exact .bind (.tell _ _) fun _ => .bind (.stage _ _) fun _ => .pure _

theorem onTimer (fired : TimerHandle) : (repertoire.stagedOnTimer fired).IsOwn agent := by
  intro past context id
  unfold Repertoire.stagedOnTimer
  split
  · split
    · have walks : (Staged.mark .setOut >>= fun _ =>
          repertoire.stagedChoice context.controller.tree.rules).IsOwn agent :=
        .bind (.mark fun _ => rfl) fun _ => .choice _
      exact walks past context.detached id
    · exact .pure id
  · rename_i stale
    refine ⟨.of_all fun scene member _ => ?_, fun reached same => ?_⟩
    · obtain ⟨entry, _, rfl⟩ := List.mem_map.mp member
      exact nofun
    · obtain ⟨_, unchanged⟩ := Context.stale_of_onTimer stale (Journaled.gives_of_outcome same)
      rw [unchanged]
      exact id

theorem handleEvent (name : EventName) (payload : vocabulary.Payload) :
    (repertoire.stagedHandleEvent name payload).IsOwn agent := by
  intro past context id
  unfold Repertoire.stagedHandleEvent
  cases context.controller.surface.handler? name with
  | none => exact .pure id
  | some handler =>
      have answers : (repertoire.stage (.response name handler payload)
          (repertoire.handle handler payload) >>= fun _ => Pure.pure true).IsOwn agent :=
        .bind (.stage _ _) fun _ => .pure true
      exact answers past context id

end Staged.IsOwn

end PriorityAgents
