import PriorityAgents.Controller.Delivery
import PriorityAgents.Proofs.Rule.Tour

/-!
Code under watch: what an agent's own code asks for and which callbacks a walk comes by, written
down while it happens.

A watcher adds marks to the entries that are made anyway, and changes nothing else. What is watched
and what is not are therefore the same computation once the marks are passed over, and whatever is
found out under watch holds of the code that runs unwatched.
-/

set_option autoImplicit false

namespace PriorityAgents

namespace Journaled

variable {ε δ α β : Type} (select : ε → Option δ)

/-- A computation of whose journal only a part is read. -/
def reading (computation : Journaled ε α) : Journaled δ α :=
  ⟨computation.outcome, computation.journal.filterMap select⟩

theorem reading_bind (first : Journaled ε α) (next : α → Journaled ε β) :
    (first >>= next).reading select =
      first.reading select >>= fun answer => (next answer).reading select := by
  obtain ⟨outcome, journal⟩ := first
  cases outcome with
  | error fault => rfl
  | ok answer =>
      change (Journaled.bind _ next).reading select = Journaled.bind _ _
      simp only [Journaled.bind, reading, continued_eq, List.filterMap_append]

theorem Gives.reading {computation : Journaled ε α} {answer : α} {journal : List ε}
    (given : computation.Gives answer journal) :
    (computation.reading select).Gives answer (journal.filterMap select) := by
  rw [given]
  rfl

private theorem outcome_map (change : α → β) (computation : Journaled ε α) :
    (change <$> computation).outcome = computation.outcome.map change := by
  rw [map_eq_pure_bind, outcome_bind]
  cases computation.outcome <;> rfl

end Journaled

variable {vocabulary : Vocabulary} {α β : Type}

/-- What a watcher writes down. -/
inductive Mark (vocabulary : Vocabulary) where
  | entered (entry : Entry)
  /-- An agent's own code asks something of its controller; what comes of it is entered next. -/
  | asked (agent : AgentId) (request : Request vocabulary)
  | stepped (footstep : Footstep)
  /-- A host takes an agent out of service. -/
  | tornDown (agent : AgentId)
  /-- A host has handed an agent a timer that has fired. -/
  | reported (agent : AgentId) (fired : TimerHandle) (outcome : Reconsideration)

namespace Mark

def entry? : Mark vocabulary → Option Entry
  | .entered entry => some entry
  | _ => none

def footstep? : Mark vocabulary → Option Footstep
  | .stepped footstep => some footstep
  | _ => none

end Mark

/-- A piece of code at work on a controller and its timers, under watch. -/
abbrev Watched (vocabulary : Vocabulary) (α : Type) : Type :=
  StateT (Context vocabulary) (Journaled (Mark vocabulary)) α

namespace Watched

def note (mark : Mark vocabulary) : Watched vocabulary Unit := fun context =>
  ⟨.ok ((), context), [mark]⟩

def carry (step : Context vocabulary → Logged (α × Context vocabulary)) :
    Watched vocabulary α := fun context =>
  ⟨(step context).outcome, (step context).journal.map .entered⟩

def unwatched (watched : Watched vocabulary α) (context : Context vocabulary) :
    Logged (α × Context vocabulary) :=
  (watched context).reading Mark.entry?

theorem unwatched_bind (first : Watched vocabulary α) (next : α → Watched vocabulary β)
    (context : Context vocabulary) :
    (first >>= next).unwatched context =
      first.unwatched context >>= fun reached => (next reached.1).unwatched reached.2 :=
  Journaled.reading_bind Mark.entry? (first context) _

theorem unwatched_get (context : Context vocabulary) :
    (get : Watched vocabulary (Context vocabulary)).unwatched context = pure (context, context) :=
  rfl

private theorem unwatched_set (later context : Context vocabulary) :
    (set later : Watched vocabulary PUnit).unwatched context = pure ((), later) :=
  rfl

theorem unwatched_note {mark : Mark vocabulary} (silent : mark.entry? = none)
    (context : Context vocabulary) : (note mark).unwatched context = pure ((), context) :=
  Journaled.ext rfl (List.filterMap_cons_none silent)

private theorem unwatched_carry (step : Context vocabulary → Logged (α × Context vocabulary))
    (context : Context vocabulary) : (carry step).unwatched context = step context := by
  refine Journaled.ext rfl ?_
  change ((step context).journal.map Mark.entered).filterMap Mark.entry? = _
  rw [List.filterMap_map]
  exact List.filterMap_some

end Watched

/-! ### Rules that know their places -/

/-- The vocabulary of rules whose parts carry along where they stand. -/
@[reducible] def Vocabulary.placed (vocabulary : Vocabulary) : Vocabulary :=
  { vocabulary with
    Condition := Place × vocabulary.Condition
    Action := Callback × vocabulary.Action }

namespace Rule

mutual

def placed (seat : Place → Place) (index : Nat) : Rule vocabulary → Rule vocabulary.placed
  | ⟨precheck, condition, onMatch, behaviour, reconsiderAfter, whenTrue, whenFalse⟩ =>
      { precheck := precheck.map fun action => (⟨seat (.here index), .precheck⟩, action)
        condition := condition.map fun question => (seat (.here index), question)
        onMatch := onMatch.map fun action => (⟨seat (.here index), .onMatch⟩, action)
        behaviour := behaviour.map fun action => (⟨seat (.here index), .behaviour⟩, action)
        reconsiderAfter
        whenTrue := allPlaced (fun place => seat (.within index .whenTrue place)) 0 whenTrue
        whenFalse := allPlaced (fun place => seat (.within index .whenFalse place)) 0 whenFalse }

def allPlaced (seat : Place → Place) (index : Nat) :
    List (Rule vocabulary) → List (Rule vocabulary.placed)
  | [] => []
  | rule :: rules => placed seat index rule :: allPlaced seat (index + 1) rules

end

theorem placed_eq (seat : Place → Place) (index : Nat) (rule : Rule vocabulary) :
    rule.placed seat index =
      { precheck := rule.precheck.map fun action => (⟨seat (.here index), .precheck⟩, action)
        condition := rule.condition.map fun question => (seat (.here index), question)
        onMatch := rule.onMatch.map fun action => (⟨seat (.here index), .onMatch⟩, action)
        behaviour := rule.behaviour.map fun action => (⟨seat (.here index), .behaviour⟩, action)
        reconsiderAfter := rule.reconsiderAfter
        whenTrue := allPlaced (fun place => seat (.within index .whenTrue place)) 0 rule.whenTrue
        whenFalse :=
          allPlaced (fun place => seat (.within index .whenFalse place)) 0 rule.whenFalse } := by
  cases rule
  rw [placed]

end Rule

theorem Walker.visit_eq {computation : Type → Type} [Monad computation]
    (walker : Walker vocabulary computation) (depth index : Nat) (rule : Rule vocabulary) :
    walker.visit depth index rule = (do
      walker.prepare rule.precheck
      let holds ← walker.matched rule.condition
      walker.visited depth index holds
      if holds then do
        walker.prepare rule.onMatch
        match rule.behaviour with
        | some chosen => do
            walker.armIf (Rule.armedDelay rule.reconsiderAfter)
            pure (some chosen)
        | none => walker.walkFrom (depth + 1) 0 rule.whenTrue
      else walker.walkFrom (depth + 1) 0 rule.whenFalse) := by
  cases rule
  unfold visit
  rfl

/-! ### Pieces of code under watch -/

namespace Repertoire

variable (repertoire : Repertoire vocabulary)

def watch : Program vocabulary α → Watched vocabulary α
  | .pure answer => pure answer
  | .ask request next => do
      let context ← get
      Watched.note (.asked context.controller.id request)
      let answer ← Watched.carry fun context => context.perform repertoire request
      watch (next answer)

/-- A walker that tells which callbacks it calls, and what conditions answer. -/
def watcher : Walker vocabulary.placed (Watched vocabulary) where
  test := fun question => do
    Watched.note (.stepped (.called ⟨question.1, .condition⟩))
    let answer ← repertoire.watch (repertoire.condition question.2)
    Watched.note (.stepped (.answered question.1 answer))
    pure answer
  perform := fun deed => do
    Watched.note (.stepped (.called deed.1))
    repertoire.watch (repertoire.action deed.2)
  arm := fun delay => repertoire.watch (Program.request (.schedule delay))
  visited := fun depth index isMatch => repertoire.watch (noteVisit depth index isMatch)

def watchedWalk (rules : List (Rule vocabulary)) :
    Watched vocabulary (Option (Callback × vocabulary.Action)) :=
  repertoire.watcher.walk (Rule.allPlaced id 0 rules)

def watchedChoice (rules : List (Rule vocabulary)) : Watched vocabulary Reconsideration := do
  match ← repertoire.watchedWalk rules with
  | some chosen =>
      Watched.carry fun context => do
        context.report .debug "behaviour selected" [("ai", context.controller.name)]
        pure ((), context)
      repertoire.watcher.perform chosen
      pure .selected
  | none =>
      Watched.carry fun context => do
        context.report .warn
          "all priorities failed; priority trees should end with an unconditional entry"
          [("ai", context.controller.name)]
        pure ((), context)
      pure .noMatch

def watchedReconsider : Watched vocabulary Reconsideration := do
  let context ← get
  repertoire.watchedChoice context.controller.tree.rules

def watchedOnTimer (fired : TimerHandle) : Watched vocabulary Reconsideration := do
  let context ← get
  match context.controller.scheduler.detach? fired with
  | none =>
      Watched.carry fun context => do
        context.report .debug "ignoring stale reconsideration timer" [("fired", fired.text)]
        pure ((), context)
      pure .stale
  | some scheduler =>
      set { context with controller := { context.controller with scheduler } }
      if repertoire.isPresent context.controller.agent then repertoire.watchedReconsider
      else pure .agentGone

def watchedHandleEvent (name : EventName) (payload : vocabulary.Payload) :
    Watched vocabulary Bool := do
  let context ← get
  match context.controller.surface.handler? name with
  | none => pure false
  | some handler =>
      repertoire.watch (repertoire.handle handler payload)
      pure true

end Repertoire

def Watched.teardown : Watched vocabulary Unit := do
  let context ← get
  Watched.note (.tornDown context.controller.id)
  Watched.carry fun context => do
    let later ← context.teardown
    pure ((), later)

/-! ### What is left without a watcher -/

namespace Watched

variable {γ δ : Type} {repertoire : Repertoire vocabulary}

/-- A piece of code under watch does what a program does, and answers no less. -/
def Follows (repertoire : Repertoire vocabulary) (forget : α → γ) (watched : Watched vocabulary α)
    (program : Program vocabulary γ) : Prop :=
  ∀ context, (fun reached => (forget reached.1, reached.2)) <$> watched.unwatched context =
    context.run repertoire program

namespace Follows

variable {forget : α → γ} {keep : β → δ} {program : Program vocabulary γ}

theorem pure (answer : α) :
    (Pure.pure answer : Watched vocabulary α).Follows repertoire forget
      (Pure.pure (forget answer)) :=
  fun _ => rfl

theorem bind {first : Watched vocabulary α} {next : α → Watched vocabulary β}
    {rest : γ → Program vocabulary δ} (follows : first.Follows repertoire forget program)
    (further : ∀ answer, (next answer).Follows repertoire keep (rest (forget answer))) :
    (first >>= next).Follows repertoire keep (program >>= rest) := by
  intro context
  rw [unwatched_bind, Context.run_bind, ← follows context, map_bind, bind_map_left]
  exact congrArg _ (funext fun reached => further reached.1 reached.2)

theorem outcome {watched : Watched vocabulary α}
    (follows : watched.Follows repertoire forget program) (context : Context vocabulary) :
    (context.run repertoire program).outcome =
      (watched context).outcome.map fun reached => (forget reached.1, reached.2) := by
  rw [← follows context, Journaled.outcome_map]
  rfl

theorem note_bind {mark : Mark vocabulary} {rest : Watched vocabulary α}
    (silent : mark.entry? = none) (follows : rest.Follows repertoire forget program) :
    (note mark >>= fun _ => rest).Follows repertoire forget program := by
  intro context
  rw [unwatched_bind, unwatched_note silent, pure_bind]
  exact follows context

end Follows

end Watched

namespace Repertoire

open Watched

variable (repertoire : Repertoire vocabulary)

theorem unwatched_watch (program : Program vocabulary α) (context : Context vocabulary) :
    (repertoire.watch program).unwatched context = context.run repertoire program := by
  induction program generalizing context with
  | pure answer => rfl
  | ask request next ih =>
      rw [watch, unwatched_bind]
      rw [unwatched_get, pure_bind, unwatched_bind, unwatched_note rfl, pure_bind, unwatched_bind,
        unwatched_carry]
      exact congrArg _ (funext fun reached => ih reached.1 reached.2)

private theorem follows_watch (program : Program vocabulary α) :
    (repertoire.watch program).Follows repertoire id program := by
  intro context
  rw [unwatched_watch]
  exact id_map _

private theorem unwatched_perform (deed : Callback × vocabulary.Action)
    (context : Context vocabulary) :
    (repertoire.watcher.perform deed).unwatched context =
      context.run repertoire (repertoire.action deed.2) := by
  change (note _ >>= fun _ => repertoire.watch (repertoire.action deed.2)).unwatched context = _
  rw [unwatched_bind, unwatched_note rfl, pure_bind, unwatched_watch]

private theorem follows_prepare (part : Option vocabulary.Action) (callback : Callback) :
    (repertoire.watcher.prepare (part.map fun action => (callback, action))).Follows repertoire id
      (repertoire.walker.prepare part) := by
  cases part with
  | none => exact .pure ()
  | some action => exact .note_bind rfl (repertoire.follows_watch _)

private theorem follows_matched (condition : Option vocabulary.Condition) (place : Place) :
    (repertoire.watcher.matched (condition.map fun question => (place, question))).Follows
      repertoire id (repertoire.walker.matched condition) := by
  cases condition with
  | none => exact .pure true
  | some question =>
      have heard (answer : Bool) :
          (note (.stepped (.answered place answer)) >>= fun _ => pure answer).Follows repertoire id
            (pure answer) := .note_bind rfl (.pure answer)
      have answered := (repertoire.follows_watch (repertoire.condition question)).bind heard
      rw [bind_pure] at answered
      exact .note_bind rfl answered

private theorem follows_armIf (delay : Option Span) :
    (repertoire.watcher.armIf delay).Follows repertoire id (repertoire.walker.armIf delay) := by
  cases delay with
  | none => exact .pure ()
  | some delay => exact repertoire.follows_watch _

mutual

private theorem follows_visit (depth index : Nat) :
    (rule : Rule vocabulary) → (seat : Place → Place) →
    (repertoire.watcher.visit depth index (rule.placed seat index)).Follows repertoire
      (Option.map Prod.snd) (repertoire.walker.visit depth index rule)
  | ⟨precheck, condition, onMatch, behaviour, reconsiderAfter, whenTrue, whenFalse⟩, seat => by
      unfold Rule.placed Walker.visit
      refine .bind (repertoire.follows_prepare precheck _) fun _ =>
        .bind (repertoire.follows_matched condition _) fun isMatch =>
          .bind (repertoire.follows_watch (noteVisit depth index isMatch)) fun _ => ?_
      cases isMatch with
      | false => exact follows_walkFrom (depth + 1) 0 whenFalse _
      | true =>
          refine .bind (repertoire.follows_prepare onMatch _) fun _ => ?_
          cases behaviour with
          | none => exact follows_walkFrom (depth + 1) 0 whenTrue _
          | some chosen => exact .bind (repertoire.follows_armIf _) fun _ => .pure _

private theorem follows_walkFrom (depth index : Nat) : (rules : List (Rule vocabulary)) →
    (seat : Place → Place) →
    (repertoire.watcher.walkFrom depth index (Rule.allPlaced seat index rules)).Follows repertoire
      (Option.map Prod.snd) (repertoire.walker.walkFrom depth index rules)
  | [], seat => by
      rw [Rule.allPlaced, Walker.walkFrom, Walker.walkFrom]
      exact .pure none
  | rule :: rules, seat => by
      rw [Rule.allPlaced, Walker.walkFrom, Walker.walkFrom]
      refine .bind (follows_visit depth index rule seat) fun chosen => ?_
      cases chosen with
      | none => exact follows_walkFrom depth (index + 1) rules seat
      | some chosen => exact .pure (some chosen)

end

/-- A watched walk is the walk, and tells in addition where the rule stands that is chosen. -/
theorem follows_watchedWalk (rules : List (Rule vocabulary)) :
    (repertoire.watchedWalk rules).Follows repertoire (Option.map Prod.snd)
      (repertoire.evaluate rules) :=
  repertoire.follows_walkFrom 0 0 rules id

theorem unwatched_reconsider (context : Context vocabulary) :
    repertoire.watchedReconsider.unwatched context = context.reconsider repertoire := by
  rw [watchedReconsider, Context.reconsider, unwatched_bind, unwatched_get, pure_bind,
    watchedChoice, unwatched_bind, ← repertoire.follows_watchedWalk, bind_map_left]
  refine congrArg _ (funext fun reached => ?_)
  obtain ⟨chosen, later⟩ := reached
  cases chosen with
  | none =>
      change (carry _ >>= fun _ => pure Reconsideration.noMatch).unwatched later = _
      rw [unwatched_bind, unwatched_carry, bind_assoc]
      rfl
  | some chosen =>
      change (carry _ >>= fun _ => repertoire.watcher.perform chosen >>= fun _ =>
        pure Reconsideration.selected).unwatched later = _
      rw [unwatched_bind, unwatched_carry, bind_assoc]
      refine congrArg _ (funext fun _ => ?_)
      rw [pure_bind, unwatched_bind, unwatched_perform]
      rfl

theorem unwatched_onTimer (fired : TimerHandle) (context : Context vocabulary) :
    (repertoire.watchedOnTimer fired).unwatched context = context.onTimer repertoire fired := by
  rw [watchedOnTimer, Context.onTimer, unwatched_bind, unwatched_get, pure_bind]
  cases context.controller.scheduler.detach? fired with
  | none =>
      change (carry _ >>= fun _ => pure Reconsideration.stale).unwatched context = _
      rw [unwatched_bind, unwatched_carry, bind_assoc]
      rfl
  | some scheduler =>
      dsimp only
      rw [unwatched_bind, unwatched_set, pure_bind]
      by_cases present : repertoire.isPresent context.controller.agent
      · rw [if_pos present, unwatched_reconsider]
        exact (if_pos present).symm
      · rw [if_neg present]
        exact (if_neg present).symm

theorem unwatched_handleEvent (name : EventName) (payload : vocabulary.Payload)
    (context : Context vocabulary) :
    (repertoire.watchedHandleEvent name payload).unwatched context =
      context.handleEvent repertoire name payload := by
  rw [watchedHandleEvent, Context.handleEvent, unwatched_bind, unwatched_get, pure_bind]
  cases context.controller.surface.handler? name with
  | none => rfl
  | some handler =>
      change (repertoire.watch _ >>= fun _ => pure true).unwatched context = _
      rw [unwatched_bind, unwatched_watch]
      rfl

end Repertoire

theorem Watched.unwatched_teardown (context : Context vocabulary) :
    (Watched.teardown : Watched vocabulary Unit).unwatched context =
      context.teardown >>= fun later => pure ((), later) := by
  rw [Watched.teardown, unwatched_bind, unwatched_get, pure_bind, unwatched_bind,
    unwatched_note rfl, pure_bind, unwatched_carry]

end PriorityAgents
