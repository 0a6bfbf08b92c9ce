import PriorityAgents.Proofs.Controller.Keeping
import PriorityAgents.Proofs.Controller.Watch
import PriorityAgents.Proofs.Rule.Parts

/-!
Code under attestation: whenever an agent's own code asks something of its controller, it is
written down on what occasion, and what the controller and its timers looked like at that moment.

A watcher's marks say what was asked and by whom. That is not enough where it matters what was
pending then, or in which tick the code ran, and in a walk what the tree asks for by itself has to
be told from what its callbacks ask for. As with a watcher, nothing but the account is added.
-/

set_option autoImplicit false

namespace PriorityAgents

variable {vocabulary : Vocabulary} {α β : Type}

/-- What an agent's code has been called for. -/
inductive Occasion where
  /-- A host lets it work: at its spawning, or on the host's own account. -/
  | call
  | event
  /-- A walk through its tree, and the behaviour that is chosen. -/
  | walk
deriving DecidableEq, Repr

/-- What is written down. -/
inductive Incident (vocabulary : Vocabulary) where
  | entered (entry : Entry)
  /-- An agent's own code asks something of its controller. -/
  | asked (occasion : Occasion) (context : Context vocabulary) (request : Request vocabulary)
  /-- The rule that is chosen has a delay, and the walk arms it. -/
  | ruled (context : Context vocabulary) (delay : Span)
  /-- A host hands an agent a timer that has fired. -/
  | handed (context : Context vocabulary) (timer : Timer)
  /-- A host takes an agent out of service. -/
  | tornDown (context : Context vocabulary)

def Incident.entry? : Incident vocabulary → Option Entry
  | .entered entry => some entry
  | _ => none

/-- What was entered in the course of an account. -/
def plain (history : List (Incident vocabulary)) : List Entry :=
  history.filterMap Incident.entry?

@[simp] theorem plain_append (first second : List (Incident vocabulary)) :
    plain (first ++ second) = plain first ++ plain second := List.filterMap_append

@[simp] theorem plain_entered (entries : List Entry) :
    plain (entries.map (Incident.entered : Entry → Incident vocabulary)) = entries := by
  unfold plain
  rw [List.filterMap_map]
  exact List.filterMap_some

/-- A piece of code at work on a controller and its timers, under attestation. -/
abbrev Attested (vocabulary : Vocabulary) (α : Type) : Type :=
  StateT (Context vocabulary) (Journaled (Incident vocabulary)) α

namespace Attested

def note (incident : Incident vocabulary) : Attested vocabulary Unit := fun context =>
  ⟨.ok ((), context), [incident]⟩

def carry (step : Context vocabulary → Logged (α × Context vocabulary)) :
    Attested vocabulary α := fun context =>
  ⟨(step context).outcome, (step context).journal.map .entered⟩

def unattested (attested : Attested vocabulary α) (context : Context vocabulary) :
    Logged (α × Context vocabulary) :=
  (attested context).reading Incident.entry?

theorem unattested_bind (first : Attested vocabulary α) (next : α → Attested vocabulary β)
    (context : Context vocabulary) :
    (first >>= next).unattested context =
      first.unattested context >>= fun reached => (next reached.1).unattested reached.2 :=
  Journaled.reading_bind Incident.entry? (first context) _

private theorem unattested_get (context : Context vocabulary) :
    (get : Attested vocabulary (Context vocabulary)).unattested context =
      pure (context, context) :=
  rfl

private theorem unattested_set (later context : Context vocabulary) :
    (set later : Attested vocabulary PUnit).unattested context = pure ((), later) :=
  rfl

private theorem unattested_note {incident : Incident vocabulary} (silent : incident.entry? = none)
    (context : Context vocabulary) : (note incident).unattested context = pure ((), context) :=
  Journaled.ext rfl (List.filterMap_cons_none silent)

private theorem unattested_carry (step : Context vocabulary → Logged (α × Context vocabulary))
    (context : Context vocabulary) : (carry step).unattested context = step context :=
  Journaled.ext rfl (plain_entered (step context).journal)

theorem get_bind_apply (next : Context vocabulary → Attested vocabulary α)
    (context : Context vocabulary) : (get >>= next) context = next context context :=
  pure_bind (context, context) fun read : Context vocabulary × Context vocabulary =>
    next read.1 read.2

private theorem set_bind_apply (later : Context vocabulary) (next : Unit → Attested vocabulary α)
    (context : Context vocabulary) : (set later >>= next) context = next () later :=
  pure_bind ((), later) fun written : Unit × Context vocabulary => next written.1 written.2

theorem gives_carry {step : Context vocabulary → Logged (α × Context vocabulary)}
    {context : Context vocabulary} {reached : α × Context vocabulary}
    {history : List (Incident vocabulary)} :
    (carry step context).Gives reached history ↔
      ∃ journal, (step context).Gives reached journal ∧ history = journal.map .entered := by
  constructor
  · intro given
    exact ⟨(step context).journal,
      Journaled.gives_of_outcome (congrArg Journaled.outcome given),
      (congrArg Journaled.journal given).symm⟩
  · rintro ⟨journal, given, rfl⟩
    exact Journaled.ext given.outcome (congrArg (List.map Incident.entered) given.journal_eq)

theorem gives_note_bind {incident : Incident vocabulary} {next : Unit → Attested vocabulary α}
    {context : Context vocabulary} {reached : α × Context vocabulary}
    {history : List (Incident vocabulary)} :
    ((note incident >>= next) context).Gives reached history ↔
      ∃ more, (next () context).Gives reached more ∧ history = incident :: more := by
  change (note incident context >>= fun reached => next reached.1 reached.2).Gives reached
    history ↔ _
  rw [Journaled.gives_bind]
  constructor
  · rintro ⟨_, _, more, written, rest, rfl⟩
    cases written
    exact ⟨more, rest, rfl⟩
  · rintro ⟨more, rest, rfl⟩
    exact ⟨((), context), [incident], more, rfl, rest, rfl⟩

end Attested

/-! ### Pieces of code under attestation -/

namespace Repertoire

variable (repertoire : Repertoire vocabulary)

def attest (occasion : Occasion) : Program vocabulary α → Attested vocabulary α
  | .pure answer => pure answer
  | .ask request next => do
      let context ← get
      Attested.note (.asked occasion context request)
      let answer ← Attested.carry fun context => context.perform repertoire request
      attest occasion (next answer)

/-- A walker that tells what the callbacks of a walk ask for, and what the walk arms. -/
def attester : Walker vocabulary (Attested vocabulary) where
  test := fun condition => repertoire.attest .walk (repertoire.condition condition)
  perform := fun action => repertoire.attest .walk (repertoire.action action)
  arm := fun delay => do
    let context ← get
    Attested.note (.ruled context delay)
    Attested.carry fun context => context.perform repertoire (.schedule delay)
  visited := fun depth index isMatch =>
    Attested.carry fun context => context.run repertoire (noteVisit depth index isMatch)

def attestedChoice (rules : List (Rule vocabulary)) : Attested vocabulary Reconsideration := do
  match ← repertoire.attester.walk rules with
  | some chosen =>
      Attested.carry fun context => do
        context.report .debug "behaviour selected" [("ai", context.controller.name)]
        pure ((), context)
      repertoire.attester.perform chosen
      pure .selected
  | none =>
      Attested.carry fun context => do
        context.report .warn
          "all priorities failed; priority trees should end with an unconditional entry"
          [("ai", context.controller.name)]
        pure ((), context)
      pure .noMatch

def attestedReconsider : Attested vocabulary Reconsideration := do
  let context ← get
  repertoire.attestedChoice context.controller.tree.rules

def attestedOnTimer (fired : TimerHandle) : Attested vocabulary Reconsideration := do
  let context ← get
  match context.controller.scheduler.detach? fired with
  | none =>
      Attested.carry fun context => do
        context.report .debug "ignoring stale reconsideration timer" [("fired", fired.text)]
        pure ((), context)
      pure .stale
  | some scheduler =>
      set { context with controller := { context.controller with scheduler } }
      if repertoire.isPresent context.controller.agent then repertoire.attestedReconsider
      else pure .agentGone

def attestedHandleEvent (name : EventName) (payload : vocabulary.Payload) :
    Attested vocabulary Bool := do
  let context ← get
  match context.controller.surface.handler? name with
  | none => pure false
  | some handler =>
      repertoire.attest .event (repertoire.handle handler payload)
      pure true

theorem attest_ask (occasion : Occasion) (request : Request vocabulary)
    (next : request.Answer → Program vocabulary α) (context : Context vocabulary) :
    repertoire.attest occasion (.ask request next) context =
      (Attested.note (.asked occasion context request) >>= fun _ =>
        (Attested.carry fun context => context.perform repertoire request) >>= fun answer =>
          repertoire.attest occasion (next answer)) context := by
  rw [attest, Attested.get_bind_apply]

theorem attestedOnTimer_of_pending {context : Context vocabulary} {fired : TimerHandle}
    (pending : context.controller.pending = some fired) :
    repertoire.attestedOnTimer fired context =
      if repertoire.isPresent context.controller.agent then
        repertoire.attestedChoice context.controller.tree.rules context.detached
      else pure (.agentGone, context.detached) := by
  have detached : context.controller.scheduler.detach? fired = some .idle := if_pos pending
  rw [attestedOnTimer, Attested.get_bind_apply]
  dsimp only
  rw [detached]
  dsimp only
  rw [Attested.set_bind_apply]
  by_cases present : repertoire.isPresent context.controller.agent
  · rw [if_pos present, if_pos present, attestedReconsider, Attested.get_bind_apply]
    rfl
  · rw [if_neg present, if_neg present]
    rfl

theorem attestedOnTimer_of_stale {context : Context vocabulary} {fired : TimerHandle}
    (stale : context.controller.pending ≠ some fired) :
    repertoire.attestedOnTimer fired context =
      (Attested.carry (fun context => do
        context.report .debug "ignoring stale reconsideration timer" [("fired", fired.text)]
        pure ((), context)) >>= fun _ => pure Reconsideration.stale) context := by
  have kept : context.controller.scheduler.detach? fired = none := if_neg stale
  rw [attestedOnTimer, Attested.get_bind_apply]
  dsimp only
  rw [kept]

end Repertoire

def Attested.teardown : Attested vocabulary Unit := do
  let context ← get
  Attested.note (.tornDown context)
  Attested.carry fun context => do
    let later ← context.teardown
    pure ((), later)

theorem Attested.gives_teardown {context later : Context vocabulary} {answer : Unit}
    {history : List (Incident vocabulary)} :
    (Attested.teardown context).Gives (answer, later) history ↔
      ∃ journal, context.teardown.Gives later journal ∧
        history = .tornDown context :: journal.map .entered := by
  rw [Attested.teardown, Attested.get_bind_apply, Attested.gives_note_bind]
  simp only [Attested.gives_carry, Journaled.gives_bind, Journaled.gives_pure, Prod.mk.injEq,
    true_and]
  constructor
  · rintro ⟨_, ⟨_, ⟨left, journal, _, torn, ⟨rfl, rfl⟩, rfl⟩, rfl⟩, rfl⟩
    exact ⟨journal, torn, by rw [List.append_nil]⟩
  · rintro ⟨journal, torn, rfl⟩
    exact ⟨_, ⟨_, ⟨later, journal, [], torn, ⟨rfl, rfl⟩, rfl⟩, rfl⟩, by rw [List.append_nil]⟩

/-! ### What is left without the account -/

namespace Attested

private abbrev Plain (vocabulary : Vocabulary) : Type → Type := StateT (Context vocabulary) Logged

private def forgotten : Reading (Attested vocabulary) (Plain vocabulary) where
  read := fun attested context => attested.unattested context
  read_pure := fun _ => rfl
  read_bind := fun early next => funext (unattested_bind early next)

end Attested

namespace Repertoire

open Attested

variable (repertoire : Repertoire vocabulary)

private def ran : Reading (Program vocabulary) (Plain vocabulary) where
  read := fun program context => context.run repertoire program
  read_pure := fun _ => rfl
  read_bind := fun early next => funext fun context => context.run_bind repertoire early next

theorem unattested_attest (occasion : Occasion) (program : Program vocabulary α)
    (context : Context vocabulary) :
    (repertoire.attest occasion program).unattested context = context.run repertoire program := by
  induction program generalizing context with
  | pure answer => rfl
  | ask request next ih =>
      rw [attest, unattested_bind, unattested_get, pure_bind, unattested_bind,
        unattested_note rfl, pure_bind, unattested_bind, unattested_carry]
      exact congrArg _ (funext fun reached => ih reached.1 reached.2)

private theorem unattested_arm (delay : Span) (context : Context vocabulary) :
    (repertoire.attester.arm delay).unattested context =
      context.run repertoire (repertoire.walker.arm delay) := by
  change (get >>= fun context => note (.ruled context delay) >>= fun _ =>
    carry fun context => context.perform repertoire (.schedule delay)).unattested context = _
  rw [unattested_bind, unattested_get, pure_bind, unattested_bind, unattested_note rfl, pure_bind,
    unattested_carry]
  exact (bind_pure _).symm

private theorem through_forgotten :
    forgotten.through repertoire.attester = repertoire.ran.through repertoire.walker := by
  unfold Reading.through
  congr 1
  · funext condition context
    exact repertoire.unattested_attest .walk _ context
  · funext action context
    exact repertoire.unattested_attest .walk _ context
  · funext delay context
    exact repertoire.unattested_arm delay context

private theorem unattested_walk (rules : List (Rule vocabulary)) (context : Context vocabulary) :
    (repertoire.attester.walk rules).unattested context =
      context.run repertoire (repertoire.evaluate rules) := by
  have attested := forgotten.read_walk repertoire.attester rules
  rw [repertoire.through_forgotten, ← repertoire.ran.read_walk] at attested
  exact congrFun attested context

private theorem unattested_reconsider (context : Context vocabulary) :
    repertoire.attestedReconsider.unattested context = context.reconsider repertoire := by
  rw [attestedReconsider, Context.reconsider, unattested_bind, unattested_get, pure_bind,
    attestedChoice, unattested_bind, repertoire.unattested_walk]
  refine congrArg _ (funext fun reached => ?_)
  obtain ⟨chosen, later⟩ := reached
  cases chosen with
  | none =>
      change (carry _ >>= fun _ => pure Reconsideration.noMatch).unattested later = _
      rw [unattested_bind, unattested_carry, bind_assoc]
      rfl
  | some chosen =>
      change (carry _ >>= fun _ => repertoire.attester.perform chosen >>= fun _ =>
        pure Reconsideration.selected).unattested later = _
      rw [unattested_bind, unattested_carry, bind_assoc]
      refine congrArg _ (funext fun _ => ?_)
      rw [pure_bind, unattested_bind]
      exact congrArg (· >>= _) (repertoire.unattested_attest .walk _ later)

theorem unattested_onTimer (fired : TimerHandle) (context : Context vocabulary) :
    (repertoire.attestedOnTimer fired).unattested context =
      context.onTimer repertoire fired := by
  rw [attestedOnTimer, Context.onTimer, unattested_bind, unattested_get, pure_bind]
  cases context.controller.scheduler.detach? fired with
  | none =>
      change (carry _ >>= fun _ => pure Reconsideration.stale).unattested context = _
      rw [unattested_bind, unattested_carry, bind_assoc]
      rfl
  | some scheduler =>
      dsimp only
      rw [unattested_bind, unattested_set, pure_bind]
      by_cases present : repertoire.isPresent context.controller.agent
      · rw [if_pos present, unattested_reconsider]
        exact (if_pos present).symm
      · rw [if_neg present]
        exact (if_neg present).symm

theorem unattested_handleEvent (name : EventName) (payload : vocabulary.Payload)
    (context : Context vocabulary) :
    (repertoire.attestedHandleEvent name payload).unattested context =
      context.handleEvent repertoire name payload := by
  rw [attestedHandleEvent, Context.handleEvent, unattested_bind, unattested_get, pure_bind]
  cases context.controller.surface.handler? name with
  | none => rfl
  | some handler =>
      change (repertoire.attest .event _ >>= fun _ => pure true).unattested context = _
      rw [unattested_bind, unattested_attest]
      rfl

end Repertoire

theorem Attested.unattested_teardown (context : Context vocabulary) :
    (Attested.teardown : Attested vocabulary Unit).unattested context =
      context.teardown >>= fun later => pure ((), later) := by
  rw [Attested.teardown, unattested_bind, unattested_get, pure_bind, unattested_bind,
    unattested_note rfl, pure_bind, unattested_carry]

end PriorityAgents
