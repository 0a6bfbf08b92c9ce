import PriorityAgents.Proofs.Controller.Choice
import PriorityAgents.Proofs.Controller.Trail

/-!
The turns of an agent: what a host can let it do at a time, and what comes of it.

Whatever turn it is, the agent takes a course that its marks tell of. A timer that is handed to it
is a case apart: it is taken out of the slot first, or else nothing happens at all.
-/

set_option autoImplicit false

namespace PriorityAgents

variable {vocabulary : Vocabulary} {α : Type}

/-- What a host lets an agent do at a time. -/
inductive Turn (vocabulary : Vocabulary) where
  | work (program : Program vocabulary Unit)
  | event (name : EventName) (payload : vocabulary.Payload)
  | teardown
  | fire (handle : TimerHandle)

namespace Turn

def take (repertoire : Repertoire vocabulary) :
    Turn vocabulary → Context vocabulary → Logged (Unit × Context vocabulary)
  | .work program, context => context.run repertoire program
  | .event name payload, context => do
      let (_, later) ← context.handleEvent repertoire name payload
      pure ((), later)
  | .teardown, context => do
      let later ← context.teardown
      pure ((), later)
  | .fire handle, context => do
      let (_, later) ← context.onTimer repertoire handle
      pure ((), later)

def watched (repertoire : Repertoire vocabulary) : Turn vocabulary → Watched vocabulary Unit
  | .work program => repertoire.watch program
  | .event name payload => do
      let _ ← repertoire.watchedHandleEvent name payload
  | .teardown => Watched.teardown
  | .fire handle => do
      let context ← get
      let outcome ← repertoire.watchedOnTimer handle
      Watched.note (.reported context.controller.id handle outcome)

theorem unwatched_watched (repertoire : Repertoire vocabulary) (turn : Turn vocabulary)
    (context : Context vocabulary) :
    (turn.watched repertoire).unwatched context = turn.take repertoire context := by
  cases turn with
  | work program => exact repertoire.unwatched_watch program context
  | event name payload =>
      rw [watched, Watched.unwatched_bind, repertoire.unwatched_handleEvent]
      rfl
  | teardown => exact Watched.unwatched_teardown context
  | fire handle =>
      rw [watched, Watched.unwatched_bind, Watched.unwatched_get, pure_bind,
        Watched.unwatched_bind, repertoire.unwatched_onTimer]
      refine congrArg _ (funext fun reached => ?_)
      exact Watched.unwatched_note rfl reached.2

end Turn

namespace Context

/-- A course of which the marks tell. -/
structure Journey (context later : Context vocabulary) (marks : List (Mark vocabulary)) :
    Prop where
  course : Course context later (marks.filterMap Mark.entry?)
  trail : context.Trail later marks

variable {repertoire : Repertoire vocabulary} {context later : Context vocabulary}
  {marks : List (Mark vocabulary)}

theorem gives_unwatched {watched : Watched vocabulary α} {answer : α}
    (given : (watched context).Gives (answer, later) marks) :
    (watched.unwatched context).Gives (answer, later) (marks.filterMap Mark.entry?) :=
  given.reading Mark.entry?

namespace Journey

private theorem work {program : Program vocabulary α} {answer : α}
    (given : (repertoire.watch program context).Gives (answer, later) marks) :
    context.Journey later marks where
  course := .run (repertoire.unwatched_watch program context ▸ gives_unwatched given)
  trail := Watched.Traced.watch repertoire program context answer later marks given

private theorem event {name : EventName} {payload : vocabulary.Payload} {handled : Bool}
    (given : (repertoire.watchedHandleEvent name payload context).Gives (handled, later) marks) :
    context.Journey later marks where
  course := .handleEvent
    (repertoire.unwatched_handleEvent name payload context ▸ gives_unwatched given)
  trail := Watched.Traced.handleEvent repertoire name payload context handled later marks given

private theorem teardown (given : (Watched.teardown context).Gives ((), later) marks) :
    context.Journey later marks where
  course := by
    have plain := gives_unwatched given
    rw [Watched.unwatched_teardown] at plain
    obtain ⟨reached, early, _, tornDown, rest, same⟩ := Journaled.gives_bind.mp plain
    obtain ⟨equal, rfl⟩ := Journaled.gives_pure.mp rest
    cases equal
    rw [same, List.append_nil]
    exact .teardown tornDown
  trail := Watched.Traced.teardown context () later marks given

theorem turn {turn : Turn vocabulary} (other : ∀ handle, turn ≠ .fire handle)
    (given : (turn.watched repertoire context).Gives ((), later) marks) :
    context.Journey later marks := by
  cases turn with
  | work program => exact work given
  | event name payload =>
      obtain ⟨⟨handled, reached⟩, early, _, delivered, rest, rfl⟩ := Journaled.gives_bind.mp given
      obtain ⟨same, rfl⟩ := Journaled.gives_pure.mp rest
      cases same
      rw [List.append_nil]
      exact event delivered
  | teardown => exact teardown given
  | fire handle => exact absurd rfl (other handle)

private theorem reconsider {outcome : Reconsideration}
    (given : (repertoire.watchedReconsider context).Gives (outcome, later) marks) :
    context.Journey later marks ∧ outcome ≠ .stale := by
  have plain := repertoire.unwatched_reconsider context ▸ gives_unwatched given
  exact ⟨⟨.reconsider plain,
    Watched.Traced.reconsider repertoire context outcome later marks given⟩,
    ne_stale_of_reconsider plain⟩

end Journey

end Context

namespace Repertoire

open Watched

variable (repertoire : Repertoire vocabulary) {context later : Context vocabulary}
  {fired : TimerHandle} {outcome : Reconsideration} {marks : List (Mark vocabulary)}

theorem watchedOnTimer_of_pending (pending : context.controller.pending = some fired) :
    repertoire.watchedOnTimer fired context =
      if repertoire.isPresent context.controller.agent then
        repertoire.watchedReconsider context.detached
      else pure (.agentGone, context.detached) := by
  have detach : context.controller.scheduler.detach? fired = some .idle := if_pos pending
  rw [watchedOnTimer, get_bind_apply, detach]
  dsimp only
  rw [set_bind_apply]
  split
  · rfl
  · rfl

theorem watchedOnTimer_of_stale (stale : context.controller.pending ≠ some fired) :
    (repertoire.watchedOnTimer fired context).Gives (.stale, context)
      [.entered (.told
        { severity := .debug
          message := "ignoring stale reconsideration timer"
          fields := [("agent", context.controller.id.text), ("fired", fired.text)] })] := by
  have detach : context.controller.scheduler.detach? fired = none := if_neg stale
  rw [watchedOnTimer, get_bind_apply, detach]
  rfl

/-- How an agent answers a timer that is handed to it. It finds stale what is not in its slot, and
then nothing has changed; for the rest it answers for the tree that it uses. -/
theorem onTimer_cases (fired : TimerHandle) (context : Context vocabulary) :
    let current := context.controller.pending = some fired
    let present := repertoire.isPresent context.controller.agent = true
    let rules := context.controller.tree.rules
    let marks := (repertoire.watchedOnTimer fired context).journal
    match (context.onTimer repertoire fired).outcome with
    | .ok (.stale, later) => ¬current ∧ later = context
    | .ok (.agentGone, _) => current ∧ ¬present
    | .ok (.noMatch, _) =>
        current ∧ present ∧ ∀ rule ∈ rules, rule.isUnconditionalLeaf = false
    | .ok (.selected, _) => current ∧ present ∧ RunsOne rules (footsteps marks)
    | .error fault => current ∧ present ∧ BrokenOff repertoire rules fault marks := by
  intro current present rules marks
  have same : (context.onTimer repertoire fired).outcome =
      (repertoire.watchedOnTimer fired context).outcome :=
    congrArg Journaled.outcome (repertoire.unwatched_onTimer fired context).symm
  rw [same]
  by_cases pending : current
  · have fires := repertoire.watchedOnTimer_of_pending pending
    by_cases here : present
    · rw [if_pos here] at fires
      have opened : repertoire.watchedOnTimer fired context =
          repertoire.watchedChoice rules context.detached := fires.trans (get_bind_apply _ _)
      have leaves := repertoire.choice_leaves rules
      cases outcome : (repertoire.watchedOnTimer fired context).outcome with
      | error fault =>
          exact ⟨pending, here, leaves.abandoned context.detached fault marks
            (opened.symm.trans (Journaled.ext outcome rfl))⟩
      | ok reached =>
          obtain ⟨answer, after⟩ := reached
          rcases leaves.done context.detached answer after marks
            (opened.symm.trans (Journaled.gives_of_outcome outcome)) with
            ⟨rfl, once⟩ | ⟨rfl, never⟩
          · exact ⟨pending, here, once⟩
          · exact ⟨pending, here, never⟩
    · rw [if_neg here] at fires
      rw [fires]
      exact ⟨pending, here⟩
  · rw [(repertoire.watchedOnTimer_of_stale pending).outcome]
    exact ⟨pending, rfl⟩

/-- What comes of handing a timer to an agent: nothing if it is not the one in the slot, and else a
journey that begins with an empty slot. -/
theorem gives_fire
    (given : ((Turn.fire fired).watched repertoire context).Gives ((), later) marks) :
    (context.controller.pending ≠ some fired ∧ later = context ∧ ∃ record,
      marks = [.entered (.told record), .reported context.controller.id fired .stale]) ∨
    (context.controller.pending = some fired ∧ ∃ outcome more, outcome ≠ .stale ∧
      context.detached.Journey later more ∧
      marks = more ++ [.reported context.controller.id fired outcome]) := by
  rw [Turn.watched, get_bind_apply] at given
  obtain ⟨⟨outcome, reached⟩, more, _, fires, noted, rfl⟩ := Journaled.gives_bind.mp given
  cases noted
  by_cases pending : context.controller.pending = some fired
  · refine .inr ⟨pending, outcome, more, ?_⟩
    rw [repertoire.watchedOnTimer_of_pending pending] at fires
    split at fires
    · obtain ⟨journey, acted⟩ := Context.Journey.reconsider fires
      exact ⟨acted, journey, rfl⟩
    · obtain ⟨same, rfl⟩ := Journaled.gives_pure.mp fires
      cases same
      exact ⟨nofun, ⟨.rest _, .refl _⟩, rfl⟩
  · refine .inl ⟨pending, ?_⟩
    cases (repertoire.watchedOnTimer_of_stale pending).symm.trans fires
    exact ⟨rfl, _, rfl⟩

end Repertoire

end PriorityAgents
