import PriorityAgents.Proofs.Controller.Answers

/-!
What an agent's own code can do to its controller and to the timers, one step after another.

Most requests leave the slot and the timers alone. The others call off what is pending or ask for a
reconsideration. Every piece of code, whatever a host lets it do at a time, takes a course made of
such steps.
-/

set_option autoImplicit false

namespace PriorityAgents

variable {vocabulary : Vocabulary} {α : Type}

namespace Request

/-- Whether a request concerns the slot of the agent that makes it. -/
def isOfSlot : Request vocabulary → Bool
  | .setPriorities _ | .reconsiderNow | .schedule _ | .cancel => true
  | _ => false

/-- What a request makes of the surface of the agent that makes it. -/
def resurface (surface : EventSurface vocabulary) : Request vocabulary → EventSurface vocabulary
  | .bind name handler => surface.bind name handler
  | .unbind name => surface.unbind name
  | .install set => surface.install set
  | _ => surface

end Request

namespace Context

/-- A course from one context to another, with the entries made on the way. -/
inductive Course : Context vocabulary → Context vocabulary → List Entry → Prop where
  /-- Nothing changes but what the slot and the timers have no part in. -/
  | aside (context : Context vocabulary) (mind : Mind vocabulary) (tree : PriorityTree vocabulary)
      (surface : EventSurface vocabulary) {journal : List Entry}
      (silent : ∀ entry ∈ journal, entry.IsSilent) :
      Course context
        { context with controller := { context.controller with mind, tree, surface } } journal
  | cancel {context later : Context vocabulary} {journal : List Entry}
      (given : context.cancel.Gives later journal) : Course context later journal
  | schedule {context later : Context vocabulary} {journal : List Entry} {delay : Span}
      (given : (context.schedule delay).Gives later journal) : Course context later journal
  | trans {context middle later : Context vocabulary} {first second : List Entry}
      (before : Course context middle first) (after : Course middle later second) :
      Course context later (first ++ second)

variable {context later : Context vocabulary} {journal : List Entry}
  {repertoire : Repertoire vocabulary}

theorem silent_complaints (context : Context vocabulary) (tree : PriorityTree vocabulary) :
    ∀ entry ∈ (context.complaints tree).map Entry.told, entry.IsSilent := by
  intro entry member
  obtain ⟨record, _, rfl⟩ := List.mem_map.mp member
  exact trivial

private theorem aside_of_communicate {key substitution : String}
    (given : (context.communicate repertoire key substitution).Gives later journal) :
    (∃ mind, later = context.withMind mind) ∧ ∀ entry ∈ journal, entry.IsSilent := by
  unfold Context.communicate at given
  cases rendered : context.controller.mind.phrases.render? key substitution with
  | none =>
      rw [rendered] at given
      obtain ⟨rfl, rfl⟩ := Journaled.gives_pure.mp given
      exact ⟨⟨context.controller.mind, rfl⟩, nofun⟩
  | some message =>
      rw [rendered] at given
      obtain ⟨agent, early, _, received, rest, rfl⟩ := Journaled.gives_bind.mp given
      obtain ⟨rfl, rfl⟩ := Journaled.gives_pure.mp rest
      obtain ⟨records, _, rfl⟩ := Told.gives_logged.mp received
      refine ⟨⟨{ context.controller.mind with agent }, rfl⟩, ?_⟩
      intro entry member
      rw [List.append_nil] at member
      obtain ⟨record, _, rfl⟩ := List.mem_map.mp member
      exact trivial

def aside (context : Context vocabulary) (request : Request vocabulary) (mind : Mind vocabulary) :
    Context vocabulary :=
  let surface := request.resurface context.controller.surface
  { context with controller := { context.controller with mind, surface } }

/-- A request that does not concern the slot has no part in the tree and the timers either: only
the mind and the surface change, and only words are entered. -/
theorem aside_of_perform {request : Request vocabulary} {answer : request.Answer}
    (slot : request.isOfSlot = false)
    (given : (context.perform repertoire request).Gives (answer, later) journal) :
    (∃ mind, later = context.aside request mind) ∧ ∀ entry ∈ journal, entry.IsSilent := by
  have quiet (mind : Mind vocabulary) {reply : request.Answer}
      (same : (pure (reply, context.aside request mind) :
        Logged (request.Answer × Context vocabulary)).Gives (answer, later) journal) :
      (∃ mind, later = context.aside request mind) ∧ ∀ entry ∈ journal, entry.IsSilent := by
    obtain ⟨reached, rfl⟩ := Journaled.gives_pure.mp same
    cases reached
    exact ⟨⟨mind, rfl⟩, nofun⟩
  cases request with
  | standing => exact quiet context.controller.mind given
  | tree => exact quiet context.controller.mind given
  | mind => exact quiet context.controller.mind given
  | setMind mind => exact quiet mind given
  | communicate key substitution => exact aside_of_communicate (gives_effect.mp given)
  | surface => exact quiet context.controller.mind given
  | bind name handler => exact quiet context.controller.mind given
  | unbind name => exact quiet context.controller.mind given
  | install set => exact quiet context.controller.mind given
  | pending => exact quiet context.controller.mind given
  | note record =>
      obtain ⟨_, early, _, reported, rest, rfl⟩ := Journaled.gives_bind.mp given
      obtain ⟨reached, rfl⟩ := Journaled.gives_pure.mp rest
      cases reached
      rw [Logged.gives_report.mp reported, List.append_nil]
      exact ⟨⟨context.controller.mind, rfl⟩, fun entry member =>
        List.mem_singleton.mp member ▸ trivial⟩
  | fail fault => exact answer.elim
  | reconsiderNow => cases slot
  | schedule delay => cases slot
  | cancel => cases slot
  | setPriorities tree => cases slot

namespace Course

theorem rest (context : Context vocabulary) : Course context context [] :=
  .aside context context.controller.mind context.controller.tree context.controller.surface nofun

theorem told (context : Context vocabulary) (record : Record) :
    Course context context [.told record] :=
  .aside context context.controller.mind context.controller.tree context.controller.surface
    fun entry member => by
      rw [List.mem_singleton.mp member]
      exact trivial

private theorem setPriorities {tree : PriorityTree vocabulary}
    (given : (context.setPriorities tree).Gives later journal) : Course context later journal := by
  obtain ⟨entries, rest, rfl⟩ := gives_setPriorities.mp given
  exact .trans (.aside context context.controller.mind tree context.controller.surface
    (context.silent_complaints tree)) (.schedule rest)

theorem perform {request : Request vocabulary} {answer : request.Answer}
    (given : (context.perform repertoire request).Gives (answer, later) journal) :
    Course context later journal := by
  cases slot : request.isOfSlot with
  | false =>
      obtain ⟨⟨mind, rfl⟩, silent⟩ := aside_of_perform slot given
      exact .aside context mind context.controller.tree _ silent
  | true =>
      cases request with
      | reconsiderNow => exact .schedule (gives_effect.mp given)
      | schedule delay => exact .schedule (gives_effect.mp given)
      | cancel => exact .cancel (gives_effect.mp given)
      | setPriorities tree => exact setPriorities (gives_effect.mp given)
      | _ => cases slot

theorem run {program : Program vocabulary α} {answer : α}
    (given : (context.run repertoire program).Gives (answer, later) journal) :
    Course context later journal := by
  induction program generalizing context journal with
  | pure reply =>
      obtain ⟨reached, rfl⟩ := Journaled.gives_pure.mp given
      cases reached
      exact rest _
  | ask request next ih =>
      obtain ⟨⟨reply, middle⟩, first, second, performed, rest, rfl⟩ :=
        Journaled.gives_bind.mp given
      exact (perform performed).trans (ih reply rest)

theorem reconsider {outcome : Reconsideration}
    (given : (context.reconsider repertoire).Gives (outcome, later) journal) :
    Course context later journal := by
  obtain ⟨⟨chosen, middle⟩, first, second, walked, rest, rfl⟩ := Journaled.gives_bind.mp given
  refine (run walked).trans ?_
  cases chosen with
  | none =>
      obtain ⟨_, early, _, said, final, rfl⟩ := Journaled.gives_bind.mp rest
      obtain ⟨reached, rfl⟩ := Journaled.gives_pure.mp final
      cases reached
      rw [gives_report.mp said, List.append_nil]
      exact told _ _
  | some behaviour =>
      obtain ⟨_, early, _, said, acted, rfl⟩ := Journaled.gives_bind.mp rest
      obtain ⟨⟨_, reached⟩, during, _, ran, final, rfl⟩ := Journaled.gives_bind.mp acted
      obtain ⟨same, rfl⟩ := Journaled.gives_pure.mp final
      cases same
      rw [gives_report.mp said, List.append_nil]
      exact (told middle _).trans (run ran)

theorem handleEvent {name : EventName} {payload : vocabulary.Payload} {handled : Bool}
    (given : (context.handleEvent repertoire name payload).Gives (handled, later) journal) :
    Course context later journal := by
  unfold Context.handleEvent at given
  cases bound : context.controller.surface.handler? name with
  | none =>
      rw [bound] at given
      obtain ⟨reached, rfl⟩ := Journaled.gives_pure.mp given
      cases reached
      exact rest _
  | some handler =>
      rw [bound] at given
      obtain ⟨⟨_, reached⟩, early, _, ran, final, rfl⟩ := Journaled.gives_bind.mp given
      obtain ⟨same, rfl⟩ := Journaled.gives_pure.mp final
      cases same
      rw [List.append_nil]
      exact run ran

theorem teardown (given : context.teardown.Gives later journal) : Course context later journal := by
  obtain ⟨middle, early, _, cancelled, final, rfl⟩ := Journaled.gives_bind.mp given
  obtain ⟨rfl, rfl⟩ := Journaled.gives_pure.mp final
  exact .trans (.cancel cancelled)
    (.aside middle middle.controller.mind middle.controller.tree
      middle.controller.surface.uninstall nofun)

end Course

theorem ne_stale_of_reconsider {outcome : Reconsideration}
    (given : (context.reconsider repertoire).Gives (outcome, later) journal) :
    outcome ≠ .stale := by
  obtain ⟨⟨chosen, middle⟩, _, _, _, rest, _⟩ := Journaled.gives_bind.mp given
  cases chosen with
  | none =>
      obtain ⟨_, _, _, _, final, _⟩ := Journaled.gives_bind.mp rest
      cases (Journaled.gives_pure.mp final).1
      exact nofun
  | some behaviour =>
      obtain ⟨_, _, _, _, acted, _⟩ := Journaled.gives_bind.mp rest
      obtain ⟨_, _, _, _, final, _⟩ := Journaled.gives_bind.mp acted
      cases (Journaled.gives_pure.mp final).1
      exact nofun

end Context

end PriorityAgents
