import PriorityAgents.Proofs.Controller.Turn
import PriorityAgents.Proofs.Event.Lifecycle
import PriorityAgents.Proofs.Rule.Parts

/-!
How an agent takes its leave.

Whatever sets of handlers an agent has had, at its destruction it goes by the one that it has put
in place last: it gives up its pending reconsideration, and then the handler runs that this set has
for the event, if it has one. That holds as long as the agent's own code has not bound or unbound
the event by hand since and the agent is in service.
-/

set_option autoImplicit false

namespace PriorityAgents

variable {vocabulary : Vocabulary} {α β : Type}

namespace Mark

/-- A mark after which an agent does not take its leave by the set that it did before. -/
def Supplants (agent : AgentId) : Mark vocabulary → Prop
  | .asked asker (.install _) => asker = agent
  | .asked asker (.bind name _) => asker = agent ∧ name = .entityDestroyed
  | .asked asker (.unbind name) => asker = agent ∧ name = .entityDestroyed
  | .tornDown asker => asker = agent
  | _ => False

def parting (agent : AgentId) (held : Option (HandlerSet vocabulary)) :
    Mark vocabulary → Option (HandlerSet vocabulary)
  | .asked asker (.install set) => if asker = agent then some set else held
  | .asked asker (.bind name _) => if asker = agent ∧ name = .entityDestroyed then none else held
  | .asked asker (.unbind name) => if asker = agent ∧ name = .entityDestroyed then none else held
  | .tornDown asker => if asker = agent then none else held
  | _ => held

private theorem parting_of_not_supplants {agent : AgentId} {mark : Mark vocabulary}
    (stays : ¬mark.Supplants agent) (held : Option (HandlerSet vocabulary)) :
    mark.parting agent held = held := by
  cases mark with
  | asked asker request => cases request <;> first | rfl | exact if_neg stays
  | tornDown asker => exact if_neg stays
  | _ => rfl

private theorem eq_install_of_parting {agent : AgentId} {mark : Mark vocabulary}
    {held : Option (HandlerSet vocabulary)} {set : HandlerSet vocabulary}
    (supplants : mark.Supplants agent) (known : mark.parting agent held = some set) :
    mark = .asked agent (.install set) := by
  cases mark with
  | asked asker request =>
      cases request with
      | install other =>
          obtain rfl : asker = agent := supplants
          rw [parting, if_pos rfl, Option.some.injEq] at known
          rw [known]
      | bind name handler => cases (if_pos supplants).symm.trans known
      | unbind name => cases (if_pos supplants).symm.trans known
      | _ => exact supplants.elim
  | tornDown asker => cases (if_pos supplants).symm.trans known
  | _ => exact supplants.elim

private theorem not_supplants_of_other {agent other : AgentId} {mark : Mark vocabulary}
    (own : mark.IsOf other) (foreign : other ≠ agent) : ¬mark.Supplants agent := by
  intro supplants
  cases mark with
  | asked asker request =>
      change asker = other at own
      cases request with
      | install set => exact foreign (own.symm.trans supplants)
      | bind name handler => exact foreign (own.symm.trans supplants.1)
      | unbind name => exact foreign (own.symm.trans supplants.1)
      | _ => exact supplants
  | tornDown asker => exact foreign (Eq.trans (Eq.symm own) supplants)
  | _ => exact supplants

end Mark

def parting (agent : AgentId) (held : Option (HandlerSet vocabulary))
    (marks : List (Mark vocabulary)) : Option (HandlerSet vocabulary) :=
  marks.foldl (Mark.parting agent) held

@[simp] theorem parting_append (agent : AgentId) (held : Option (HandlerSet vocabulary))
    (first second : List (Mark vocabulary)) :
    parting agent held (first ++ second) = parting agent (parting agent held first) second :=
  List.foldl_append

theorem parting_of_not_supplants {agent : AgentId} {marks : List (Mark vocabulary)}
    (stays : ∀ mark ∈ marks, ¬mark.Supplants agent) (held : Option (HandlerSet vocabulary)) :
    parting agent held marks = held := by
  induction marks with
  | nil => rfl
  | cons mark marks ih =>
      change parting agent (mark.parting agent held) marks = held
      rw [mark.parting_of_not_supplants (stays mark List.mem_cons_self)]
      exact ih fun other member => stays other (List.mem_cons_of_mem _ member)

/-- It is known by which set an agent takes its leave if it has put that in place and nothing has
supplanted it. -/
theorem parting_eq_some {agent : AgentId} {marks : List (Mark vocabulary)}
    {set : HandlerSet vocabulary} :
    parting agent none marks = some set ↔ ∃ earlier later,
      marks = earlier ++ .asked agent (.install set) :: later ∧
        ∀ mark ∈ later, ¬mark.Supplants agent := by
  constructor
  · intro known
    induction marks using List.reverseRecOn with
    | nil => cases known
    | append_singleton marks mark ih =>
        rw [parting_append] at known
        change mark.parting agent (parting agent none marks) = some set at known
        by_cases supplants : mark.Supplants agent
        · refine ⟨marks, [], ?_, nofun⟩
          rw [mark.eq_install_of_parting supplants known]
        · rw [mark.parting_of_not_supplants supplants] at known
          obtain ⟨earlier, later, rfl, stays⟩ := ih known
          refine ⟨earlier, later ++ [mark], by simp, fun other member => ?_⟩
          rcases List.mem_append.mp member with before | last
          · exact stays other before
          · rw [List.mem_singleton.mp last]
            exact supplants
  · rintro ⟨earlier, later, rfl, stays⟩
    rw [parting_append]
    change parting agent (Mark.parting agent _ (.asked agent (.install set))) later = _
    rw [parting_of_not_supplants stays]
    exact if_pos rfl

private theorem parting_entered (agent : AgentId) (held : Option (HandlerSet vocabulary))
    (entries : List Entry) :
    parting agent held (entries.map (Mark.entered : Entry → Mark vocabulary)) = held := by
  refine parting_of_not_supplants (fun mark member => ?_) held
  obtain ⟨entry, _, rfl⟩ := List.mem_map.mp member
  exact id

/-! ### The surface of an agent -/

namespace Context

variable {context later : Context vocabulary} {journal : List Entry}
  {repertoire : Repertoire vocabulary} {held : Option (HandlerSet vocabulary)}

private theorem surface_of_perform {request : Request vocabulary} {answer : request.Answer}
    (given : (context.perform repertoire request).Gives (answer, later) journal) :
    later.controller.surface = request.resurface context.controller.surface := by
  have scheduled (start : Context vocabulary) {delay : Span} {entries : List Entry}
      (surface : start.controller.surface = context.controller.surface)
      (asked : (start.schedule delay).Gives later entries) :
      later.controller.surface = context.controller.surface := by
    obtain ⟨timer, timers, _, rfl, _⟩ := gives_schedule.mp asked
    exact surface
  cases slot : request.isOfSlot with
  | false =>
      obtain ⟨⟨mind, rfl⟩, _⟩ := aside_of_perform slot given
      rfl
  | true =>
      cases request with
      | reconsiderNow => exact scheduled context rfl (gives_effect.mp given)
      | schedule delay => exact scheduled context rfl (gives_effect.mp given)
      | cancel =>
          rw [(gives_cancel.mp (gives_effect.mp given)).1]
          rfl
      | setPriorities tree =>
          obtain ⟨entries, asked, _⟩ := gives_setPriorities.mp (gives_effect.mp given)
          exact scheduled { context with controller := { context.controller with tree } } rfl asked
      | _ => cases slot

def Leaves (context : Context vocabulary) (held : Option (HandlerSet vocabulary)) : Prop :=
  ∀ set, held = some set →
    context.controller.surface.handler? .entityDestroyed = some set.farewell

theorem Leaves.of_same (leaves : context.Leaves held)
    (surface : later.controller.surface = context.controller.surface) : later.Leaves held := by
  intro set known
  rw [surface]
  exact leaves set known

private theorem Leaves.perform {request : Request vocabulary} {answer : request.Answer}
    (leaves : context.Leaves held)
    (given : (context.perform repertoire request).Gives (answer, later) journal) :
    later.Leaves (Mark.parting context.controller.id held
      (.asked context.controller.id request)) := by
  have surface := surface_of_perform given
  -- Only these three can change how an agent takes its leave.
  cases request with
  | install set =>
      intro other known
      rw [Mark.parting, if_pos rfl, Option.some.injEq] at known
      subst known
      change later.controller.surface = context.controller.surface.install set at surface
      rw [surface, EventSurface.handler?_install, HandlerSet.get?_withRelease, if_pos rfl]
      rfl
  | bind name handler =>
      intro set known
      change later.controller.surface = context.controller.surface.bind name handler at surface
      by_cases farewell : name = .entityDestroyed
      · rw [Mark.parting, if_pos ⟨rfl, farewell⟩] at known
        cases known
      · rw [Mark.parting, if_neg fun given => farewell given.2] at known
        rw [surface, EventSurface.handler?_bind, if_neg farewell]
        exact leaves set known
  | unbind name =>
      intro set known
      change later.controller.surface = context.controller.surface.unbind name at surface
      by_cases farewell : name = .entityDestroyed
      · rw [Mark.parting, if_pos ⟨rfl, farewell⟩] at known
        cases known
      · rw [Mark.parting, if_neg fun given => farewell given.2] at known
        rw [surface, EventSurface.handler?_unbind, if_neg farewell]
        exact leaves set known
  | _ => exact leaves.of_same surface

end Context

/-! ### Code under watch -/

namespace Context

/-- What the marks of an agent's code have to do with how agents take their leave after it. -/
structure Settles (context later : Context vocabulary) (marks : List (Mark vocabulary)) : Prop where
  id : later.controller.id = context.controller.id
  others (agent : AgentId) : agent ≠ context.controller.id →
    ∀ mark ∈ marks, ¬mark.Supplants agent
  leaves (held : Option (HandlerSet vocabulary)) : context.Leaves held →
    later.Leaves (parting context.controller.id held marks)

namespace Settles

variable {context middle later : Context vocabulary} {first second : List (Mark vocabulary)}
  {repertoire : Repertoire vocabulary} {journal : List Entry}

theorem refl (context : Context vocabulary) : context.Settles context [] where
  id := rfl
  others := nofun
  leaves := fun _ leaves => leaves

theorem trans (before : context.Settles middle first) (after : middle.Settles later second) :
    context.Settles later (first ++ second) where
  id := after.id.trans before.id
  others := by
    intro agent foreign mark member
    rcases List.mem_append.mp member with early | late
    · exact before.others agent foreign mark early
    · exact after.others agent (before.id ▸ foreign) mark late
  leaves := by
    intro held leaves
    rw [parting_append, ← before.id]
    exact after.leaves _ (before.id ▸ before.leaves held leaves)

private theorem entered (id : later.controller.id = context.controller.id)
    (surface : later.controller.surface = context.controller.surface) (entries : List Entry) :
    context.Settles later (entries.map .entered) where
  id := id
  others := by
    intro agent _ mark member
    obtain ⟨entry, _, rfl⟩ := List.mem_map.mp member
    exact fun supplants => supplants
  leaves := by
    intro held leaves
    rw [parting_entered]
    exact leaves.of_same surface

private theorem perform {request : Request vocabulary} {answer : request.Answer}
    (given : (context.perform repertoire request).Gives (answer, later) journal) :
    context.Settles later (.asked context.controller.id request :: journal.map .entered) where
  id := (Trail.perform given).id
  others := by
    intro agent foreign mark member
    exact mark.not_supplants_of_other ((Trail.perform given).own mark member) (Ne.symm foreign)
  leaves := by
    intro held leaves
    change later.Leaves (parting _ (Mark.parting _ held _) _)
    rw [parting_entered]
    exact leaves.perform given

end Settles

end Context

namespace Watched

def Settled (watched : Watched vocabulary α) : Prop :=
  ∀ context answer later marks, (watched context).Gives (answer, later) marks →
    context.Settles later marks

namespace Settled

theorem pure (answer : α) : (Pure.pure answer : Watched vocabulary α).Settled := by
  intro context _ _ marks given
  obtain ⟨reached, rfl⟩ := Journaled.gives_pure.mp given
  cases reached
  exact .refl context

theorem bind {first : Watched vocabulary α} {next : α → Watched vocabulary β}
    (settled : first.Settled) (further : ∀ answer, (next answer).Settled) :
    (first >>= next).Settled := by
  intro context reply later marks given
  obtain ⟨⟨answer, middle⟩, early, late, begun, rest, rfl⟩ := Journaled.gives_bind.mp given
  exact (settled context answer middle early begun).trans
    (further answer middle reply later late rest)

theorem get_bind {next : Context vocabulary → Watched vocabulary α}
    (settled : ∀ context, (next context).Settled) : (get >>= next).Settled :=
  fun context answer later marks given =>
    settled context context answer later marks (get_bind_apply next context ▸ given)

private theorem note {mark : Mark vocabulary} (aside : ∀ agent, ¬mark.Supplants agent) :
    (Watched.note mark).Settled := by
  intro context _ _ marks given
  cases given
  refine ⟨rfl, fun agent _ other member => ?_, fun held leaves => ?_⟩
  · rw [List.mem_singleton.mp member]
    exact aside agent
  · change context.Leaves (mark.parting _ held)
    rw [mark.parting_of_not_supplants (aside _)]
    exact leaves

private theorem told (severity : Severity) (message : String)
    (fields : Context vocabulary → List (String × String)) :
    (carry fun context => do
      context.report severity message (fields context)
      Pure.pure ((), context)).Settled := by
  intro context answer later marks given
  obtain ⟨journal, said, rfl⟩ := gives_carry.mp given
  obtain ⟨_, _, _, _, rest, _⟩ := Journaled.gives_bind.mp said
  cases (Journaled.gives_pure.mp rest).1
  exact .entered rfl rfl journal

variable (repertoire : Repertoire vocabulary)

theorem watch (program : Program vocabulary α) : (repertoire.watch program).Settled := by
  induction program with
  | pure answer => exact .pure answer
  | ask request next ih =>
      intro context answer later marks given
      rw [Repertoire.watch, get_bind_apply] at given
      obtain ⟨more, asked, rfl⟩ := gives_note_bind.mp given
      obtain ⟨⟨reply, middle⟩, _, late, carried, rest, rfl⟩ := Journaled.gives_bind.mp asked
      obtain ⟨journal, performed, rfl⟩ := gives_carry.mp carried
      exact (Context.Settles.perform performed).trans (ih reply middle answer later late rest)

private theorem perform (deed : Callback × vocabulary.Action) :
    (repertoire.watcher.perform deed).Settled :=
  .bind (note fun _ => id) fun _ => watch repertoire _

private theorem closed : repertoire.watcher.Closed Settled where
  pure := pure
  bind := bind
  test _ := .bind (note fun _ => id) fun _ => .bind (watch repertoire _) fun answer =>
    .bind (note fun _ => id) fun _ => .pure answer
  perform := perform repertoire
  arm _ := watch repertoire _
  visited _ _ _ := watch repertoire _

private theorem reconsider : repertoire.watchedReconsider.Settled := by
  refine .get_bind fun context => .bind ((closed repertoire).walk _) fun chosen => ?_
  cases chosen with
  | none => exact .bind (told _ _ _) fun _ => .pure _
  | some chosen =>
      exact .bind (told _ _ _) fun _ => .bind (perform repertoire chosen) fun _ => .pure _

private theorem handleEvent (name : EventName) (payload : vocabulary.Payload) :
    (repertoire.watchedHandleEvent name payload).Settled := by
  refine .get_bind fun context => ?_
  cases context.controller.surface.handler? name with
  | none => exact .pure false
  | some handler => exact .bind (watch repertoire _) fun _ => .pure true

private theorem teardown : (Watched.teardown : Watched vocabulary Unit).Settled := by
  intro context answer later marks given
  have trail := Traced.teardown context answer later marks given
  rw [Watched.teardown, get_bind_apply] at given
  obtain ⟨_, carried, rfl⟩ := gives_note_bind.mp given
  obtain ⟨journal, _, rfl⟩ := gives_carry.mp carried
  refine ⟨trail.id, fun agent foreign mark member =>
    mark.not_supplants_of_other (trail.own mark member) (Ne.symm foreign), fun held _ => ?_⟩
  change later.Leaves (parting _ (Mark.parting _ held (.tornDown _)) _)
  rw [parting_entered, Mark.parting, if_pos rfl]
  intro set known
  cases known

private theorem onTimer (fired : TimerHandle) : (repertoire.watchedOnTimer fired).Settled := by
  intro context answer later marks given
  by_cases pending : context.controller.pending = some fired
  · rw [repertoire.watchedOnTimer_of_pending pending] at given
    have settles : context.detached.Settles later marks := by
      split at given
      · exact reconsider repertoire context.detached answer later marks given
      · exact Settled.pure _ context.detached answer later marks given
    exact ⟨settles.id, settles.others, settles.leaves⟩
  · cases (repertoire.watchedOnTimer_of_stale pending).symm.trans given
    exact .entered rfl rfl [_]

theorem turn (turn : Turn vocabulary) : (turn.watched repertoire).Settled := by
  cases turn with
  | work program => exact watch repertoire program
  | event name payload =>
      exact .bind (handleEvent repertoire name payload) fun _ => .pure ()
  | teardown => exact teardown
  | fire handle =>
      exact .get_bind fun context => .bind (onTimer repertoire handle) fun _ => note fun _ => id

end Settled

end Watched

/-! ### The leave itself -/

namespace Context

variable {context later : Context vocabulary} {set : HandlerSet vocabulary}

def leaveBy (repertoire : Repertoire vocabulary) (context : Context vocabulary)
    (set : HandlerSet vocabulary) (payload : vocabulary.Payload) :
    Logged (Bool × Context vocabulary) := do
  let released ← context.cancel
  match set.get? .entityDestroyed with
  | none => pure (true, released)
  | some own => do
      let ((), done) ← released.run repertoire (repertoire.handle own payload)
      pure (true, done)

/-- An agent that goes by a set gives up what is pending, and then the handler of the set runs. -/
theorem handleEvent_of_leaves (repertoire : Repertoire vocabulary)
    (leaves : context.Leaves (some set)) (payload : vocabulary.Payload) :
    context.handleEvent repertoire .entityDestroyed payload =
      context.leaveBy repertoire set payload := by
  have cancelled : context.run repertoire (Program.request .cancel) =
      context.cancel >>= fun released => pure ((), released) := by
    change effect context.cancel >>= (fun reached => pure (reached.1, reached.2)) = _
    rw [effect, bind_assoc]
    rfl
  unfold handleEvent leaveBy
  rw [leaves set rfl]
  unfold HandlerSet.farewell
  cases set.get? .entityDestroyed with
  | none =>
      change context.run repertoire (Program.request .cancel) >>= _ = _
      rw [cancelled, bind_assoc]
      rfl
  | some own =>
      change context.run repertoire (Program.request .cancel >>= fun _ =>
        repertoire.handle own payload) >>= _ = _
      rw [run_bind, cancelled, bind_assoc, bind_assoc]
      exact congrArg _ (funext fun released => by rw [pure_bind])

theorem exists_gives_cancel (context : Context vocabulary) :
    ∃ released entries, context.cancel.Gives released entries :=
  ⟨_, _, gives_cancel.mpr ⟨rfl, rfl⟩⟩

theorem leaves_released (repertoire : Repertoire vocabulary) (leaves : context.Leaves (some set))
    (plain : set.get? .entityDestroyed = none) (payload : vocabulary.Payload) :
    ∃ released, (context.handleEvent repertoire .entityDestroyed payload).outcome =
        .ok (true, released) ∧
      released.timers = context.controller.scheduler.release context.timers := by
  obtain ⟨released, entries, cancelled⟩ := context.exists_gives_cancel
  refine ⟨released, ?_, congrArg Context.timers (gives_cancel.mp cancelled).1⟩
  rw [handleEvent_of_leaves repertoire leaves, leaveBy, Journaled.outcome_bind, cancelled.outcome,
    plain]
  rfl

end Context

end PriorityAgents
