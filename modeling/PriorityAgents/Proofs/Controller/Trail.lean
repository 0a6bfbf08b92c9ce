import PriorityAgents.Proofs.Controller.Claim
import PriorityAgents.Proofs.Controller.Keeping

/-!
Watched code leaves a trail: its marks tell what has become of the slot and of the tree.

The slot of an agent holds the timer that its marks give it a claim to, and its tree is the one
that it asked for last.
-/

set_option autoImplicit false

namespace PriorityAgents

variable {vocabulary : Vocabulary} {α β : Type}

namespace Context

/-- What the marks of an agent's code have to do with what the code has changed. -/
structure Trail (context later : Context vocabulary) (marks : List (Mark vocabulary)) : Prop where
  id : later.controller.id = context.controller.id
  own : ∀ mark ∈ marks, mark.IsOf context.controller.id
  pending : later.controller.pending =
    claim context.controller.id context.controller.pending marks
  tree : later.controller.tree = (plans marks).getLastD context.controller.tree

namespace Trail

variable {context middle later : Context vocabulary} {first second : List (Mark vocabulary)}
  {repertoire : Repertoire vocabulary} {journal : List Entry}

theorem refl (context : Context vocabulary) : context.Trail context [] where
  id := rfl
  own := nofun
  pending := rfl
  tree := rfl

theorem trans (before : context.Trail middle first) (after : middle.Trail later second) :
    context.Trail later (first ++ second) where
  id := after.id.trans before.id
  own := by
    intro mark member
    rcases List.mem_append.mp member with early | late
    · exact before.own mark early
    · rw [← before.id]
      exact after.own mark late
  pending := by
    rw [after.pending, before.id, before.pending, claim_append]
  tree := by
    simp only [after.tree, before.tree, plans_append, List.getLastD_eq_getLast?,
      List.getLast?_append, Option.getD_or]

private theorem of_same (id : later.controller.id = context.controller.id)
    (scheduler : later.controller.scheduler = context.controller.scheduler)
    (tree : later.controller.tree = context.controller.tree)
    (silent : ∀ entry ∈ journal, entry.IsSilent) :
    context.Trail later (journal.map .entered) where
  id := id
  own := by
    intro mark member
    obtain ⟨entry, entryMember, rfl⟩ := List.mem_map.mp member
    exact (silent entry entryMember).isOwn _
  pending := by
    rw [claim_silent silent]
    exact congrArg Scheduler.pending scheduler
  tree := by
    rw [plans_entered]
    exact tree

private theorem unmarked (id : later.controller.id = context.controller.id)
    (scheduler : later.controller.scheduler = context.controller.scheduler)
    (tree : later.controller.tree = context.controller.tree) : context.Trail later [] := by
  have silent : ∀ entry ∈ ([] : List Entry), entry.IsSilent := fun _ member =>
    absurd member List.not_mem_nil
  exact of_same id scheduler tree silent

private theorem asked {request : Request vocabulary}
    (aside : ∀ held, Mark.claim context.controller.id held
      (.asked context.controller.id request) = held)
    (without : Mark.plan? (.asked context.controller.id request) = none) :
    context.Trail context [.asked context.controller.id request] where
  id := rfl
  own := fun mark member => by
    rw [List.mem_singleton.mp member]
    exact rfl
  pending := (aside _).symm
  tree := by
    unfold plans
    rw [List.filterMap_cons_none without]
    rfl

private theorem schedule {delay : Span} (given : (context.schedule delay).Gives later journal) :
    context.Trail later (journal.map .entered) := by
  have works := Works.schedule given
  obtain ⟨timer, timers, _, rfl, rfl⟩ := gives_schedule.mp given
  refine
    { id := rfl
      own := ?_
      pending := ?_
      tree := ?_ }
  · intro mark member
    obtain ⟨entry, entryMember, rfl⟩ := List.mem_map.mp member
    exact works.own entry entryMember
  · rw [List.map_append, claim_append, claim_silent (Scheduler.silent_disarmings _ _)]
    exact (if_pos rfl).symm
  · rw [plans_entered]
    rfl

private theorem cancel {mark : Mark vocabulary} (given : context.cancel.Gives later journal)
    (own : mark.IsOf context.controller.id)
    (gone : ∀ held, mark.claim context.controller.id held = none) (without : mark.plan? = none) :
    context.Trail later (mark :: journal.map .entered) := by
  have works := Works.cancel given
  obtain ⟨rfl, rfl⟩ := gives_cancel.mp given
  refine
    { id := rfl
      own := ?_
      pending := ?_
      tree := ?_ }
  · intro other member
    rcases List.mem_cons.mp member with rfl | member
    · exact own
    · obtain ⟨entry, entryMember, rfl⟩ := List.mem_map.mp member
      exact works.own entry entryMember
  · change none = claim _ (mark.claim _ _) _
    rw [gone, List.map_append, claim_append, claim_silent (Scheduler.silent_disarmings _ _)]
    split <;> rfl
  · unfold plans
    rw [List.filterMap_cons_none without]
    exact (congrArg (List.getLastD · _) (plans_entered _)).symm

theorem perform {request : Request vocabulary} {answer : request.Answer}
    (given : (context.perform repertoire request).Gives (answer, later) journal) :
    context.Trail later (.asked context.controller.id request :: journal.map .entered) := by
  cases slot : request.isOfSlot with
  | false =>
      obtain ⟨⟨mind, rfl⟩, silent⟩ := aside_of_perform slot given
      have mark : context.Trail context [.asked context.controller.id request] := by
        cases request with
        | reconsiderNow => cases slot
        | schedule delay => cases slot
        | cancel => cases slot
        | setPriorities tree => cases slot
        | _ => exact asked (fun _ => rfl) rfl
      exact mark.trans (of_same rfl rfl rfl silent)
  | true =>
      cases request with
      | reconsiderNow =>
          exact (asked (fun _ => rfl) rfl).trans (schedule (gives_effect.mp given))
      | schedule delay =>
          exact (asked (fun _ => rfl) rfl).trans (schedule (gives_effect.mp given))
      | cancel => exact cancel (gives_effect.mp given) rfl (fun _ => if_pos rfl) rfl
      | setPriorities tree =>
          obtain ⟨entries, rest, rfl⟩ := gives_setPriorities.mp (gives_effect.mp given)
          rw [List.map_append]
          have handed :
              context.Trail { context with controller := { context.controller with tree } }
                [.asked context.controller.id (.setPriorities tree)] :=
            ⟨rfl, fun mark member => by rw [List.mem_singleton.mp member]; exact rfl, rfl, rfl⟩
          exact (handed.trans (of_same rfl rfl rfl (context.silent_complaints tree))).trans
            (schedule rest)
      | _ => cases slot

end Trail

end Context

/-! ### Watched code leaves a trail -/

namespace Watched

theorem get_bind_apply (next : Context vocabulary → Watched vocabulary α)
    (context : Context vocabulary) : (get >>= next) context = next context context :=
  pure_bind (context, context) fun read : Context vocabulary × Context vocabulary =>
    next read.1 read.2

theorem set_bind_apply (later : Context vocabulary) (next : Unit → Watched vocabulary α)
    (context : Context vocabulary) : (set later >>= next) context = next () later :=
  pure_bind ((), later) fun written : Unit × Context vocabulary => next written.1 written.2

theorem gives_note_bind {mark : Mark vocabulary} {next : Unit → Watched vocabulary α}
    {context : Context vocabulary} {reached : α × Context vocabulary}
    {marks : List (Mark vocabulary)} :
    ((note mark >>= next) context).Gives reached marks ↔
      ∃ more, (next () context).Gives reached more ∧ marks = mark :: more := by
  change (note mark context >>= fun reached => next reached.1 reached.2).Gives reached marks ↔ _
  rw [Journaled.gives_bind]
  constructor
  · rintro ⟨_, _, more, written, rest, rfl⟩
    cases written
    exact ⟨more, rest, rfl⟩
  · rintro ⟨more, rest, rfl⟩
    exact ⟨((), context), [mark], more, rfl, rest, rfl⟩

theorem gives_carry {step : Context vocabulary → Logged (α × Context vocabulary)}
    {context : Context vocabulary} {reached : α × Context vocabulary}
    {marks : List (Mark vocabulary)} :
    (carry step context).Gives reached marks ↔
      ∃ journal, (step context).Gives reached journal ∧ marks = journal.map .entered := by
  constructor
  · intro given
    exact ⟨(step context).journal,
      Journaled.gives_of_outcome (congrArg Journaled.outcome given),
      (congrArg Journaled.journal given).symm⟩
  · rintro ⟨journal, given, rfl⟩
    exact Journaled.ext given.outcome (congrArg (List.map Mark.entered) given.journal_eq)

def Traced (watched : Watched vocabulary α) : Prop :=
  ∀ context answer later marks, (watched context).Gives (answer, later) marks →
    context.Trail later marks

namespace Traced

theorem pure (answer : α) : (Pure.pure answer : Watched vocabulary α).Traced := by
  intro context _ _ marks given
  obtain ⟨reached, rfl⟩ := Journaled.gives_pure.mp given
  cases reached
  exact .refl context

theorem bind {first : Watched vocabulary α} {next : α → Watched vocabulary β}
    (traced : first.Traced) (further : ∀ answer, (next answer).Traced) :
    (first >>= next).Traced := by
  intro context reply later marks given
  obtain ⟨⟨answer, middle⟩, early, late, begun, rest, rfl⟩ := Journaled.gives_bind.mp given
  exact (traced context answer middle early begun).trans
    (further answer middle reply later late rest)

theorem get_bind {next : Context vocabulary → Watched vocabulary α}
    (traced : ∀ context, (next context).Traced) : (get >>= next).Traced :=
  fun context answer later marks given =>
    traced context context answer later marks (get_bind_apply next context ▸ given)

private theorem stepped (footstep : Footstep) :
    (note (.stepped footstep) : Watched vocabulary Unit).Traced := by
  intro context _ _ marks given
  cases given
  exact ⟨rfl, fun mark member => by rw [List.mem_singleton.mp member]; exact trivial, rfl, rfl⟩

private theorem told (severity : Severity) (message : String)
    (fields : Context vocabulary → List (String × String)) :
    (carry fun context => do
      context.report severity message (fields context)
      Pure.pure ((), context)).Traced := by
  intro context answer later marks given
  obtain ⟨journal, said, rfl⟩ := gives_carry.mp given
  obtain ⟨_, early, _, reported, rest, rfl⟩ := Journaled.gives_bind.mp said
  obtain ⟨reached, rfl⟩ := Journaled.gives_pure.mp rest
  cases reached
  rw [Context.gives_report.mp reported, List.append_nil]
  refine .of_same rfl rfl rfl fun entry member => ?_
  rw [List.mem_singleton.mp member]
  exact trivial

variable (repertoire : Repertoire vocabulary)

theorem watch (program : Program vocabulary α) : (repertoire.watch program).Traced := by
  induction program with
  | pure answer => exact .pure answer
  | ask request next ih =>
      intro context answer later marks given
      rw [Repertoire.watch, get_bind_apply] at given
      obtain ⟨more, asked, rfl⟩ := gives_note_bind.mp given
      obtain ⟨⟨reply, middle⟩, _, late, carried, rest, rfl⟩ := Journaled.gives_bind.mp asked
      obtain ⟨journal, performed, rfl⟩ := gives_carry.mp carried
      exact (Context.Trail.perform performed).trans (ih reply middle answer later late rest)

/-! Nothing is asked for in a walk but what rules and their parts ask for. -/

private theorem perform (deed : Callback × vocabulary.Action) :
    (repertoire.watcher.perform deed).Traced :=
  .bind (stepped _) fun _ => watch repertoire _

private theorem prepare (part : Option (Callback × vocabulary.Action)) :
    (repertoire.watcher.prepare part).Traced := by
  cases part with
  | none => exact .pure ()
  | some deed => exact perform repertoire deed

private theorem matched (condition : Option (Place × vocabulary.Condition)) :
    (repertoire.watcher.matched condition).Traced := by
  cases condition with
  | none => exact .pure true
  | some question =>
      exact .bind (stepped _) fun _ => .bind (watch repertoire _) fun answer =>
        .bind (stepped _) fun _ => .pure answer

private theorem armIf (delay : Option Span) : (repertoire.watcher.armIf delay).Traced := by
  cases delay with
  | none => exact .pure ()
  | some delay => exact watch repertoire _

mutual

private theorem visit (depth index : Nat) : (rule : Rule vocabulary.placed) →
    (repertoire.watcher.visit depth index rule).Traced
  | ⟨precheck, condition, onMatch, behaviour, reconsiderAfter, whenTrue, whenFalse⟩ => by
      unfold Walker.visit
      refine .bind (prepare repertoire precheck) fun _ => .bind (matched repertoire condition)
        fun isMatch => .bind (watch repertoire _) fun _ => ?_
      cases isMatch with
      | false => exact walkFrom (depth + 1) 0 whenFalse
      | true =>
          refine .bind (prepare repertoire onMatch) fun _ => ?_
          cases behaviour with
          | none => exact walkFrom (depth + 1) 0 whenTrue
          | some chosen => exact .bind (armIf repertoire _) fun _ => .pure _

private theorem walkFrom (depth index : Nat) : (rules : List (Rule vocabulary.placed)) →
    (repertoire.watcher.walkFrom depth index rules).Traced
  | [] => by
      unfold Walker.walkFrom
      exact .pure none
  | rule :: rules => by
      unfold Walker.walkFrom
      refine .bind (visit depth index rule) fun chosen => ?_
      cases chosen with
      | none => exact walkFrom depth (index + 1) rules
      | some chosen => exact .pure (some chosen)

end

theorem reconsider : repertoire.watchedReconsider.Traced := by
  refine .get_bind fun context => .bind (walkFrom repertoire 0 0 _) fun chosen => ?_
  cases chosen with
  | none => exact .bind (told _ _ _) fun _ => .pure _
  | some chosen =>
      exact .bind (told _ _ _) fun _ => .bind (perform repertoire chosen) fun _ => .pure _

theorem handleEvent (name : EventName) (payload : vocabulary.Payload) :
    (repertoire.watchedHandleEvent name payload).Traced := by
  refine .get_bind fun context => ?_
  cases context.controller.surface.handler? name with
  | none => exact .pure false
  | some handler => exact .bind (watch repertoire _) fun _ => .pure true

theorem teardown : (Watched.teardown : Watched vocabulary Unit).Traced := by
  intro context answer later marks given
  rw [Watched.teardown, get_bind_apply] at given
  obtain ⟨_, carried, rfl⟩ := gives_note_bind.mp given
  obtain ⟨journal, tornDown, rfl⟩ := gives_carry.mp carried
  obtain ⟨_, early, _, given, rest, rfl⟩ := Journaled.gives_bind.mp tornDown
  obtain ⟨reached, rfl⟩ := Journaled.gives_pure.mp rest
  cases reached
  obtain ⟨middle, during, _, cancelled, final, rfl⟩ := Journaled.gives_bind.mp given
  obtain ⟨rfl, rfl⟩ := Journaled.gives_pure.mp final
  rw [List.append_nil, List.append_nil]
  have calledOff : context.Trail middle
      (.tornDown context.controller.id :: during.map .entered) :=
    .cancel cancelled rfl (fun _ => if_pos rfl) rfl
  have whole := calledOff.trans (.unmarked rfl rfl rfl :
    middle.Trail (middle.mapSurface EventSurface.uninstall) [])
  rwa [List.append_nil] at whole

end Traced

end Watched

end PriorityAgents
