import PriorityAgents.Controller.Repertoire

/-!
Code that is blind to the handles of timers: it learns no more of a pending timer than that there
is one.

The code of an agent brings in more code as it goes, by the trees and handlers that it puts in
place, so what is said of it is said of everything within its reach, and a reach is closed: code
that is blind within a reach never leaves it.
-/

set_option autoImplicit false

namespace PriorityAgents

/-- What the code of an agent can come across: the names that rules and handlers may use, and the
minds and payloads that may bring along more of them. -/
structure Reach (vocabulary : Vocabulary) where
  condition : vocabulary.Condition → Prop
  action : vocabulary.Action → Prop
  response : vocabulary.Response → Prop
  mind : Mind vocabulary → Prop
  payload : vocabulary.Payload → Prop

variable {vocabulary : Vocabulary} {reach : Reach vocabulary} {α β : Type}

namespace Rule

mutual

def Within (reach : Reach vocabulary) : Rule vocabulary → Prop
  | ⟨precheck, condition, onMatch, behaviour, _, whenTrue, whenFalse⟩ =>
      (∀ action ∈ precheck, reach.action action) ∧
        (∀ question ∈ condition, reach.condition question) ∧
        (∀ action ∈ onMatch, reach.action action) ∧
        (∀ action ∈ behaviour, reach.action action) ∧
        AllWithin reach whenTrue ∧ AllWithin reach whenFalse

def AllWithin (reach : Reach vocabulary) : List (Rule vocabulary) → Prop
  | [] => True
  | rule :: rules => Within reach rule ∧ AllWithin reach rules

end

end Rule

def PriorityTree.Within (reach : Reach vocabulary) (tree : PriorityTree vocabulary) : Prop :=
  Rule.AllWithin reach tree.rules

def Handler.Within (reach : Reach vocabulary) : Handler vocabulary → Prop
  | .respond response => reach.response response
  | .release => True
  | .releaseThen next => next.Within reach

def HandlerSet.Within (reach : Reach vocabulary) (set : HandlerSet vocabulary) : Prop :=
  ∀ name handler, set.get? name = some handler → handler.Within reach

private theorem HandlerSet.Within.withRelease {set : HandlerSet vocabulary}
    (within : set.Within reach) : set.withRelease.Within reach := by
  intro name handler found
  unfold HandlerSet.withRelease at found
  rw [HandlerSet.get?_insert] at found
  split at found
  · cases supplied : set.get? .entityDestroyed with
    | none =>
        rw [supplied] at found
        cases found
        exact trivial
    | some own =>
        rw [supplied] at found
        cases found
        exact within _ own supplied
  · exact within name handler found

def EventSurface.Within (reach : Reach vocabulary) (surface : EventSurface vocabulary) : Prop :=
  ∀ name handler, surface.handler? name = some handler → handler.Within reach

namespace EventSurface.Within

variable {surface : EventSurface vocabulary}

private theorem empty : (EventSurface.empty : EventSurface vocabulary).Within reach := by
  intro name handler found
  cases found

theorem bind (within : surface.Within reach) (name : EventName) {handler : Handler vocabulary}
    (own : handler.Within reach) : (surface.bind name handler).Within reach := by
  intro other found bound
  rw [handler?_bind] at bound
  split at bound
  · cases bound
    exact own
  · exact within other found bound

theorem unbind (within : surface.Within reach) (name : EventName) :
    (surface.unbind name).Within reach := by
  intro other found bound
  rw [handler?_unbind] at bound
  split at bound
  · cases bound
  · exact within other found bound

private theorem uninstall (within : surface.Within reach) : surface.uninstall.Within reach := by
  intro other found bound
  rw [handler?_uninstall] at bound
  split at bound
  · cases bound
  · exact within other found bound

theorem install (within : surface.Within reach) {set : HandlerSet vocabulary}
    (own : set.Within reach) : (surface.install set).Within reach := by
  intro other found bound
  rw [handler?_install, Option.or_eq_some_iff] at bound
  rcases bound with supplied | ⟨_, left⟩
  · exact own.withRelease other found supplied
  · exact within.uninstall other found left

end EventSurface.Within

structure Controller.Within (reach : Reach vocabulary) (controller : Controller vocabulary) :
    Prop where
  mind : reach.mind controller.mind
  tree : controller.tree.Within reach
  surface : controller.surface.Within reach

theorem Controller.Within.start {id : AgentId} {name : String} {agent : vocabulary.State}
    {seed : UInt64} {reconsiderNow : Span}
    (mind : reach.mind (Controller.start id name agent seed reconsiderNow).mind) :
    (Controller.start id name agent seed reconsiderNow).Within reach where
  mind := mind
  tree := trivial
  surface := .empty

namespace Request

/-- A request that puts nothing in place but what is within reach. -/
def Within (reach : Reach vocabulary) : Request vocabulary → Prop
  | .setMind kept => reach.mind kept
  | .bind _ handler => handler.Within reach
  | .install set => set.Within reach
  | .setPriorities plan => plan.Within reach
  | _ => True

/-- An answer by which nothing is found but what is within reach. -/
def Admits (reach : Reach vocabulary) : (request : Request vocabulary) → request.Answer → Prop
  | .tree, found => found.Within reach
  | .mind, found => reach.mind found
  | .surface, found => found.Within reach
  | _, _ => True

def SameAnswer : (request : Request vocabulary) → request.Answer → request.Answer → Prop
  | .pending, left, right => left.isSome = right.isSome
  | _, left, right => left = right

end Request

/-- A program that stays within reach, goes on in the same way whatever the handle of a pending
timer is, and has certain answers only. -/
def Program.Blind (reach : Reach vocabulary) (answers : α → Prop) : Program vocabulary α → Prop
  | .pure answer => answers answer
  | .ask request next =>
      request.Within reach ∧
        (∀ left right, request.SameAnswer left right → next left = next right) ∧
        ∀ answer, request.Admits reach answer → (next answer).Blind reach answers

namespace Program.Blind

theorem bind {first : Program vocabulary α} {next : α → Program vocabulary β} {middle : α → Prop}
    {answers : β → Prop} (begun : first.Blind reach middle)
    (rest : ∀ answer, middle answer → (next answer).Blind reach answers) :
    (first >>= next).Blind reach answers := by
  induction first with
  | pure answer => exact rest answer begun
  | ask request after ih =>
      obtain ⟨within, same, blind⟩ := begun
      refine ⟨within, ?_, ?_⟩
      · intro left right alike
        exact congrArg (· >>= next) (same left right alike)
      · intro answer admitted
        exact ih answer (blind answer admitted)

theorem request {request : Request vocabulary} (within : request.Within reach)
    (clear : ∀ left right, request.SameAnswer left right → left = right) :
    (Program.request request).Blind reach (request.Admits reach) := by
  refine ⟨within, ?_, ?_⟩
  · intro left right alike
    exact congrArg Program.pure (clear left right alike)
  · intro answer admitted
    exact admitted

variable {answers : α → Prop}

private theorem ofMind {next : Mind vocabulary → Program vocabulary α}
    (rest : ∀ mind, reach.mind mind → (next mind).Blind reach answers) :
    (Program.ask .mind next).Blind reach answers :=
  ⟨trivial, fun _ _ same => congrArg next same, rest⟩

private theorem withMind {mind : Mind vocabulary} {next : Unit → Program vocabulary α}
    (kept : reach.mind mind) (rest : (next ()).Blind reach answers) :
    (Program.ask (.setMind mind) next).Blind reach answers :=
  ⟨kept, fun _ _ _ => rfl, fun _ _ => rest⟩

private theorem fail (fault : Fault) :
    (Program.fail fault : Program vocabulary α).Blind reach answers :=
  ⟨trivial, fun left => left.elim, fun answer => answer.elim⟩

theorem ofExcept {outcome : Except Fault α}
    (sound : ∀ answer, outcome = .ok answer → answers answer) :
    (Program.ofExcept outcome : Program vocabulary α).Blind reach answers := by
  cases outcome with
  | ok answer => exact sound answer rfl
  | error fault => exact fail fault

theorem read (look : Mind vocabulary → α) : (Program.read look).Blind reach fun _ => True :=
  ofMind fun _ _ => trivial

theorem change {update : Mind vocabulary → Mind vocabulary}
    (kept : ∀ mind, reach.mind mind → reach.mind (update mind)) :
    (Program.change update).Blind reach fun _ => True :=
  ofMind fun mind within => withMind (kept mind within) trivial

theorem changeReading {update : Mind vocabulary → α × Mind vocabulary}
    (kept : ∀ mind, reach.mind mind → reach.mind (update mind).2) :
    (Program.changeReading update).Blind reach fun _ => True :=
  ofMind fun mind within => withMind (kept mind within) trivial

theorem draw {sample : StateT Generator (Except Fault) α}
    (kept : ∀ mind generator, reach.mind mind → reach.mind { mind with generator }) :
    (Program.draw sample : Program vocabulary α).Blind reach fun _ => True := by
  refine ofMind fun mind within => ?_
  cases sample mind.generator with
  | ok drawn => exact withMind (kept mind drawn.2 within) trivial
  | error fault => exact fail fault

end Program.Blind

namespace Repertoire

structure Blind (repertoire : Repertoire vocabulary) (reach : Reach vocabulary) : Prop where
  receive (message : String) (mind : Mind vocabulary) (agent : vocabulary.State) :
    reach.mind mind → (repertoire.receive message mind.agent).outcome = .ok agent →
      reach.mind { mind with agent }
  condition (condition : vocabulary.Condition) :
    reach.condition condition → (repertoire.condition condition).Blind reach fun _ => True
  action (action : vocabulary.Action) :
    reach.action action → (repertoire.action action).Blind reach fun _ => True
  response (response : vocabulary.Response) (payload : vocabulary.Payload) :
    reach.response response → reach.payload payload →
      (repertoire.response response payload).Blind reach fun _ => True

namespace Blind

variable {repertoire : Repertoire vocabulary}

private theorem noteVisit (depth index : Nat) (matched : Bool) :
    (Repertoire.noteVisit depth index matched : Program vocabulary Unit).Blind reach
      fun _ => True :=
  .bind (.request trivial fun _ _ same => same) fun _ _ =>
    .request trivial fun _ _ same => same

private theorem prepare (blind : repertoire.Blind reach) {action : Option vocabulary.Action}
    (within : ∀ named ∈ action, reach.action named) :
    (repertoire.walker.prepare action).Blind reach fun _ => True := by
  cases action with
  | none => exact trivial
  | some named => exact blind.action named (within named rfl)

private theorem matched (blind : repertoire.Blind reach) {condition : Option vocabulary.Condition}
    (within : ∀ named ∈ condition, reach.condition named) :
    (repertoire.walker.matched condition).Blind reach fun _ => True := by
  cases condition with
  | none => exact trivial
  | some named => exact blind.condition named (within named rfl)

private theorem armIf (repertoire : Repertoire vocabulary) (delay : Option Span) :
    (repertoire.walker.armIf delay).Blind reach fun _ => True := by
  cases delay with
  | none => exact trivial
  | some delay => exact .request trivial fun _ _ same => same

mutual

private theorem visit (blind : repertoire.Blind reach) (depth index : Nat) :
    (rule : Rule vocabulary) → rule.Within reach →
      (repertoire.walker.visit depth index rule).Blind reach
        fun chosen => ∀ action ∈ chosen, reach.action action
  | ⟨precheck, condition, onMatch, behaviour, reconsiderAfter, whenTrue, whenFalse⟩, within => by
      rw [Rule.Within] at within
      obtain ⟨first, question, second, deed, truthy, falsy⟩ := within
      unfold Walker.visit
      refine .bind (blind.prepare first) fun _ _ => .bind (blind.matched question) fun holds _ =>
        .bind (noteVisit depth index holds) fun _ _ => ?_
      cases holds with
      | false => exact walkFrom blind (depth + 1) 0 whenFalse falsy
      | true =>
          refine .bind (blind.prepare second) fun _ _ => ?_
          cases behaviour with
          | none => exact walkFrom blind (depth + 1) 0 whenTrue truthy
          | some chosen => exact .bind (armIf repertoire _) fun _ _ => deed

private theorem walkFrom (blind : repertoire.Blind reach) (depth index : Nat) :
    (rules : List (Rule vocabulary)) → Rule.AllWithin reach rules →
      (repertoire.walker.walkFrom depth index rules).Blind reach
        fun chosen => ∀ action ∈ chosen, reach.action action
  | [], _ => by
      rw [Walker.walkFrom]
      exact nofun
  | rule :: rules, within => by
      rw [Rule.AllWithin] at within
      rw [Walker.walkFrom]
      refine .bind (visit blind depth index rule within.1) fun chosen named => ?_
      cases chosen with
      | none => exact walkFrom blind depth (index + 1) rules within.2
      | some action => exact named

end

/-- A walk over a tree within reach is blind, and chooses a behaviour within reach. -/
theorem evaluate (blind : repertoire.Blind reach) {tree : PriorityTree vocabulary}
    (within : tree.Within reach) :
    (repertoire.evaluate tree.rules).Blind reach
      fun chosen => ∀ action ∈ chosen, reach.action action :=
  blind.walkFrom 0 0 tree.rules within

theorem handle (blind : repertoire.Blind reach) {handler : Handler vocabulary}
    {payload : vocabulary.Payload} (within : handler.Within reach)
    (brought : reach.payload payload) :
    (repertoire.handle handler payload).Blind reach fun _ => True := by
  induction handler with
  | respond response => exact blind.response response payload within brought
  | release => exact .request trivial fun _ _ same => same
  | releaseThen next ih =>
      exact .bind (.request trivial fun _ _ same => same) fun _ _ => ih within

end Blind

end Repertoire

end PriorityAgents
