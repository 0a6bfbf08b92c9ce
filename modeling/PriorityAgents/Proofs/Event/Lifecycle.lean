import Mathlib.Data.List.Induction
import PriorityAgents.Event.Surface
import PriorityAgents.Patrol.Ship

/-!
The life of a binding: which handler an event meets, read off everything that was ever done to a
surface.

The set that was put in place last decides which names are active. What is bound to a name is what
the last operation that touches the name has left there, and an operation that puts sets in place
or takes them away also touches the names of the set before it.
-/

set_option autoImplicit false

namespace PriorityAgents

variable {vocabulary : Vocabulary}

namespace HandlerSet

theorem mem_names {set : HandlerSet vocabulary} {name : EventName} :
    name ∈ set.names ↔ (set.get? name).isSome = true := by
  unfold names get?
  rw [Std.ExtTreeMap.mem_keys, Std.ExtTreeMap.isSome_getElem?_eq_contains,
    Std.ExtTreeMap.contains_iff_mem]

/-- What is put in place for a set at the event that takes an agent out of its world. -/
def farewell (set : HandlerSet vocabulary) : Handler vocabulary :=
  match set.get? .entityDestroyed with
  | some supplied => .releaseThen supplied
  | none => .release

theorem get?_withRelease (set : HandlerSet vocabulary) (name : EventName) :
    set.withRelease.get? name =
      if name = .entityDestroyed then some set.farewell else set.get? name := by
  change (set.insert .entityDestroyed set.farewell).get? name = _
  rw [get?_insert]
  simp only [eq_comm (a := name)]

end HandlerSet

inductive SurfaceOperation (vocabulary : Vocabulary) where
  | bind (name : EventName) (handler : Handler vocabulary)
  | unbind (name : EventName)
  | install (set : HandlerSet vocabulary)
  | uninstall

namespace SurfaceOperation

def apply (surface : EventSurface vocabulary) :
    SurfaceOperation vocabulary → EventSurface vocabulary
  | .bind name handler => surface.bind name handler
  | .unbind name => surface.unbind name
  | .install set => surface.install set
  | .uninstall => surface.uninstall

/-- Whether an operation decides which names are active from then on. -/
def changesSet : SurfaceOperation vocabulary → Bool
  | .install _ | .uninstall => true
  | .bind _ _ | .unbind _ => false

/-- Whether an operation is about the binding of one name, and of which. -/
def direct? : SurfaceOperation vocabulary → Option EventName
  | .bind name _ | .unbind name => some name
  | .install _ | .uninstall => none

def leaves (name : EventName) : SurfaceOperation vocabulary → Option (Handler vocabulary)
  | .bind _ handler => some handler
  | .install set => if name = .entityDestroyed then some set.farewell else set.get? name
  | .unbind _ | .uninstall => none

end SurfaceOperation

abbrev SurfaceHistory (vocabulary : Vocabulary) : Type := List (SurfaceOperation vocabulary)

namespace SurfaceHistory

def outcome (history : SurfaceHistory vocabulary) : EventSurface vocabulary :=
  history.foldl SurfaceOperation.apply .empty

/-- The last set was put in place, not taken away, and a name is part of it. -/
def Active (history : SurfaceHistory vocabulary) (name : EventName) : Prop :=
  ∃ set, (history.filter SurfaceOperation.changesSet).getLast? = some (.install set) ∧
    (name ∈ set.names ∨ name = .entityDestroyed)

/-- Whether an operation that follows a history decides what is bound to a name. -/
def Touches (history : SurfaceHistory vocabulary) (name : EventName) :
    SurfaceOperation vocabulary → Prop
  | .bind other _ | .unbind other => other = name
  | .install set => name ∈ set.names ∨ name = .entityDestroyed ∨ history.Active name
  | .uninstall => history.Active name

def Untouched (history later : SurfaceHistory vocabulary) (name : EventName) : Prop :=
  ∀ before operation after, later = before ++ operation :: after →
    ¬Touches (history ++ before) name operation

variable {history earlier later : SurfaceHistory vocabulary} {name : EventName}
  {operation : SurfaceOperation vocabulary}

theorem outcome_append_singleton (history : SurfaceHistory vocabulary)
    (operation : SurfaceOperation vocabulary) :
    outcome (history ++ [operation]) = operation.apply history.outcome := by
  unfold outcome
  rw [List.foldl_append]
  rfl

private theorem active_append_direct (direct : operation.changesSet = false) :
    Active (history ++ [operation]) name ↔ history.Active name := by
  unfold Active
  rw [List.filter_append, List.filter_cons_of_neg (by simp [direct]), List.filter_nil,
    List.append_nil]

private theorem active_append_install (set : HandlerSet vocabulary) :
    Active (history ++ [.install set]) name ↔ name ∈ set.names ∨ name = .entityDestroyed := by
  unfold Active
  rw [List.filter_append, List.filter_cons_of_pos rfl, List.filter_nil, List.getLast?_concat]
  constructor
  · intro given
    obtain ⟨other, same, part⟩ := given
    cases same
    exact part
  · intro part
    exact ⟨set, rfl, part⟩

private theorem not_active_append_uninstall : ¬Active (history ++ [.uninstall]) name := by
  unfold Active
  rw [List.filter_append, List.filter_cons_of_pos rfl, List.filter_nil, List.getLast?_concat]
  intro given
  obtain ⟨_, impossible, _⟩ := given
  cases impossible

private theorem isActive_outcome (history : SurfaceHistory vocabulary) (name : EventName) :
    history.outcome.isActive name = true ↔ history.Active name := by
  induction history using List.reverseRecOn with
  | nil =>
      constructor
      · intro impossible
        exact absurd impossible (by simp [outcome, EventSurface.empty, EventSurface.isActive])
      · intro given
        obtain ⟨_, impossible, _⟩ := given
        cases impossible
  | append_singleton history operation ih =>
      rw [outcome_append_singleton]
      cases operation with
      | bind other handler =>
          rw [active_append_direct rfl]
          exact ih
      | unbind other =>
          rw [active_append_direct rfl]
          exact ih
      | install set =>
          rw [active_append_install]
          change ((outcome history).install set).isActive name = true ↔ _
          rw [EventSurface.isActive_install, HandlerSet.mem_names]
          have contained : set.withRelease.contains name =
              (set.withRelease.get? name).isSome :=
            Std.ExtTreeMap.isSome_getElem?_eq_contains.symm
          rw [contained, HandlerSet.get?_withRelease]
          by_cases farewell : name = .entityDestroyed
          · simp [farewell]
          · simp [farewell]
      | uninstall =>
          refine iff_of_false ?_ not_active_append_uninstall
          change ¬(outcome history).uninstall.isActive name = true
          rw [EventSurface.isActive_uninstall]
          exact Bool.false_ne_true

/-- One more operation leaves something of its own at the names that it touches, and every other
name as it was. -/
theorem handler?_append_singleton (history : SurfaceHistory vocabulary)
    (operation : SurfaceOperation vocabulary) (name : EventName) :
    (history.Touches name operation →
        (outcome (history ++ [operation])).handler? name = operation.leaves name) ∧
      (¬history.Touches name operation →
        (outcome (history ++ [operation])).handler? name = history.outcome.handler? name) := by
  rw [outcome_append_singleton]
  cases operation with
  | bind other handler =>
      change (other = name → (history.outcome.bind other handler).handler? name = _) ∧
        (¬other = name → (history.outcome.bind other handler).handler? name = _)
      rw [EventSurface.handler?_bind]
      exact ⟨fun same => if_pos same, fun different => if_neg different⟩
  | unbind other =>
      change (other = name → (history.outcome.unbind other).handler? name = _) ∧
        (¬other = name → (history.outcome.unbind other).handler? name = _)
      rw [EventSurface.handler?_unbind]
      exact ⟨fun same => if_pos same, fun different => if_neg different⟩
  | uninstall =>
      change (history.Active name → history.outcome.uninstall.handler? name = _) ∧
        (¬history.Active name → history.outcome.uninstall.handler? name = _)
      rw [EventSurface.handler?_uninstall, ← isActive_outcome]
      exact ⟨fun active => if_pos active, fun inactive => if_neg inactive⟩
  | install set =>
      have after : (SurfaceOperation.apply history.outcome (.install set)).handler? name =
          (if name = .entityDestroyed then some set.farewell else set.get? name).or
            (if history.outcome.isActive name then none else history.outcome.handler? name) := by
        change (history.outcome.install set).handler? name = _
        rw [EventSurface.handler?_install, HandlerSet.get?_withRelease,
          EventSurface.handler?_uninstall]
      rw [after]
      simp only [Touches, SurfaceOperation.leaves, HandlerSet.mem_names, ← isActive_outcome]
      by_cases farewell : name = .entityDestroyed
      · simp [farewell]
      · cases supplied : set.get? name with
        | some handler => simp [farewell]
        | none =>
            cases active : history.outcome.isActive name with
            | true => simp [farewell]
            | false => simp [farewell]

private theorem handler?_of_untouched (untouched : Untouched history later name) :
    (outcome (history ++ later)).handler? name = history.outcome.handler? name := by
  induction later using List.reverseRecOn with
  | nil => rw [List.append_nil]
  | append_singleton later operation ih =>
      rw [← List.append_assoc]
      have last := untouched later operation [] rfl
      rw [(handler?_append_singleton _ operation name).2 last]
      apply ih
      intro before inner after split
      exact untouched before inner (after ++ [operation]) (by rw [split]; simp)

/-- What a history tells of a surface that was empty at its beginning. -/
structure Explains (history : SurfaceHistory vocabulary) (surface : EventSurface vocabulary) :
    Prop where
  active (name : EventName) : surface.isActive name = true ↔ history.Active name
  /-- The last operation that touches a name decides what is bound to it. -/
  touched (earlier : SurfaceHistory vocabulary) (operation : SurfaceOperation vocabulary)
    (later : SurfaceHistory vocabulary) (name : EventName) :
    history = earlier ++ operation :: later → Touches earlier name operation →
      Untouched (earlier ++ [operation]) later name →
        surface.handler? name = operation.leaves name
  untouched (name : EventName) : Untouched [] history name → surface.handler? name = none
  /-- Of what a set has put in place, the next set leaves nothing but what it has itself. -/
  superseded (earlier between : SurfaceHistory vocabulary) (old new : HandlerSet vocabulary)
    (name : EventName) :
    history = earlier ++ .install old :: (between ++ [.install new]) →
      (∀ operation ∈ between, operation.changesSet = false) →
        name ∈ old.names ∨ name = .entityDestroyed →
          surface.handler? name = SurfaceOperation.leaves name (.install new)
  /-- A name that no set has is bound as it was bound directly. -/
  undisturbed (earlier later : SurfaceHistory vocabulary) (name : EventName)
    (handler : Handler vocabulary) :
    history = earlier ++ .bind name handler :: later → name ≠ .entityDestroyed →
      (∀ set, .install set ∈ history → name ∉ set.names) →
        (∀ operation ∈ later, operation.direct? ≠ some name) →
          surface.handler? name = some handler

private theorem active_of_superseded {old : HandlerSet vocabulary}
    (between : ∀ operation ∈ later, operation.changesSet = false)
    (part : name ∈ old.names ∨ name = .entityDestroyed) :
    Active (earlier ++ .install old :: later) name := by
  have none : later.filter SurfaceOperation.changesSet = [] := by
    rw [List.filter_eq_nil_iff]
    intro operation member
    rw [between operation member]
    exact Bool.false_ne_true
  refine ⟨old, ?_, part⟩
  rw [List.filter_append, List.filter_cons_of_pos rfl, none, List.getLast?_concat]

private theorem not_active_of_unmentioned (other : name ≠ .entityDestroyed)
    (unmentioned : ∀ set, .install set ∈ history → name ∉ set.names) : ¬history.Active name := by
  intro active
  obtain ⟨set, last, part⟩ := active
  have member : .install set ∈ history := (List.mem_filter.mp (List.mem_of_getLast? last)).1
  rcases part with named | farewell
  · exact unmentioned set member named
  · exact other farewell

/-- Whatever is done to a surface that was empty at first, its history explains it. -/
theorem explains_outcome (history : SurfaceHistory vocabulary) :
    history.Explains history.outcome := by
  have decided (earlier : SurfaceHistory vocabulary) (operation : SurfaceOperation vocabulary)
      (later : SurfaceHistory vocabulary) (name : EventName)
      (split : history = earlier ++ operation :: later)
      (touches : Touches earlier name operation)
      (rest : Untouched (earlier ++ [operation]) later name) :
      history.outcome.handler? name = operation.leaves name := by
    rw [split, List.append_cons, handler?_of_untouched rest]
    exact (handler?_append_singleton earlier operation name).1 touches
  refine
    { active := isActive_outcome history
      touched := decided
      untouched := ?_
      superseded := ?_
      undisturbed := ?_ }
  · intro name untouched
    exact (handler?_of_untouched untouched).trans Std.ExtTreeMap.getElem?_empty
  · intro earlier between old new name split single part
    refine decided (earlier ++ .install old :: between) (.install new) [] name ?_ ?_ ?_
    · rw [split, List.append_assoc]
      rfl
    · exact .inr (.inr (active_of_superseded single part))
    · intro before operation after impossible
      exact absurd impossible (by simp)
  · intro earlier later name handler split other unmentioned aside
    refine decided earlier (.bind name handler) later name split rfl ?_
    intro before operation after inner touches
    have inactive : ¬Active ((earlier ++ [.bind name handler]) ++ before) name := by
      refine not_active_of_unmentioned other fun set member => unmentioned set ?_
      rw [split, inner, List.append_cons, ← List.append_assoc]
      exact List.mem_append_left _ member
    have member : operation ∈ later := inner ▸ List.mem_append_right _ List.mem_cons_self
    cases operation with
    | bind another _ => exact aside _ member (congrArg some touches)
    | unbind another => exact aside _ member (congrArg some touches)
    | install set =>
        have installed : .install set ∈ history :=
          split ▸ List.mem_append_right _ (List.mem_cons_of_mem _ member)
        rcases touches with named | farewell | active
        · exact unmentioned set installed named
        · exact other farewell
        · exact inactive active
    | uninstall => exact inactive touches

/-- A set without a handler for its agent's end leaves one there all the same: the one that calls
off what is pending. -/
theorem release_of_install_empty :
    let set : HandlerSet Patrol.ships := .empty
    EventName.entityDestroyed ∉ set.names ∧
      Touches [] .entityDestroyed (.install set) ∧
      ¬(outcome [.install set]).handler? .entityDestroyed = none := by
  intro set
  have touches : Touches [] .entityDestroyed (.install set) := .inr (.inl rfl)
  have left := (handler?_append_singleton [] (.install set) .entityDestroyed).1 touches
  refine ⟨by decide, touches, ?_⟩
  rw [← List.nil_append [SurfaceOperation.install set], left]
  exact Option.some_ne_none _

end SurfaceHistory

end PriorityAgents
