import PriorityAgents.Patrol.Rules
import PriorityAgents.Proofs.Controller.Watch

/-!
Walks over rules that are put together in different ways.

To walk a list of rules is to walk its first part and then, if that has chosen nothing, the rest,
from wherever the first part has left things. So it makes no difference whether rules stand among
others or are kept as the branch of a rule that asks and does nothing of its own, at whatever depth.
What does differ is told: each rule that is looked at is noted down with its depth and position.
Equations are therefore stated for a walk that notes nothing down, and hold of every walk once those
notes are passed over.
-/

set_option autoImplicit false

namespace PriorityAgents

variable {vocabulary : Vocabulary}

/-! ### Rules in groups -/

/-- A rule that does nothing and asks nothing, and has no behaviour. Its branch for the case that
its condition fails is never looked at, nor its delay. -/
structure Rule.IsGroup (rule : Rule vocabulary) : Prop where
  precheck : rule.precheck = none
  condition : rule.condition = none
  onMatch : rule.onMatch = none
  behaviour : rule.behaviour = none

/-- The same rules in other groups. A group may be opened where it stands, in any branch. -/
inductive Regrouped : List (Rule vocabulary) → List (Rule vocabulary) → Prop
  | refl (rules : List (Rule vocabulary)) : Regrouped rules rules
  | symm {left right : List (Rule vocabulary)} (same : Regrouped left right) : Regrouped right left
  | trans {left middle right : List (Rule vocabulary)} (first : Regrouped left middle)
      (second : Regrouped middle right) : Regrouped left right
  | opened {rule : Rule vocabulary} (group : rule.IsGroup) (before after : List (Rule vocabulary)) :
      Regrouped (before ++ rule :: after) (before ++ (rule.whenTrue ++ after))
  | whenTrue {left right : List (Rule vocabulary)} (same : Regrouped left right)
      (rule : Rule vocabulary) (before after : List (Rule vocabulary)) :
      Regrouped (before ++ { rule with whenTrue := left } :: after)
        (before ++ { rule with whenTrue := right } :: after)
  | whenFalse {left right : List (Rule vocabulary)} (same : Regrouped left right)
      (rule : Rule vocabulary) (before after : List (Rule vocabulary)) :
      Regrouped (before ++ { rule with whenFalse := left } :: after)
        (before ++ { rule with whenFalse := right } :: after)

/-! ### Walks that note nothing down -/

namespace Walker

variable {computation : Type → Type} [Monad computation]

def orElse (further : computation (Option vocabulary.Action)) :
    Option vocabulary.Action → computation (Option vocabulary.Action)
  | some chosen => pure (some chosen)
  | none => further

def quiet (walker : Walker vocabulary computation) : Walker vocabulary computation :=
  { walker with visited := fun _ _ _ => pure () }

theorem walkFrom_cons (walker : Walker vocabulary computation) (depth index : Nat)
    (rule : Rule vocabulary) (rules : List (Rule vocabulary)) :
    walker.walkFrom depth index (rule :: rules) =
      walker.visit depth index rule >>= orElse (walker.walkFrom depth (index + 1) rules) := by
  rw [walkFrom]
  refine congrArg _ (funext fun chosen => ?_)
  cases chosen <;> rfl

private theorem quiet_walkFrom (walker : Walker vocabulary computation) (depth index : Nat)
    (rules : List (Rule vocabulary)) :
    walker.quiet.walkFrom depth index rules = walker.quiet.walk rules := by
  unfold walk
  induction rules using Rule.branchInduction generalizing depth index with
  | nil => rw [walkFrom, walkFrom]
  | cons rule rules ihTrue ihFalse ih =>
      rw [walkFrom_cons, walkFrom_cons, ih depth (index + 1), ih 0 (0 + 1), visit_eq, visit_eq,
        ihTrue (depth + 1) 0, ihTrue (0 + 1) 0, ihFalse (depth + 1) 0, ihFalse (0 + 1) 0]
      rfl

theorem quiet_walk_cons (walker : Walker vocabulary computation) (rule : Rule vocabulary)
    (rules : List (Rule vocabulary)) :
    walker.quiet.walk (rule :: rules) =
      walker.quiet.visit 0 0 rule >>= orElse (walker.quiet.walk rules) := by
  rw [walk, walkFrom_cons, quiet_walkFrom]

variable [LawfulMonad computation]

theorem orElse_bind (further last : computation (Option vocabulary.Action))
    (chosen : Option vocabulary.Action) :
    orElse further chosen >>= orElse last = orElse (further >>= orElse last) chosen := by
  cases chosen with
  | none => rfl
  | some behaviour => exact pure_bind _ _

theorem walkFrom_append (walker : Walker vocabulary computation) (depth index : Nat)
    (first second : List (Rule vocabulary)) :
    walker.walkFrom depth index (first ++ second) =
      walker.walkFrom depth index first >>=
        orElse (walker.walkFrom depth (index + first.length) second) := by
  induction first generalizing index with
  | nil =>
      rw [walkFrom, pure_bind]
      rfl
  | cons rule first ih =>
      have position : index + 1 + first.length = index + (rule :: first).length := by
        rw [List.length_cons]
        omega
      rw [List.cons_append, walkFrom_cons, walkFrom_cons, ih, bind_assoc, position]
      exact congrArg _ (funext fun chosen => (orElse_bind _ _ chosen).symm)

theorem quiet_walk_append (walker : Walker vocabulary computation)
    (first second : List (Rule vocabulary)) :
    walker.quiet.walk (first ++ second) =
      walker.quiet.walk first >>= orElse (walker.quiet.walk second) := by
  rw [walk, walkFrom_append, quiet_walkFrom, quiet_walkFrom]

private theorem quiet_visit (walker : Walker vocabulary computation) (rule : Rule vocabulary) :
    walker.quiet.visit 0 0 rule = (do
      walker.prepare rule.precheck
      let holds ← walker.matched rule.condition
      if holds then do
        walker.prepare rule.onMatch
        match rule.behaviour with
        | some chosen => do
            walker.armIf (Rule.armedDelay rule.reconsiderAfter)
            pure (some chosen)
        | none => walker.quiet.walk rule.whenTrue
      else walker.quiet.walk rule.whenFalse) := by
  rw [visit_eq, quiet_walkFrom, quiet_walkFrom]
  refine congrArg _ (funext fun _ => congrArg _ (funext fun holds => ?_))
  exact pure_bind _ _

private theorem quiet_visit_group (walker : Walker vocabulary computation) {rule : Rule vocabulary}
    (group : rule.IsGroup) : walker.quiet.visit 0 0 rule = walker.quiet.walk rule.whenTrue := by
  rw [quiet_visit, group.precheck, group.condition, group.onMatch, group.behaviour]
  simp only [prepare, matched, pure_bind, if_true]

private theorem quiet_walk_replace (walker : Walker vocabulary computation)
    {rule other : Rule vocabulary}
    (same : walker.quiet.visit 0 0 rule = walker.quiet.visit 0 0 other)
    (before after : List (Rule vocabulary)) :
    walker.quiet.walk (before ++ rule :: after) = walker.quiet.walk (before ++ other :: after) := by
  rw [quiet_walk_append, quiet_walk_append, quiet_walk_cons, quiet_walk_cons, same]

/-- Rules do the same in whatever groups they stand. -/
theorem quiet_walk_regrouped (walker : Walker vocabulary computation)
    {left right : List (Rule vocabulary)} (regrouped : Regrouped left right) :
    walker.quiet.walk left = walker.quiet.walk right := by
  induction regrouped with
  | refl rules => rfl
  | symm same ih => exact ih.symm
  | trans first second ihFirst ihSecond => exact ihFirst.trans ihSecond
  | opened group before after =>
      rw [quiet_walk_append, walker.quiet_walk_append before, quiet_walk_cons, quiet_walk_append,
        walker.quiet_visit_group group]
  | whenTrue same rule before after ih =>
      refine walker.quiet_walk_replace ?_ before after
      rw [quiet_visit, quiet_visit, ih]
  | whenFalse same rule before after ih =>
      refine walker.quiet_walk_replace ?_ before after
      rw [quiet_visit, quiet_visit, ih]

end Walker

/-! ### Walks whose notes are passed over -/

def Entry.isVisit : Entry → Bool
  | .told record => record.severity = .trace ∧ record.message = "rule evaluated"
  | _ => false

def Entry.unlessVisit (entry : Entry) : Option Entry :=
  if entry.isVisit then none else some entry

variable {α β : Type}

/-- What is left of an operation when the notes of walks are struck out of its journal. -/
def Logged.untraced (logged : Logged α) : Logged α := logged.reading Entry.unlessVisit

@[simp] theorem Logged.outcome_untraced (logged : Logged α) :
    logged.untraced.outcome = logged.outcome := rfl

namespace Repertoire

variable (repertoire : Repertoire vocabulary)

/-- Two programs that do the same, but for the notes of walks. -/
def Untold (left right : Program vocabulary α) : Prop :=
  ∀ context : Context vocabulary,
    (context.run repertoire left).untraced = (context.run repertoire right).untraced

theorem untraced_run_bind (context : Context vocabulary) (program : Program vocabulary α)
    (next : α → Program vocabulary β) :
    (context.run repertoire (program >>= next)).untraced =
      (context.run repertoire program).untraced >>= fun reached =>
        (reached.2.run repertoire (next reached.1)).untraced := by
  rw [Context.run_bind]
  exact Journaled.reading_bind _ _ _

namespace Untold

variable {repertoire} {left right : Program vocabulary α}

theorem refl (program : Program vocabulary α) : repertoire.Untold program program := fun _ => rfl

theorem bind {next other : α → Program vocabulary β} (same : repertoire.Untold left right)
    (further : ∀ answer, repertoire.Untold (next answer) (other answer)) :
    repertoire.Untold (left >>= next) (right >>= other) := by
  intro context
  rw [untraced_run_bind, untraced_run_bind, same context]
  exact congrArg _ (funext fun reached => further reached.1 reached.2)

end Untold

private theorem untold_noteVisit (depth index : Nat) (isMatch : Bool) :
    repertoire.Untold (noteVisit depth index isMatch) (pure ()) :=
  fun _ => rfl

private theorem untold_walkFrom (depth index : Nat) (rules : List (Rule vocabulary)) :
    repertoire.Untold (repertoire.walker.walkFrom depth index rules)
      (repertoire.walker.quiet.walkFrom depth index rules) := by
  induction rules using Rule.branchInduction generalizing depth index with
  | nil =>
      rw [Walker.walkFrom, Walker.walkFrom]
      exact .refl _
  | cons rule rules ihTrue ihFalse ih =>
      rw [Walker.walkFrom_cons, Walker.walkFrom_cons, Walker.visit_eq, Walker.visit_eq]
      refine .bind (.bind (.refl _) fun _ => .bind (.refl _) fun isMatch =>
        .bind (repertoire.untold_noteVisit depth index isMatch) fun _ => ?_) fun chosen => ?_
      · cases isMatch with
        | false => exact ihFalse (depth + 1) 0
        | true =>
            refine .bind (.refl _) fun _ => ?_
            cases rule.behaviour with
            | none => exact ihTrue (depth + 1) 0
            | some chosen => exact .refl _
      · cases chosen with
        | none => exact ih depth (index + 1)
        | some chosen => exact .refl _

private theorem untold_evaluate (rules : List (Rule vocabulary)) :
    repertoire.Untold (repertoire.evaluate rules) (repertoire.walker.quiet.walk rules) :=
  repertoire.untold_walkFrom 0 0 rules

/-- To walk a list of rules is to walk its first part and, where that chooses nothing, the rest from
what the first part has left; and rules may be grouped as one likes, in any branch. The answers, the
controllers and timers that are left, the faults, and all that is entered but the notes of the walks
themselves are the same. -/
theorem evaluate_composes (context : Context vocabulary) :
    (∀ first second,
      (context.run repertoire (repertoire.evaluate (first ++ second))).untraced =
        Logged.untraced (do
          let (chosen, later) ← context.run repertoire (repertoire.evaluate first)
          match chosen with
          | some behaviour => pure (some behaviour, later)
          | none => later.run repertoire (repertoire.evaluate second))) ∧
      ∀ left right, Regrouped left right →
        (context.run repertoire (repertoire.evaluate left)).untraced =
          (context.run repertoire (repertoire.evaluate right)).untraced := by
  constructor
  · intro first second
    rw [repertoire.untold_evaluate, Walker.quiet_walk_append, untraced_run_bind,
      ← repertoire.untold_evaluate first context]
    refine Eq.trans (congrArg _ (funext fun reached => ?_))
      (Journaled.reading_bind Entry.unlessVisit _ _).symm
    obtain ⟨chosen, later⟩ := reached
    cases chosen with
    | none => exact (repertoire.untold_evaluate second later).symm
    | some behaviour => rfl
  · intro left right regrouped
    rw [repertoire.untold_evaluate, repertoire.untold_evaluate,
      repertoire.walker.quiet_walk_regrouped regrouped]

/-- A ship at ease and low on fuel, whose rule for that stands in a group within a group within the
branch for the case that it is not under attack. -/
theorem evaluate_composes_patrol :
    let refuel : Rule Patrol.ships :=
      { Rule.blank with
        condition := some Patrol.Condition.isLowOnFuel
        behaviour := some Patrol.Deed.dock }
    let asking : Rule Patrol.ships :=
      { Rule.blank with
        condition := some Patrol.Condition.isUnderAttack
        whenTrue := [Rule.fallback Patrol.Deed.engage] }
    let rules (calm : List (Rule Patrol.ships)) : List (Rule Patrol.ships) :=
      [{ asking with whenFalse := calm }, Rule.fallback Patrol.Deed.patrol]
    let group (rules : List (Rule Patrol.ships)) : Rule Patrol.ships :=
      { Rule.blank with whenTrue := rules }
    let grouped := rules [group [group [refuel]]]
    let flat := rules [refuel]
    ∃ timers later, TimerQueue.start 100 = .ok timers ∧
      let context : Context Patrol.ships :=
        { controller := .start ⟨0, by decide⟩ "patrol" { Patrol.Ship.fresh "Ada" with fuel := 20 } 7
            (Patrol.seconds 1)
          timers }
      Regrouped grouped flat ∧
        (context.run Patrol.repertoire (Patrol.repertoire.evaluate grouped)).outcome =
          .ok (some .dock, later) ∧
        (context.run Patrol.repertoire (Patrol.repertoire.evaluate flat)).outcome =
          .ok (some .dock, later) := by
  intro refuel asking rules group grouped flat
  obtain ⟨timers, started, facts⟩ : ∃ timers, TimerQueue.start 100 = .ok timers ∧
      (((Context.mk (.start ⟨0, by decide⟩ "patrol" { Patrol.Ship.fresh "Ada" with fuel := 20 } 7
          (Patrol.seconds 1)) timers).run Patrol.repertoire
            (Patrol.repertoire.evaluate grouped)).outcome.toOption.any fun reached =>
              reached.1 = some Patrol.Deed.dock) = true :=
    exists_ok (by decide +kernel)
  obtain ⟨⟨chosen, later⟩, outcome, docks⟩ := exists_ok facts
  obtain rfl := of_decide_eq_true docks
  have outer : Regrouped [group [group [refuel]]] [group [refuel]] :=
    .opened ⟨rfl, rfl, rfl, rfl⟩ [] []
  have inner : Regrouped [group [refuel]] [refuel] := .opened ⟨rfl, rfl, rfl, rfl⟩ [] []
  have regrouped : Regrouped grouped flat :=
    .whenFalse (outer.trans inner) asking [] [Rule.fallback Patrol.Deed.patrol]
  refine ⟨timers, later, started, ?_⟩
  intro context
  refine ⟨regrouped, outcome, ?_⟩
  have same := (Patrol.repertoire.evaluate_composes context).2 grouped flat regrouped
  have ends := congrArg Journaled.outcome same
  rw [Logged.outcome_untraced, Logged.outcome_untraced] at ends
  rw [← ends, outcome]

end Repertoire

end PriorityAgents
