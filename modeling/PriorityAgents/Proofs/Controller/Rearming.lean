import PriorityAgents.Proofs.Controller.Regrouping
import PriorityAgents.Proofs.Controller.Turn
import PriorityAgents.Proofs.Journal.Punctuality
import PriorityAgents.Proofs.Timer.Promptness

/-!
What a reconsideration leaves pending.

Callbacks may schedule and call off as they like while a tree is walked. The walk itself arms once
at most: the delay of the rule that is chosen, behind everything that its callbacks have done. So a
walk is the walk over the same rules without their delays, and then that one arming; the delays of
all the other rules might as well not be there.
-/

set_option autoImplicit false

namespace PriorityAgents

variable {vocabulary : Vocabulary}

/-! ### Rules without their delays -/

namespace Rule

mutual

/-- A rule without its delay and those of the rules in its branches. -/
def undelayed : Rule vocabulary → Rule vocabulary
  | ⟨precheck, condition, onMatch, behaviour, _, whenTrue, whenFalse⟩ =>
      { precheck
        condition
        onMatch
        behaviour
        reconsiderAfter := none
        whenTrue := allUndelayed whenTrue
        whenFalse := allUndelayed whenFalse }

def allUndelayed : List (Rule vocabulary) → List (Rule vocabulary)
  | [] => []
  | rule :: rules => undelayed rule :: allUndelayed rules

end

private theorem undelayed_eq (rule : Rule vocabulary) :
    rule.undelayed =
      { rule with
        reconsiderAfter := none
        whenTrue := allUndelayed rule.whenTrue
        whenFalse := allUndelayed rule.whenFalse } := by
  cases rule
  rw [undelayed]

/-- The delay that is armed if the rule at a place is chosen. -/
def delayAt (rules : List (Rule vocabulary)) (place : Place) : Option Span :=
  (at? rules place).bind fun rule => armedDelay rule.reconsiderAfter

end Rule

namespace Walker

variable {computation : Type → Type} [Monad computation]

def armChosen (walker : Walker vocabulary.placed computation) (delays : Place → Option Span) :
    Option vocabulary.placed.Action → computation (Option vocabulary.placed.Action)
  | none => pure none
  | some chosen => do
      walker.armIf (delays chosen.1.place)
      pure (some chosen)

variable [LawfulMonad computation] (walker : Walker vocabulary.placed computation)
  {delays : Place → Option Span} {seat : Place → Place} {depth index : Nat}
  {rule : Rule vocabulary}

private theorem armChosen_orElse (further : computation (Option vocabulary.placed.Action))
    (chosen : Option vocabulary.placed.Action) :
    walker.armChosen delays chosen >>= orElse (further >>= walker.armChosen delays) =
      orElse further chosen >>= walker.armChosen delays := by
  cases chosen with
  | none => exact pure_bind _ _
  | some chosen =>
      change (walker.armIf _ >>= fun _ => pure (some chosen)) >>= _ = pure (some chosen) >>= _
      rw [bind_assoc, pure_bind, pure_bind]
      rfl

private theorem visit_undelayed
    (own : delays (seat (.here index)) = Rule.armedDelay rule.reconsiderAfter)
    (inner : ∀ branch, walker.walkFrom (depth + 1) 0
        (Rule.allPlaced (fun place => seat (.within index branch place)) 0 (rule.branch branch)) =
      walker.walkFrom (depth + 1) 0 (Rule.allPlaced (fun place => seat (.within index branch place))
        0 (Rule.allUndelayed (rule.branch branch))) >>= walker.armChosen delays) :
    walker.visit depth index (rule.placed seat index) =
      walker.visit depth index (rule.undelayed.placed seat index) >>=
        walker.armChosen delays := by
  rw [Rule.placed_eq, Rule.placed_eq, visit_eq, visit_eq, Rule.undelayed_eq]
  simp only [bind_assoc]
  refine congrArg _ (funext fun _ => congrArg _ (funext fun holds =>
    congrArg _ (funext fun _ => ?_)))
  cases holds with
  | false => exact inner .whenFalse
  | true =>
      simp only [if_true, bind_assoc]
      refine congrArg _ (funext fun _ => ?_)
      cases rule.behaviour with
      | none => exact inner .whenTrue
      | some chosen =>
          change (walker.armIf (Rule.armedDelay rule.reconsiderAfter) >>= fun _ => _) =
            (pure PUnit.unit >>= fun _ => _) >>= walker.armChosen delays
          rw [pure_bind, pure_bind, ← own]
          rfl

/-- A walk over rules that know their places is the walk over the same rules without their delays,
and then the delay of the rule at the chosen place is armed. -/
theorem walkFrom_undelayed (rules : List (Rule vocabulary)) :
    ∀ (seat : Place → Place) (depth index : Nat) (all : List (Rule vocabulary)),
      all.drop index = rules →
      (∀ place, delays (seat place) = Rule.delayAt all place) →
      walker.walkFrom depth index (Rule.allPlaced seat index rules) =
        walker.walkFrom depth index (Rule.allPlaced seat index (Rule.allUndelayed rules)) >>=
          walker.armChosen delays := by
  -- Each branch has seats and siblings of its own, so the induction is for all of them at once.
  induction rules using Rule.branchInduction with
  | nil =>
      intro seat depth index all stretch told
      rw [Rule.allUndelayed, Rule.allPlaced, walkFrom, pure_bind]
      rfl
  | cons rule rules ihTrue ihFalse ih =>
      intro seat depth index all stretch told
      obtain ⟨found, behind⟩ := getElem?_of_drop stretch
      have own : delays (seat (.here index)) = Rule.armedDelay rule.reconsiderAfter := by
        rw [told, Rule.delayAt, Rule.at?, found, Option.bind_some]
      have within (branch : Branch) (place : Place) :
          delays (seat (.within index branch place)) =
            Rule.delayAt (rule.branch branch) place := by
        rw [told, Rule.delayAt, Rule.at?_within found]
        rfl
      have visited : walker.visit depth index (rule.placed seat index) =
          walker.visit depth index (rule.undelayed.placed seat index) >>=
            walker.armChosen delays := by
        refine walker.visit_undelayed own fun branch => ?_
        cases branch with
        | whenTrue => exact ihTrue _ (depth + 1) 0 rule.whenTrue rfl (within .whenTrue)
        | whenFalse => exact ihFalse _ (depth + 1) 0 rule.whenFalse rfl (within .whenFalse)
      rw [Rule.allUndelayed, Rule.allPlaced, Rule.allPlaced, walkFrom_cons, walkFrom_cons, visited,
        ih seat depth (index + 1) all behind told, bind_assoc, bind_assoc]
      exact congrArg _ (funext fun chosen => walker.armChosen_orElse _ chosen)

end Walker

/-! ### What the walk comes to -/

namespace Repertoire

variable (repertoire : Repertoire vocabulary)

private theorem watchedWalk_undelayed (rules : List (Rule vocabulary)) :
    repertoire.watchedWalk rules =
      repertoire.watchedWalk (Rule.allUndelayed rules) >>=
        repertoire.watcher.armChosen (Rule.delayAt rules) :=
  repertoire.watcher.walkFrom_undelayed rules id 0 0 rules rfl fun _ => rfl

private theorem stands_of_watchedWalk {rules : List (Rule vocabulary)}
    {context later : Context vocabulary} {callback : Callback} {behaviour : vocabulary.Action}
    {marks : List (Mark vocabulary)}
    (walked : (repertoire.watchedWalk rules context).Gives (some (callback, behaviour), later)
      marks) :
    ∃ rule, Rule.at? rules callback.place = some rule ∧ rule.behaviour = some behaviour := by
  obtain ⟨visits, chosen, tour, _, same⟩ :=
    (repertoire.watchedWalk_tours rules).done context _ later marks walked
  cases chosen with
  | none => cases same
  | some found =>
      cases same
      obtain ⟨visit, last, place, _, named⟩ := tour.getLast?_of_chosen
      refine ⟨visit.rule, ?_, named⟩
      rw [← place]
      exact tour.stands rfl visit (List.mem_of_getLast? last)

end Repertoire

namespace Context

private theorem exists_watched {α : Type} {watched : Watched vocabulary α}
    {context : Context vocabulary} {reached : α × Context vocabulary} {journal : List Entry}
    (given : (watched.unwatched context).Gives reached journal) :
    ∃ marks, (watched context).Gives reached marks ∧ journal = marks.filterMap Mark.entry? :=
  ⟨(watched context).journal, Journaled.gives_of_outcome (congrArg Journaled.outcome given :),
    (congrArg Journaled.journal given :).symm⟩

variable {repertoire : Repertoire vocabulary} {context left ready later : Context vocabulary}
  {rule : Rule vocabulary} {journal early arming running : List Entry}

def ArmsFor (left : Context vocabulary) (delay : Option Span) (ready : Context vocabulary)
    (arming : List Entry) : Prop :=
  match delay with
  | none => ready = left ∧ arming = []
  | some delay => (left.schedule delay).Gives ready arming

/-- What is pending when a rule has been chosen and its behaviour has left things as they were. The
context that the walk began with and the one that its callbacks left are given. -/
structure Rearmed (context left later : Context vocabulary) (rule : Rule vocabulary)
    (arming : List Entry) : Prop where
  /-- The delay of the rule is counted from the tick at which the walk began, and takes the place of
  whatever callbacks have asked for. -/
  delayed : ∀ delay, rule.reconsiderAfter = some delay → delay ≠ .zero →
    ∃ timer, .armed timer ∈ arming ∧ later.controller.pending = some timer.handle ∧
      timer ∈ later.timers.timers ∧ timer.owner = context.controller.id ∧
      timer.due.index = context.timers.now.index + context.timers.clock.wait delay
  /-- Without a delay, whatever callbacks have asked for stands, and nothing else. -/
  undelayed : (∀ delay, rule.reconsiderAfter = some delay → delay = .zero) →
    arming = [] ∧ later.controller.pending = left.controller.pending ∧ later.timers = left.timers

/-- What a reconsideration comes to behind its walk, of which the choice is given and what its
callbacks left. -/
inductive Concludes (repertoire : Repertoire vocabulary) (context left : Context vocabulary) :
    Option (Callback × vocabulary.Action) → Reconsideration → Context vocabulary → List Entry →
      Prop where
  /-- Nothing was chosen, and nothing follows but words. -/
  | missed (record : Record) : Concludes repertoire context left none .noMatch left [.told record]
  /-- The delay of the chosen rule is armed, and its behaviour runs. -/
  | chosen {callback : Callback} {behaviour : vocabulary.Action} {rule : Rule vocabulary}
      {ready later : Context vocabulary} {arming running : List Entry} (record : Record)
      (stands : Rule.at? context.controller.tree.rules callback.place = some rule)
      (named : rule.behaviour = some behaviour)
      (armed : left.ArmsFor (Rule.armedDelay rule.reconsiderAfter) ready arming)
      (ran : (ready.run repertoire (repertoire.action behaviour)).Gives ((), later) running)
      (rearmed : (∀ entry ∈ running, entry.revokes context.controller.id = false) →
        Rearmed context left later rule arming) :
      Concludes repertoire context left (some (callback, behaviour)) .selected later
        (arming ++ .told record :: running)

private theorem still_of_course (taken : Course context later journal)
    (quiet : ∀ entry ∈ journal, entry.revokes context.controller.id = false) :
    later.controller.scheduler = context.controller.scheduler ∧
      later.timers = context.timers := by
  induction taken with
  | aside context mind tree surface silent => exact ⟨rfl, rfl⟩
  | @cancel context later journal given =>
      obtain ⟨rfl, rfl⟩ := gives_cancel.mp given
      cases slot : context.controller.scheduler.slot with
      | none =>
          refine ⟨Scheduler.ext slot.symm, ?_⟩
          unfold Scheduler.release
          rw [slot]
      | some handle =>
          have pending : context.controller.scheduler.isPending = true := by
            rw [Scheduler.isPending, slot]
            rfl
          have withdrawn := quiet (.withdrawn context.controller.id)
            (List.mem_append_right _ (by rw [if_pos pending]; exact List.mem_singleton.mpr rfl))
          exact absurd withdrawn (by simp [Entry.revokes])
  | @schedule context later journal delay given =>
      obtain ⟨timer, timers, _, rfl, rfl⟩ := gives_schedule.mp given
      have asked := quiet (.scheduled context.controller.id timer.handle delay)
        (List.mem_append_right _ (List.mem_cons_of_mem _ List.mem_cons_self))
      exact absurd asked (by simp [Entry.revokes])
  | @trans context middle later first second before after ihBefore ihAfter =>
      obtain ⟨slot, timers⟩ := ihBefore fun entry member =>
        quiet entry (List.mem_append_left _ member)
      have id := (Works.of_course before).id
      obtain ⟨laterSlot, laterTimers⟩ := ihAfter fun entry member =>
        id ▸ quiet entry (List.mem_append_right _ member)
      exact ⟨laterSlot.trans slot, laterTimers.trans timers⟩

theorem idle_of_course (taken : Course context later journal)
    (idle : context.controller.pending = none)
    (unasked : ∀ handle delay, .scheduled context.controller.id handle delay ∉ journal) :
    later.controller.pending = none := by
  induction taken with
  | aside context mind tree surface silent => exact idle
  | cancel given =>
      rw [(gives_cancel.mp given).1]
      rfl
  | @schedule context later journal delay given =>
      obtain ⟨timer, timers, _, rfl, rfl⟩ := gives_schedule.mp given
      exact absurd (List.mem_append_right _ (List.mem_cons_of_mem _ List.mem_cons_self))
        (unasked timer.handle delay)
  | @trans context middle later first second before after ihBefore ihAfter =>
      have none := ihBefore idle fun handle delay member =>
        unasked handle delay (List.mem_append_left _ member)
      have id := (Works.of_course before).id
      exact ihAfter none fun handle delay member =>
        unasked handle delay (List.mem_append_right _ (id ▸ member))

private theorem rearmed_of_armsFor (walked : Course context left early)
    (begun : 0 < context.timers.now.index)
    (armed : left.ArmsFor (Rule.armedDelay rule.reconsiderAfter) ready arming)
    (ran : Course ready later running)
    (quiet : ∀ entry ∈ running, entry.revokes context.controller.id = false) :
    Rearmed context left later rule arming := by
  have works := Works.of_course walked
  refine
    { delayed := ?_
      undelayed := ?_ }
  · intro delay named positive
    have some : Rule.armedDelay (some delay) = some delay :=
      Option.filter_some_pos (decide_eq_true positive)
    rw [named, some] at armed
    have given : (left.schedule delay).Gives ready arming := armed
    obtain ⟨timer, timers, arm, rfl, rfl⟩ := gives_schedule.mp given
    obtain ⟨slot, same⟩ := still_of_course ran (works.id ▸ quiet)
    obtain ⟨_, _, owner, _⟩ := TimerQueue.arm_eq_ok.mp arm
    have clock : (left.controller.scheduler.release left.timers).clock = context.timers.clock :=
      (clock_release left).trans works.clock
    refine ⟨timer, List.mem_append_right _ List.mem_cons_self, congrArg Scheduler.pending slot, ?_,
      owner.trans works.id, ?_⟩
    · rw [same]
      exact (TimerQueue.mem_timers_of_arm arm).mpr (.inr rfl)
    · have due := TimerQueue.due_of_arm arm
      unfold TimerQueue.now at due begun
      rw [clock] at due
      exact due (.inl begun)
  · intro without
    have none : Rule.armedDelay rule.reconsiderAfter = none := by
      cases named : rule.reconsiderAfter with
      | none => rfl
      | some delay => exact Option.filter_some_neg (by simp [without delay named])
    rw [none] at armed
    obtain ⟨rfl, rfl⟩ := armed
    obtain ⟨slot, same⟩ := still_of_course ran (works.id ▸ quiet)
    exact ⟨rfl, congrArg Scheduler.pending slot, same⟩

private theorem armsFor_of_armIf {delay : Option Span} {marks : List (Mark vocabulary)}
    (given : (repertoire.watcher.armIf delay left).Gives ((), ready) marks) :
    left.ArmsFor delay ready (marks.filterMap Mark.entry?) := by
  cases delay with
  | none =>
      obtain ⟨same, rfl⟩ := Journaled.gives_pure.mp given
      cases same
      exact ⟨rfl, rfl⟩
  | some delay =>
      have plain := gives_unwatched given
      change ((repertoire.watch (Program.request (.schedule delay))).unwatched left).Gives _ _
        at plain
      rw [repertoire.unwatched_watch] at plain
      obtain ⟨⟨_, reached⟩, early, _, performed, rest, same⟩ := Journaled.gives_bind.mp plain
      obtain ⟨equal, rfl⟩ := Journaled.gives_pure.mp rest
      cases equal
      rw [same, List.append_nil]
      exact gives_effect.mp performed

/-- To reconsider is to walk as if no rule had a delay, and to arm the delay of the rule that is
chosen before its behaviour runs. -/
theorem concludes_of_reconsider {outcome : Reconsideration}
    (begun : 0 < context.timers.now.index)
    (given : (context.reconsider repertoire).Gives (outcome, later) journal) :
    ∃ chosen left marks after,
      (repertoire.watchedWalk (Rule.allUndelayed context.controller.tree.rules) context).Gives
        (chosen, left) marks ∧
      Course context left (marks.filterMap Mark.entry?) ∧
      Concludes repertoire context left chosen outcome later after ∧
      journal = marks.filterMap Mark.entry? ++ after := by
  obtain ⟨⟨choice, reached⟩, early, rest, walked, concluded, rfl⟩ := Journaled.gives_bind.mp given
  rw [← repertoire.follows_watchedWalk] at walked
  obtain ⟨⟨answer, middle⟩, plain, same⟩ := Journaled.gives_map.mp walked
  obtain ⟨seen, watched, rfl⟩ := exists_watched plain
  cases same
  have parts := watched
  rw [repertoire.watchedWalk_undelayed] at parts
  obtain ⟨⟨chosen, left⟩, marks, more, undelayed, armed, rfl⟩ := Journaled.gives_bind.mp parts
  have course : Course context left (marks.filterMap Mark.entry?) := .run (by
    rw [← repertoire.follows_watchedWalk]
    exact Journaled.gives_map.mpr ⟨_, gives_unwatched undelayed, rfl⟩)
  cases chosen with
  | none =>
      obtain ⟨equal, rfl⟩ := Journaled.gives_pure.mp armed
      cases equal
      obtain ⟨_, _, _, said, final, rfl⟩ := Journaled.gives_bind.mp concluded
      obtain ⟨equal, rfl⟩ := Journaled.gives_pure.mp final
      cases equal
      rw [gives_report.mp said, List.append_nil]
      exact ⟨none, _, marks, _, undelayed, course, .missed _, rfl⟩
  | some found =>
      obtain ⟨callback, behaviour⟩ := found
      obtain ⟨⟨_, ready⟩, arming, _, armedOnce, rest, rfl⟩ := Journaled.gives_bind.mp armed
      obtain ⟨equal, rfl⟩ := Journaled.gives_pure.mp rest
      cases equal
      obtain ⟨rule, stands, named⟩ := repertoire.stands_of_watchedWalk watched
      have delay : Rule.delayAt context.controller.tree.rules callback.place =
          Rule.armedDelay rule.reconsiderAfter := by
        rw [Rule.delayAt, stands, Option.bind_some]
      rw [delay] at armedOnce
      obtain ⟨_, _, _, said, acted, rfl⟩ := Journaled.gives_bind.mp concluded
      obtain ⟨⟨_, after⟩, running, _, ran, final, rfl⟩ := Journaled.gives_bind.mp acted
      obtain ⟨equal, rfl⟩ := Journaled.gives_pure.mp final
      cases equal
      have armsFor := armsFor_of_armIf armedOnce
      rw [gives_report.mp said, List.append_nil, List.append_nil, List.filterMap_append,
        List.append_assoc]
      exact ⟨_, left, marks, _, undelayed, course, .chosen _ stands named armsFor ran fun quiet =>
        rearmed_of_armsFor course begun armsFor (.run ran) quiet, rfl⟩

end Context

end PriorityAgents
