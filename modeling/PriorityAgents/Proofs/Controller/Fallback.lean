import PriorityAgents.Proofs.Controller.Choice
import PriorityAgents.Proofs.Controller.Turn

/-!
An agent whose trees all end in an unconditional leaf is never left without an answer.

The tree in use is the one that was asked for last, whatever code asked for it and when. A walk
reads it once and comes to its last rule unless it chooses something before, so what callbacks do to
the tree in the course of the walk makes no difference to the walk.
-/

set_option autoImplicit false

namespace PriorityAgents

variable {vocabulary : Vocabulary} {ε δ : Type}

private theorem PriorityTree.exists_leaf {tree : PriorityTree vocabulary}
    (guarded : tree.checkFallback = .ok ()) :
    ∃ rule ∈ tree.rules, rule.isUnconditionalLeaf = true := by
  unfold checkFallback at guarded
  cases last : tree.rules.getLast? with
  | none =>
      rw [last] at guarded
      cases guarded
  | some rule =>
      rw [last] at guarded
      refine ⟨rule, List.mem_of_getLast? last, ?_⟩
      by_contra other
      simp only [other, if_false, reduceCtorEq] at guarded

/-! ### The tree over a number of turns -/

namespace Context

/-- A controller in the hands of a host, one turn after another. For every turn it is lent timers,
which may have changed since the last one. -/
def live (take : Turn vocabulary → Context vocabulary → Journaled ε (Unit × Context vocabulary))
    (context : Context vocabulary) :
    List (TimerQueue × Turn vocabulary) → Journaled ε (Context vocabulary)
  | [] => pure context
  | (timers, turn) :: turns => do
      let (_, later) ← take turn { context with timers }
      later.live take turns

private theorem reading_live (select : ε → Option δ)
    (take : Turn vocabulary → Context vocabulary → Journaled ε (Unit × Context vocabulary))
    (context : Context vocabulary) (turns : List (TimerQueue × Turn vocabulary)) :
    (context.live take turns).reading select =
      context.live (fun turn context => (take turn context).reading select) turns := by
  induction turns generalizing context with
  | nil => rfl
  | cons first turns ih =>
      rw [live, live, Journaled.reading_bind]
      exact congrArg _ (funext fun reached => ih reached.2)

variable {repertoire : Repertoire vocabulary} {context later : Context vocabulary}
  {turns : List (TimerQueue × Turn vocabulary)} {marks : List (Mark vocabulary)}

private theorem unwatched_live (repertoire : Repertoire vocabulary) (context : Context vocabulary)
    (turns : List (TimerQueue × Turn vocabulary)) :
    (context.live (Turn.watched repertoire) turns).reading Mark.entry? =
      context.live (Turn.take repertoire) turns := by
  rw [reading_live]
  refine congrArg (context.live · turns) ?_
  funext turn context
  exact turn.unwatched_watched repertoire context

private theorem tree_of_turn {turn : Turn vocabulary}
    (taken : (turn.watched repertoire context).Gives ((), later) marks) :
    later.controller.tree = (plans marks).getLastD context.controller.tree := by
  by_cases other : ∀ handle, turn ≠ .fire handle
  · exact (Journey.turn other taken).trail.tree
  · obtain ⟨handle, rfl⟩ := not_forall_not.mp other
    rcases repertoire.gives_fire taken with
      ⟨_, rfl, record, rfl⟩ | ⟨_, outcome, more, _, journey, rfl⟩
    · rfl
    · rw [plans_append]
      exact journey.trail.tree.trans (congrArg (List.getLastD · _) (List.append_nil _).symm)

private theorem tree_of_live
    (lived : (context.live (Turn.watched repertoire) turns).Gives later marks) :
    later.controller.tree = (plans marks).getLastD context.controller.tree := by
  induction turns generalizing context marks with
  | nil =>
      obtain ⟨rfl, rfl⟩ := Journaled.gives_pure.mp lived
      rfl
  | cons first turns ih =>
      obtain ⟨⟨_, middle⟩, early, late, taken, rest, rfl⟩ := Journaled.gives_bind.mp lived
      simp only [ih rest, tree_of_turn taken, plans_append, List.getLastD_eq_getLast?,
        List.getLast?_append, Option.getD_or]

private theorem guarded_of_live
    (lived : (context.live (Turn.watched repertoire) turns).Gives later marks)
    (guarded : ∀ tree ∈ plans marks, tree.checkFallback = .ok ()) (handed : plans marks ≠ []) :
    later.controller.tree.checkFallback = .ok () := by
  have last : (plans marks).getLast? = some ((plans marks).getLast handed) :=
    List.getLast?_eq_some_getLast handed
  rw [tree_of_live lived, List.getLastD_eq_getLast?, last, Option.getD_some]
  exact guarded _ (List.getLast_mem handed)

/-- An agent that has been handed trees, all of which end in an unconditional leaf, is never left
without an answer. A timer that is pending when it fires makes an agent that is present run one
behaviour, unless code of the agent's own fails. -/
theorem answered_of_live
    (lived : (context.live (Turn.take repertoire) turns).outcome = .ok later)
    (guarded : ∀ tree ∈ plans (context.live (Turn.watched repertoire) turns).journal,
      tree.checkFallback = .ok ())
    (handed : plans (context.live (Turn.watched repertoire) turns).journal ≠ [])
    (timers : TimerQueue) (fired : TimerHandle) :
    let asked : Context vocabulary := { later with timers }
    let marks := (repertoire.watchedOnTimer fired asked).journal
    (context.live (Turn.watched repertoire) turns).reading Mark.entry? =
        context.live (Turn.take repertoire) turns ∧
      match (asked.onTimer repertoire fired).outcome with
      | .ok (.stale, _) => asked.controller.pending ≠ some fired
      | .ok (.agentGone, _) => repertoire.isPresent asked.controller.agent = false
      | .ok (.noMatch, _) => False
      | .ok (.selected, _) => RunsOne asked.controller.tree.rules (footsteps marks)
      | .error fault => BrokenOff repertoire asked.controller.tree.rules fault marks := by
  intro asked marks
  have plain := unwatched_live repertoire context turns
  refine ⟨plain, ?_⟩
  rw [← plain] at lived
  obtain ⟨leaf, member, unconditional⟩ := PriorityTree.exists_leaf
    (guarded_of_live (Journaled.gives_of_outcome lived) guarded handed)
  have answers := repertoire.onTimer_cases fired asked
  generalize (asked.onTimer repertoire fired).outcome = outcome at answers
  match outcome with
  | .ok (.stale, _) => exact answers.1
  | .ok (.agentGone, _) => exact Bool.eq_false_iff.mpr answers.2
  | .ok (.noMatch, _) =>
      have never := answers.2.2 leaf member
      rw [unconditional] at never
      cases never
  | .ok (.selected, _) => exact answers.2.2
  | .error fault => exact answers.2.2

/-- A ship sets out, is handed a timer that is not its own, and then the one that is pending. -/
theorem answered_of_live_patrol :
    let context (timers : TimerQueue) : Context Patrol.ships :=
      { controller := .start ⟨0, by decide⟩ "patrol" (.fresh "Ada") 7 (Patrol.seconds 1)
        timers }
    let turns (timers : TimerQueue) : List (TimerQueue × Turn Patrol.ships) :=
      [(timers, .work Patrol.start), (timers, .fire ⟨7, by decide⟩)]
    ∃ timers later, TimerQueue.start 100 = .ok timers ∧
      ((context timers).live (Turn.take Patrol.repertoire) (turns timers)).outcome = .ok later ∧
      later.controller.pending = some .first ∧
      Patrol.repertoire.isPresent later.controller.agent = true ∧
      ∃ after, (later.onTimer Patrol.repertoire .first).outcome = .ok (.selected, after) ∧
        RunsOne later.controller.tree.rules
          (footsteps (Patrol.repertoire.watchedOnTimer .first later).journal) := by
  intro context turns
  obtain ⟨timers, started, rest⟩ : ∃ timers, TimerQueue.start 100 = .ok timers ∧
      (((context timers).live (Turn.take Patrol.repertoire)
        (turns timers)).outcome.toOption.any fun later =>
          decide (later.controller.pending = some .first ∧
            Patrol.repertoire.isPresent later.controller.agent = true ∧
            ((plans ((context timers).live (Turn.watched Patrol.repertoire)
              (turns timers)).journal).map fun tree =>
                tree.checkFallback.toOption) = [some ()] ∧
            ((later.onTimer Patrol.repertoire .first).outcome.toOption.any fun reached =>
              reached.1 = .selected) = true)) = true :=
    exists_ok (by decide +kernel)
  obtain ⟨later, lived, facts⟩ := exists_ok rest
  obtain ⟨pending, present, checked, fires⟩ := of_decide_eq_true facts
  obtain ⟨⟨outcome, after⟩, fired, selected⟩ := exists_ok fires
  obtain rfl := of_decide_eq_true selected
  refine ⟨timers, later, started, lived, pending, present, after, fired, ?_⟩
  have answered := (answered_of_live lived ?_ ?_ later.timers .first).2
  · rw [fired] at answered
    exact answered
  · intro tree member
    have listed : tree.checkFallback.toOption ∈ [some ()] :=
      checked ▸ List.mem_map_of_mem member
    cases outcome : tree.checkFallback with
    | ok _ => rfl
    | error cause =>
        rw [outcome] at listed
        cases List.mem_singleton.mp listed
  · intro none
    rw [none] at checked
    cases checked

end Context

end PriorityAgents
