import PriorityAgents.Patrol.Rules
import PriorityAgents.Proofs.Controller.Walk

/-!
What a walk over a tree calls, what it chooses, and what is run when it has chosen.

Nothing here depends on what the callbacks are. They may write down what conditions ask later, put
another tree in the place of the one that is walked, or fail; whatever they do, the walk calls them
in the order of the listing, and it chooses what its conditions have answered for.
-/

set_option autoImplicit false

namespace PriorityAgents

variable {vocabulary : Vocabulary}

/-- The steps of a walk are in order: what is called, when, and how often. -/
structure Disciplined (rules : List (Rule vocabulary)) (steps : List Footstep)
    (visits : List (Visit vocabulary)) (chosen : Option (Place × vocabulary.Action)) : Prop where
  inOrder : (calls steps).Sublist (Rule.listing 0 rules)
  once : (calls steps).Nodup
  noBehaviour : ∀ callback ∈ calls steps, callback.part ≠ .behaviour
  /-- Step by step it is what the visited rules have done, or the beginning of it. -/
  visited : steps <+: visits.flatMap Visit.footsteps
  stands : ∀ visit ∈ visits, Rule.at? rules visit.place = some visit.rule
  descends : ∀ visit ∈ visits, visit.Descends visits
  /-- The rule that is chosen is the last one that is visited. -/
  last : ∀ place behaviour, chosen = some (place, behaviour) →
    ∃ visit, visits.getLast? = some visit ∧ visit.place = place ∧ visit.isMatch = true ∧
      visit.rule.behaviour = some behaviour

private theorem Tour.disciplined {rules : List (Rule vocabulary)} {steps : List Footstep}
    {visits : List (Visit vocabulary)} {chosen : Option (Place × vocabulary.Action)}
    (tour : Tour 0 rules visits chosen) (begun : steps <+: visits.flatMap Visit.footsteps) :
    Disciplined rules steps visits chosen := by
  have inOrder : (calls steps).Sublist (Rule.listing 0 rules) :=
    (begun.sublist.filterMap _).trans tour.calls_sublist
  exact
    { inOrder
      once := (Rule.nodup_listing 0 rules).sublist inOrder
      noBehaviour := fun callback member =>
        Rule.ne_behaviour_of_listing (inOrder.subset member)
      visited := begun
      stands := tour.stands rfl
      descends := tour.descends
      last := fun place behaviour reached => (reached ▸ tour).getLast?_of_chosen }

private theorem Visit.isMatch_of_heard {visits : List (Visit vocabulary)} {answers : Place → Bool}
    (heard : ∀ place answer, .answered place answer ∈ visits.flatMap Visit.footsteps →
      answer = answers place) :
    ∀ visit ∈ visits, visit.isMatch = visit.rule.matchesOn (answers visit.place) := by
  intro visit member
  unfold Rule.matchesOn
  cases asked : visit.rule.condition with
  | none => exact visit.unasked asked
  | some question =>
      have answered : Footstep.answered visit.place visit.isMatch ∈ visit.footsteps := by
        simp [Visit.footsteps, asked]
      exact heard _ _ (List.mem_flatMap.mpr ⟨visit, member, answered⟩)

def RunsOne (rules : List (Rule vocabulary)) (steps : List Footstep) : Prop :=
  ∃ place rule, Rule.at? rules place = some rule ∧ rule.behaviour.isSome = true ∧
    (calls steps).filter (·.part = .behaviour) = [⟨place, .behaviour⟩]

/-- A reconsideration that has been abandoned in the middle of something that a rule has done, be it
in the walk or in the behaviour that was chosen. -/
inductive BrokenOff (repertoire : Repertoire vocabulary) (rules : List (Rule vocabulary))
    (fault : Fault) : List (Mark vocabulary) → Prop where
  | walking {marks : List (Mark vocabulary)}
      (interrupted : Interrupted repertoire id 0 rules rules fault marks) :
      BrokenOff repertoire rules fault marks
  | acting {before during : List (Mark vocabulary)} {place : Place} {rule : Rule vocabulary}
      {behaviour : vocabulary.Action} {context : Context vocabulary}
      (stands : Rule.at? rules place = some rule) (named : rule.behaviour = some behaviour)
      (fails : (repertoire.watch (repertoire.action behaviour) context).Fails fault during) :
      BrokenOff repertoire rules fault (before ++ .stepped (.called ⟨place, .behaviour⟩) :: during)

private theorem Watched.Leaves.told (severity : Severity) (message : String)
    (fields : Context vocabulary → List (String × String)) :
    (Watched.carry fun context => do
      context.report severity message (fields context)
      Pure.pure ((), context)).Leaves (fun _ marks => footsteps marks = []) fun _ _ => False where
  done := fun _ _ _ _ given => by
    cases given
    rfl
  abandoned := fun _ _ _ fails => nomatch fails

namespace Repertoire

variable (repertoire : Repertoire vocabulary)

/-- A walk makes a tour, and an abandoned one the beginning of a tour. -/
theorem watchedWalk_tours (rules : List (Rule vocabulary)) :
    (repertoire.watchedWalk rules).Leaves
      (fun answer marks => ∃ visits chosen, Tour 0 rules visits chosen ∧
        footsteps marks = visits.flatMap Visit.footsteps ∧
        answer = chosen.map fun found => (⟨found.1, .behaviour⟩, found.2))
      (Interrupted repertoire id 0 rules rules) := by
  refine (walk_tours repertoire rules id 0 0 rules rfl).imp ?_ fun _ _ interrupted => interrupted
  rintro answer marks ⟨visits, chosen, tour, steps, rfl⟩
  rw [Footstep.map_seated_id] at steps
  exact ⟨visits, chosen, tour, steps, rfl⟩

/-- To choose by rules is to run one behaviour, or to come by an unconditional leaf nowhere. -/
theorem choice_leaves (rules : List (Rule vocabulary)) :
    (repertoire.watchedChoice rules).Leaves
      (fun outcome marks =>
        (outcome = .selected ∧ RunsOne rules (footsteps marks)) ∨
          (outcome = .noMatch ∧ ∀ rule ∈ rules, rule.isUnconditionalLeaf = false))
      (BrokenOff repertoire rules) := by
  refine .bind (repertoire.watchedWalk_tours rules) (fun _ _ => .walking) ?_
  rintro _ early ⟨visits, chosen, tour, steps, rfl⟩
  cases chosen with
  | none =>
      exact .bind (.told _ _ _) (fun _ _ impossible => impossible.elim) fun _ _ _ =>
        .pure (.inr ⟨rfl, tour.not_leaf_of_none rfl⟩)
  | some found =>
      obtain ⟨place, behaviour⟩ := found
      obtain ⟨visit, last, rfl, _, named⟩ := tour.getLast?_of_chosen
      have stands := tour.stands rfl visit (List.mem_of_getLast? last)
      have discipline : Disciplined rules (footsteps early) visits _ :=
        tour.disciplined (steps ▸ List.prefix_rfl)
      have before : (calls (footsteps early)).filter (·.part = .behaviour) = [] :=
        List.filter_eq_nil_iff.mpr fun callback called => by
          simpa using discipline.noBehaviour callback called
      refine .bind (.told _ _ _) (fun _ _ impossible => impossible.elim) fun _ said quiet => ?_
      refine .bind (repertoire.prepare_leaves (some behaviour) ⟨visit.place, .behaviour⟩) ?_
        fun _ ran once => .pure (.inl ⟨rfl, visit.place, visit.rule, stands, ?_, ?_⟩)
      · rintro fault _ ⟨_, reached, during, same, _, fails, rfl⟩
        cases same
        rw [← List.append_assoc]
        exact .acting stands named fails
      · rw [named]
        rfl
      · rw [List.append_nil, footsteps_append, footsteps_append, quiet, once, List.nil_append,
          calls_append, List.filter_append, before]
        rfl

/-- Whatever callbacks do, a walk calls them with discipline. Its watcher changes nothing: without
the marks a watched walk is the walk. -/
theorem walk_disciplined (rules : List (Rule vocabulary)) (context : Context vocabulary) :
    let watched := repertoire.watchedWalk rules context
    ((fun reached => (reached.1.map Prod.snd, reached.2)) <$> watched.reading Mark.entry?) =
        context.run repertoire (repertoire.evaluate rules) ∧
      ∃ visits chosen, Disciplined rules (footsteps watched.journal) visits chosen ∧
        ∀ answer later, watched.outcome = .ok (answer, later) →
          footsteps watched.journal = visits.flatMap Visit.footsteps ∧
            answer = chosen.map fun found => (⟨found.1, .behaviour⟩, found.2) := by
  intro watched
  refine ⟨repertoire.follows_watchedWalk rules context, ?_⟩
  have tours := repertoire.watchedWalk_tours rules
  cases outcome : watched.outcome with
  | ok reached =>
      obtain ⟨visits, chosen, tour, steps, answered⟩ :=
        tours.done context _ _ _ (Journaled.gives_of_outcome outcome)
      refine ⟨visits, chosen, tour.disciplined (steps ▸ List.prefix_rfl), ?_⟩
      rintro answer later same
      cases same
      exact ⟨steps, answered⟩
  | error fault =>
      obtain ⟨visits, chosen, tour, steps⟩ :=
        (tours.abandoned context fault _ (Journaled.ext outcome rfl)).begun
      rw [Footstep.map_seated_id] at steps
      exact ⟨visits, chosen, tour.disciplined steps, nofun⟩

/-- If the conditions that a walk asks answer as given, the walk chooses the first rule that is
enabled, and nothing if none is. It is never abandoned of its own accord. -/
theorem evaluate_first (rules : List (Rule vocabulary)) (context : Context vocabulary)
    (answers : Place → Bool)
    (heard : ∀ place answer,
      .answered place answer ∈ footsteps (repertoire.watchedWalk rules context).journal →
        answer = answers place) :
    match (context.run repertoire (repertoire.evaluate rules)).outcome with
    | .ok (some behaviour, _) => ∃ place, Rule.Enabled answers rules place behaviour ∧
        ∀ other action, Rule.Enabled answers rules other action → place ≤ other
    | .ok (none, _) => ∀ place action, ¬Rule.Enabled answers rules place action
    | .error fault => Interrupted repertoire id 0 rules rules fault
        (repertoire.watchedWalk rules context).journal := by
  have tours := repertoire.watchedWalk_tours rules
  rw [(repertoire.follows_watchedWalk rules).outcome context]
  cases outcome : (repertoire.watchedWalk rules context).outcome with
  | error fault => exact tours.abandoned context fault _ (Journaled.ext outcome rfl)
  | ok reached =>
      obtain ⟨answer, later⟩ := reached
      obtain ⟨visits, chosen, tour, steps, rfl⟩ :=
        tours.done context _ _ _ (Journaled.gives_of_outcome outcome)
      rw [steps] at heard
      have first := tour.isFirst rfl (Visit.isMatch_of_heard heard)
      cases chosen with
      | none => exact fun place action enabled => Nat.not_lt_zero _ (first place action enabled)
      | some found =>
          exact ⟨found.1, first.1, fun other action enabled =>
            first.2 other action enabled (Nat.zero_le _)⟩

/-- A ship that is left alone and low on fuel docks: the rule that is chosen stands in the branch
of a rule that does not match. -/
theorem evaluate_first_patrol :
    let rules : List (Rule Patrol.ships) :=
      [{ Rule.blank with
          condition := some Patrol.Condition.isUnderAttack
          whenTrue := [Rule.fallback Patrol.Deed.engage]
          whenFalse :=
            [{ Rule.blank with
                condition := some Patrol.Condition.isLowOnFuel
                behaviour := some Patrol.Deed.dock }] },
        Rule.fallback Patrol.Deed.patrol]
    let answers (place : Place) : Bool := place ≠ .here 0
    ∃ timers, TimerQueue.start 100 = .ok timers ∧
      let context : Context Patrol.ships :=
        { controller := .start ⟨0, by decide⟩ "patrol" { Patrol.Ship.fresh "Ada" with fuel := 20 } 7
            (Patrol.seconds 1)
          timers }
      (∀ place answer, .answered place answer ∈
          footsteps (Patrol.repertoire.watchedWalk rules context).journal →
        answer = answers place) ∧
      ∃ later, (context.run Patrol.repertoire (Patrol.repertoire.evaluate rules)).outcome =
          .ok (some .dock, later) ∧
        ∃ place, Rule.Enabled answers rules place Patrol.Deed.dock ∧
          ∀ other action, Rule.Enabled answers rules other action → place ≤ other := by
  intro rules answers
  obtain ⟨timers, started, facts⟩ : ∃ timers, TimerQueue.start 100 = .ok timers ∧
      decide (footsteps (Patrol.repertoire.watchedWalk rules
            ⟨.start ⟨0, by decide⟩ "patrol" { Patrol.Ship.fresh "Ada" with fuel := 20 } 7
              (Patrol.seconds 1), timers⟩).journal =
          [.called ⟨.here 0, .condition⟩, .answered (.here 0) false,
            .called ⟨.within 0 .whenFalse (.here 0), .condition⟩,
            .answered (.within 0 .whenFalse (.here 0)) true] ∧
        ((Context.mk (.start ⟨0, by decide⟩ "patrol"
              { Patrol.Ship.fresh "Ada" with fuel := 20 } 7 (Patrol.seconds 1)) timers).run
            Patrol.repertoire (Patrol.repertoire.evaluate rules)).outcome.toOption.any
          fun reached => reached.1 = some Patrol.Deed.dock) = true :=
    exists_ok (by decide +kernel)
  obtain ⟨steps, ran⟩ := of_decide_eq_true facts
  refine ⟨timers, started, ?_⟩
  intro context
  have heard : ∀ place answer, .answered place answer ∈
      footsteps (Patrol.repertoire.watchedWalk rules context).journal → answer = answers place := by
    intro place answer member
    rw [steps] at member
    simp only [List.mem_cons, reduceCtorEq, Footstep.answered.injEq, List.not_mem_nil, false_or,
      or_false] at member
    rcases member with ⟨rfl, rfl⟩ | ⟨rfl, rfl⟩ <;> rfl
  obtain ⟨⟨chosen, later⟩, outcome, docks⟩ := exists_ok ran
  obtain rfl := of_decide_eq_true docks
  have first := Patrol.repertoire.evaluate_first rules context answers heard
  rw [outcome] at first
  exact ⟨heard, later, outcome, first⟩

end Repertoire

end PriorityAgents
