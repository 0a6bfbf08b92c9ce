import PriorityAgents.Proofs.Controller.Watch

/-!
What a watcher sees of a walk over a tree.

A walk that comes to its end has made a tour. A walk that is abandoned has made the beginning of
one, and it is abandoned in the middle of something that a rule has done: the walk itself never
fails.
-/

set_option autoImplicit false

namespace PriorityAgents

namespace Journaled

variable {ε α β : Type}

/-- A computation that is abandoned, with what was entered before. -/
def Fails (computation : Journaled ε α) (fault : Fault) (journal : List ε) : Prop :=
  computation = ⟨.error fault, journal⟩

theorem fails_bind {first : Journaled ε α} {next : α → Journaled ε β} {fault : Fault}
    {journal : List ε} :
    (first >>= next).Fails fault journal ↔
      first.Fails fault journal ∨
        ∃ middle early late, first.Gives middle early ∧ (next middle).Fails fault late ∧
          journal = early ++ late := by
  change Journaled.bind first next = _ ↔ _
  obtain ⟨outcome, early⟩ := first
  cases outcome with
  | error cause =>
      constructor
      · intro failed
        cases failed
        exact .inl rfl
      · intro given
        rcases given with failed | ⟨_, _, _, impossible, _⟩
        · cases failed
          rfl
        · cases impossible
  | ok answer =>
      simp only [Journaled.bind, continued_eq]
      constructor
      · intro failed
        refine .inr ⟨answer, early, (next answer).journal, rfl, ?_, ?_⟩
        · exact Journaled.ext (congrArg Journaled.outcome failed :) rfl
        · exact (congrArg Journaled.journal failed :).symm
      · intro given
        rcases given with impossible | ⟨_, _, late, given, failed, rfl⟩
        · cases impossible
        · cases given
          rw [failed]

end Journaled

variable {vocabulary : Vocabulary} {α β : Type}

namespace Watched

/-- Wherever a piece of code starts, its marks are as they should be, also if it is abandoned. -/
structure Leaves (watched : Watched vocabulary α) (good : α → List (Mark vocabulary) → Prop)
    (bad : Fault → List (Mark vocabulary) → Prop) : Prop where
  done : ∀ context answer later marks, (watched context).Gives (answer, later) marks →
    good answer marks
  abandoned : ∀ context fault marks, (watched context).Fails fault marks → bad fault marks

namespace Leaves

variable {watched : Watched vocabulary α} {next : α → Watched vocabulary β}
  {good between : α → List (Mark vocabulary) → Prop} {goal : β → List (Mark vocabulary) → Prop}
  {bad failed : Fault → List (Mark vocabulary) → Prop}

theorem pure {answer : α} (holds : good answer []) :
    (Pure.pure answer : Watched vocabulary α).Leaves good bad where
  done := fun _ _ _ _ given => by
    cases given
    exact holds
  abandoned := fun _ _ _ impossible => nomatch impossible

theorem imp (leaves : watched.Leaves between failed)
    (better : ∀ answer marks, between answer marks → good answer marks)
    (worse : ∀ fault marks, failed fault marks → bad fault marks) : watched.Leaves good bad where
  done := fun context _ _ _ given => better _ _ (leaves.done context _ _ _ given)
  abandoned := fun context _ _ fails => worse _ _ (leaves.abandoned context _ _ fails)

theorem bind (leaves : watched.Leaves between failed)
    (early : ∀ fault marks, failed fault marks → bad fault marks)
    (further : ∀ answer marks, between answer marks →
      (next answer).Leaves (fun reply more => goal reply (marks ++ more))
        fun fault more => bad fault (marks ++ more)) :
    (watched >>= next).Leaves goal bad where
  done := by
    intro context reply later marks given
    obtain ⟨⟨answer, middle⟩, first, second, begun, rest, rfl⟩ := Journaled.gives_bind.mp given
    exact (further answer first (leaves.done context _ _ _ begun)).done middle _ _ _ rest
  abandoned := by
    intro context fault marks fails
    rcases Journaled.fails_bind.mp fails with
      begun | ⟨⟨answer, middle⟩, first, second, begun, rest, rfl⟩
    · exact early fault marks (leaves.abandoned context _ _ begun)
    · exact (further answer first (leaves.done context _ _ _ begun)).abandoned middle _ _ rest

private theorem note (mark : Mark vocabulary) :
    (Watched.note mark).Leaves (fun _ marks => marks = [mark]) fun _ _ => False where
  done := fun _ _ _ _ given => by
    cases given
    rfl
  abandoned := fun _ _ _ impossible => nomatch impossible

theorem note_bind {mark : Mark vocabulary}
    (leaves : watched.Leaves (fun reply more => good reply (mark :: more))
      fun fault more => bad fault (mark :: more)) :
    (Watched.note mark >>= fun _ => watched).Leaves good bad := by
  refine .bind (.note mark) (fun _ _ impossible => impossible.elim) ?_
  rintro _ marks rfl
  exact leaves

theorem get_bind {next : Context vocabulary → Watched vocabulary α}
    (leaves : ∀ context, (next context).Leaves good bad) : (get >>= next).Leaves good bad := by
  have got : (get : Watched vocabulary (Context vocabulary)).Leaves (fun _ marks => marks = [])
      fun _ _ => False :=
    ⟨fun _ _ _ _ given => (Journaled.gives_pure.mp given).2,
      fun _ _ _ impossible => nomatch impossible⟩
  refine .bind got (fun _ _ impossible => impossible.elim) ?_
  rintro context marks rfl
  exact leaves context

private theorem carry (step : Context vocabulary → Logged (α × Context vocabulary)) :
    (Watched.carry step).Leaves
      (fun _ marks => ∃ entries : List Entry, marks = entries.map .entered)
      fun _ marks => ∃ entries : List Entry, marks = entries.map .entered where
  done := fun _ _ _ _ given => ⟨_, (congrArg Journaled.journal given).symm⟩
  abandoned := fun _ _ _ fails => ⟨_, (congrArg Journaled.journal fails).symm⟩

end Leaves

end Watched

/-! ### The steps of a rule -/

def footsteps (marks : List (Mark vocabulary)) : List Footstep := marks.filterMap Mark.footstep?

@[simp] theorem footsteps_append (first second : List (Mark vocabulary)) :
    footsteps (first ++ second) = footsteps first ++ footsteps second := List.filterMap_append

@[simp] theorem footsteps_stepped (footstep : Footstep) (marks : List (Mark vocabulary)) :
    footsteps (.stepped footstep :: marks) = footstep :: footsteps marks := rfl

@[simp] theorem footsteps_asked (agent : AgentId) (request : Request vocabulary)
    (marks : List (Mark vocabulary)) :
    footsteps (.asked agent request :: marks) = footsteps marks := rfl

@[simp] theorem footsteps_entered (entries : List Entry) :
    footsteps (entries.map (Mark.entered : Entry → Mark vocabulary)) = [] := by
  induction entries with
  | nil => rfl
  | cons entry entries ih => exact ih

namespace Repertoire

open Watched

variable (repertoire : Repertoire vocabulary)

private theorem walks_nowhere (program : Program vocabulary α) :
    (repertoire.watch program).Leaves (fun _ marks => footsteps marks = [])
      fun _ marks => footsteps marks = [] := by
  induction program with
  | pure answer => exact .pure rfl
  | ask request next ih =>
      refine .get_bind fun context => .note_bind (.bind (.carry _) ?_ ?_)
      · rintro fault marks ⟨entries, rfl⟩
        exact footsteps_entered entries
      · rintro answer marks ⟨entries, rfl⟩
        refine (ih answer).imp (fun reply more none => ?_) fun fault more none => ?_
        · rw [footsteps_asked, footsteps_append, footsteps_entered, none]
          rfl
        · rw [footsteps_asked, footsteps_append, footsteps_entered, none]
          rfl

private theorem watch_leaves (program : Program vocabulary α) :
    (repertoire.watch program).Leaves (fun _ marks => footsteps marks = [])
      fun fault marks => footsteps marks = [] ∧
        ∃ reached, (repertoire.watch program reached).Fails fault marks where
  done := (repertoire.walks_nowhere program).done
  abandoned := fun context fault marks fails =>
    ⟨(repertoire.walks_nowhere program).abandoned context fault marks fails, context, fails⟩

private theorem outcome_watch (program : Program vocabulary α) (context : Context vocabulary) :
    (repertoire.watch program context).outcome = (context.run repertoire program).outcome :=
  congrArg Journaled.outcome (repertoire.unwatched_watch program context)

private theorem noteVisit_leaves (depth index : Nat) (isMatch : Bool) :
    (repertoire.watch (noteVisit depth index isMatch)).Leaves (fun _ marks => footsteps marks = [])
      fun _ _ => False where
  done := (repertoire.walks_nowhere _).done
  abandoned := fun context fault marks fails => by
    have outcome := repertoire.outcome_watch (noteVisit depth index isMatch) context
    rw [fails] at outcome
    cases outcome

theorem prepare_leaves (part : Option vocabulary.Action) (callback : Callback) :
    (repertoire.watcher.prepare (part.map fun action => (callback, action))).Leaves
      (fun _ marks => footsteps marks = (part.map fun _ => Footstep.called callback).toList)
      fun fault marks => ∃ action reached more, part = some action ∧ footsteps more = [] ∧
        (repertoire.watch (repertoire.action action) reached).Fails fault more ∧
        marks = .stepped (.called callback) :: more := by
  cases part with
  | none => exact .pure rfl
  | some action =>
      refine .note_bind ((repertoire.watch_leaves _).imp ?_ ?_)
      · intro _ more none
        rw [footsteps_stepped, none]
        rfl
      · rintro fault more ⟨none, reached, fails⟩
        exact ⟨action, reached, more, rfl, none, fails, rfl⟩

private theorem matched_leaves (condition : Option vocabulary.Condition) (place : Place) :
    (repertoire.watcher.matched (condition.map fun question => (place, question))).Leaves
      (fun answer marks => (condition = none → answer = true) ∧
        footsteps marks =
          match condition with
          | some _ => [.called ⟨place, .condition⟩, .answered place answer]
          | none => [])
      fun fault marks => ∃ question reached more, condition = some question ∧
        footsteps more = [] ∧
        (repertoire.watch (repertoire.condition question) reached).Fails fault more ∧
        marks = .stepped (.called ⟨place, .condition⟩) :: more := by
  cases condition with
  | none => exact .pure ⟨fun _ => rfl, rfl⟩
  | some question =>
      refine .note_bind (.bind (repertoire.watch_leaves _) ?_ ?_)
      · rintro fault more ⟨none, reached, fails⟩
        exact ⟨question, reached, more, rfl, none, fails, rfl⟩
      · intro answer more none
        refine .note_bind (.pure ⟨nofun, ?_⟩)
        rw [footsteps_stepped, footsteps_append, none]
        rfl

private theorem armIf_leaves (delay : Option Span) :
    (repertoire.watcher.armIf delay).Leaves (fun _ marks => footsteps marks = [])
      fun fault marks => ∃ span reached, delay = some span ∧ footsteps marks = [] ∧
        (repertoire.watch (Program.request (.schedule span)) reached).Fails fault marks := by
  cases delay with
  | none => exact .pure rfl
  | some span =>
      refine (repertoire.watch_leaves _).imp (fun _ _ none => none) ?_
      rintro fault marks ⟨none, reached, fails⟩
      exact ⟨span, reached, rfl, none, fails⟩

end Repertoire

/-! ### The marks of a walk -/

/-- The marks of a walk over rules that has come to its end: those of a tour, which chooses what the
walk answers. -/
def Toured (seat : Place → Place) (index : Nat) (rules : List (Rule vocabulary))
    (answer : Option (Callback × vocabulary.Action)) (marks : List (Mark vocabulary)) : Prop :=
  ∃ visits chosen, Tour index rules visits chosen ∧
    footsteps marks = (visits.flatMap Visit.footsteps).map (Footstep.seated seat) ∧
    answer = chosen.map fun found => (⟨seat found.1, .behaviour⟩, found.2)

inductive Stumbles (repertoire : Repertoire vocabulary) (place : Place) (rule : Rule vocabulary)
    (fault : Fault) : List (Mark vocabulary) → Prop where
  | precheck {action : vocabulary.Action} {context : Context vocabulary}
      {marks : List (Mark vocabulary)} (named : rule.precheck = some action)
      (fails : (repertoire.watch (repertoire.action action) context).Fails fault marks) :
      Stumbles repertoire place rule fault (.stepped (.called ⟨place, .precheck⟩) :: marks)
  | condition {question : vocabulary.Condition} {context : Context vocabulary}
      {marks : List (Mark vocabulary)} (named : rule.condition = some question)
      (fails : (repertoire.watch (repertoire.condition question) context).Fails fault marks) :
      Stumbles repertoire place rule fault (.stepped (.called ⟨place, .condition⟩) :: marks)
  | onMatch {action : vocabulary.Action} {context : Context vocabulary}
      {marks : List (Mark vocabulary)} (named : rule.onMatch = some action)
      (fails : (repertoire.watch (repertoire.action action) context).Fails fault marks) :
      Stumbles repertoire place rule fault (.stepped (.called ⟨place, .onMatch⟩) :: marks)
  | arming {delay : Span} {context : Context vocabulary} {marks : List (Mark vocabulary)}
      (named : Rule.armedDelay rule.reconsiderAfter = some delay)
      (fails : (repertoire.watch (Program.request (.schedule delay)) context).Fails fault marks) :
      Stumbles repertoire place rule fault marks

/-- The marks of a walk over rules that has been abandoned: the beginning of those of a tour, and in
the end those of what failed, which is something that one of the rules has done. -/
structure Interrupted (repertoire : Repertoire vocabulary) (seat : Place → Place) (index : Nat)
    (rules all : List (Rule vocabulary)) (fault : Fault) (marks : List (Mark vocabulary)) :
    Prop where
  begun : ∃ visits chosen, Tour index rules visits chosen ∧
    footsteps marks <+: (visits.flatMap Visit.footsteps).map (Footstep.seated seat)
  stumbled : ∃ before place rule during, marks = before ++ during ∧
    Rule.at? all place = some rule ∧ Stumbles repertoire (seat place) rule fault during

variable {seat : Place → Place} {index : Nat} {rule : Rule vocabulary}
  {rules all : List (Rule vocabulary)} {isMatch : Bool} {branch : Branch} {fault : Fault}
  {repertoire : Repertoire vocabulary} {early more : List (Mark vocabulary)}
  {answer : Option (Callback × vocabulary.Action)}

private theorem footsteps_enter (branch : Branch) (unasked : rule.condition = none → isMatch = true)
    (begun : footsteps early =
      (Visit.footsteps ⟨.here index, rule, isMatch, unasked⟩).map (Footstep.seated seat))
    (visits : List (Visit vocabulary)) :
    footsteps early ++ (visits.flatMap Visit.footsteps).map
        (Footstep.seated fun place => seat (.within index branch place)) =
      ((⟨.here index, rule, isMatch, unasked⟩ ::
        visits.map (Visit.seated (.within index branch))).flatMap Visit.footsteps).map
          (Footstep.seated seat) := by
  rw [List.flatMap_cons, List.map_append, Visit.flatMap_footsteps_seated, List.map_map, begun]
  congr 2
  funext footstep
  exact (footstep.seated_seated seat _).symm

private theorem steps_of_visit (rule : Rule vocabulary) (isMatch : Bool)
    (unasked : rule.condition = none → isMatch = true) :
    (Visit.footsteps ⟨.here index, rule, isMatch, unasked⟩).map (Footstep.seated seat) =
      (rule.precheck.map fun _ => Footstep.called ⟨seat (.here index), .precheck⟩).toList ++
        (match rule.condition with
          | some _ => [.called ⟨seat (.here index), .condition⟩,
              .answered (seat (.here index)) isMatch]
          | none => []) ++
        if isMatch then
          (rule.onMatch.map fun _ => Footstep.called ⟨seat (.here index), .onMatch⟩).toList
        else [] := by
  rw [← Visit.footsteps_seated]
  rfl

private theorem Toured.enter (branch : Branch) (unasked : rule.condition = none → isMatch = true)
    (leads : rule.Leads isMatch branch)
    (begun : footsteps early =
      (Visit.footsteps ⟨.here index, rule, isMatch, unasked⟩).map (Footstep.seated seat))
    (inner : Toured (fun place => seat (.within index branch place)) 0 (rule.branch branch) answer
      more) : Toured seat index [rule] answer (early ++ more) := by
  obtain ⟨visits, chosen, tour, steps, rfl⟩ := inner
  have joined := footsteps_enter branch unasked begun visits
  rw [← steps, ← footsteps_append] at joined
  cases chosen with
  | some found => exact ⟨_, _, .found unasked leads tour, joined, rfl⟩
  | none =>
      refine ⟨_, none, .missed unasked leads tour (.nil _), ?_, rfl⟩
      rw [List.append_nil]
      exact joined

private theorem Interrupted.enter (branch : Branch) (found : all[index]? = some rule)
    (unasked : rule.condition = none → isMatch = true) (leads : rule.Leads isMatch branch)
    (begun : footsteps early =
      (Visit.footsteps ⟨.here index, rule, isMatch, unasked⟩).map (Footstep.seated seat))
    (inner : Interrupted repertoire (fun place => seat (.within index branch place)) 0
      (rule.branch branch) (rule.branch branch) fault more) :
    Interrupted repertoire seat index [rule] all fault (early ++ more) := by
  obtain ⟨⟨visits, chosen, tour, steps⟩, before, place, failing, during, rfl, stands, stumbles⟩ :=
    inner
  obtain ⟨later, reached, whole⟩ := tour.enter ⟨[], none, .nil (index + 1)⟩ unasked leads
  refine ⟨⟨_, reached, whole, ?_⟩, early ++ before, .within index branch place, failing, during,
    (List.append_assoc _ _ _).symm, (Rule.at?_within found branch place).trans stands, stumbles⟩
  rw [← List.cons_append, List.flatMap_append, List.map_append,
    ← footsteps_enter branch unasked begun, footsteps_append, List.append_assoc]
  exact (List.prefix_append_right_inj _).mpr (steps.trans (List.prefix_append _ _))

private theorem Interrupted.here (isMatch : Bool) (early : List (Mark vocabulary))
    (found : all[index]? = some rule) (unasked : rule.condition = none → isMatch = true)
    (begun : footsteps (early ++ more) <+:
      (Visit.footsteps ⟨.here index, rule, isMatch, unasked⟩).map (Footstep.seated seat))
    (stumbles : Stumbles repertoire (seat (.here index)) rule fault more) :
    Interrupted repertoire seat index [rule] all fault (early ++ more) := by
  obtain ⟨later, reached, tour⟩ := exists_tour_cons (exists_tour 0 rule.whenTrue)
    (exists_tour 0 rule.whenFalse) ⟨[], none, .nil (index + 1)⟩ isMatch unasked
  refine ⟨⟨_, reached, tour, ?_⟩, early, .here index, rule, more, rfl, found, stumbles⟩
  rw [List.flatMap_cons, List.map_append]
  exact begun.trans (List.prefix_append _ _)

def Tours (repertoire : Repertoire vocabulary) (seat : Place → Place) (depth index : Nat)
    (rules all : List (Rule vocabulary)) : Prop :=
  (repertoire.watcher.walkFrom depth index (Rule.allPlaced seat index rules)).Leaves
    (Toured seat index rules) (Interrupted repertoire seat index rules all)

/-- A rule is visited part after part. What is known at each point are the steps made so far, and
where something fails, these are the beginning of the steps of the whole visit. -/
theorem visit_tours (depth : Nat) (found : all[index]? = some rule)
    (inner : ∀ branch seat, Tours repertoire seat (depth + 1) 0 (rule.branch branch)
      (rule.branch branch)) :
    (repertoire.watcher.visit depth index (rule.placed seat index)).Leaves
      (Toured seat index [rule]) (Interrupted repertoire seat index [rule] all) := by
  rw [Rule.placed_eq, Walker.visit_eq]
  refine .bind (repertoire.prepare_leaves rule.precheck _) ?_ fun _ prepared preparedSteps => ?_
  · rintro fault marks ⟨action, reached, more, named, none, fails, rfl⟩
    refine .here true [] found (fun _ => rfl) ?_ (.precheck named fails)
    rw [steps_of_visit]
    simp [none, named]
  refine .bind (repertoire.matched_leaves rule.condition _) ?_ fun isMatch heard heardSteps => ?_
  · rintro fault marks ⟨question, reached, more, named, none, fails, rfl⟩
    refine .here true prepared found (fun _ => rfl) ?_ (.condition named fails)
    rw [steps_of_visit]
    simp [none, named, preparedSteps]
  obtain ⟨unasked, heardSteps⟩ := heardSteps
  refine .bind (repertoire.noteVisit_leaves depth index isMatch)
    (fun _ _ impossible => impossible.elim) fun _ noted notedSteps => ?_
  cases isMatch with
  | false =>
      have begun : footsteps (prepared ++ heard ++ noted) =
          (Visit.footsteps ⟨.here index, rule, false, unasked⟩).map (Footstep.seated seat) := by
        rw [steps_of_visit]
        simp [preparedSteps, heardSteps, notedSteps]
      refine (inner .whenFalse _).imp ?_ ?_
      · intro answer more toured
        rw [← List.append_assoc, ← List.append_assoc]
        exact .enter .whenFalse unasked rfl begun toured
      · intro fault more interrupted
        rw [← List.append_assoc, ← List.append_assoc]
        exact .enter .whenFalse found unasked rfl begun interrupted
  | true =>
      refine .bind (repertoire.prepare_leaves rule.onMatch _) ?_ fun _ done doneSteps => ?_
      · rintro fault marks ⟨action, reached, more, named, none, fails, rfl⟩
        rw [← List.append_assoc, ← List.append_assoc]
        refine .here true _ found unasked ?_ (.onMatch named fails)
        rw [steps_of_visit]
        simp [none, named, preparedSteps, heardSteps, notedSteps]
      have begun : footsteps (prepared ++ heard ++ noted ++ done) =
          (Visit.footsteps ⟨.here index, rule, true, unasked⟩).map (Footstep.seated seat) := by
        rw [steps_of_visit]
        simp [preparedSteps, heardSteps, notedSteps, doneSteps]
      cases named : rule.behaviour with
      | none =>
          have leads : rule.Leads true .whenTrue := ⟨rfl, named⟩
          refine (inner .whenTrue _).imp ?_ ?_
          · intro answer more toured
            rw [← List.append_assoc, ← List.append_assoc, ← List.append_assoc]
            exact .enter .whenTrue unasked leads begun toured
          · intro fault more interrupted
            rw [← List.append_assoc, ← List.append_assoc, ← List.append_assoc]
            exact .enter .whenTrue found unasked leads begun interrupted
      | some chosen =>
          refine .bind (repertoire.armIf_leaves _) ?_ fun _ armed armedSteps => .pure ?_
          · rintro fault marks ⟨span, reached, delayed, none, fails⟩
            rw [← List.append_assoc, ← List.append_assoc, ← List.append_assoc]
            have whole : footsteps (prepared ++ heard ++ noted ++ done ++ marks) =
                (Visit.footsteps ⟨.here index, rule, true, unasked⟩).map
                  (Footstep.seated seat) := by
              rw [footsteps_append, none, List.append_nil, begun]
            exact .here true _ found unasked (whole ▸ List.prefix_rfl) (.arming delayed fails)
          · refine ⟨_, _, .choose named, ?_, rfl⟩
            rw [List.flatMap_singleton, List.append_nil, ← begun]
            simp [armedSteps]

theorem walk_tours (repertoire : Repertoire vocabulary) (rules : List (Rule vocabulary)) :
    ∀ (seat : Place → Place) (depth index : Nat) (all : List (Rule vocabulary)),
      all.drop index = rules → Tours repertoire seat depth index rules all := by
  induction rules using Rule.branchInduction with
  | nil =>
      intro seat depth index all stretch
      unfold Tours
      rw [Rule.allPlaced, Walker.walkFrom]
      exact .pure ⟨[], none, .nil index, rfl, rfl⟩
  | cons rule rules ihTrue ihFalse ih =>
      intro seat depth index all stretch
      obtain ⟨found, behind⟩ := getElem?_of_drop stretch
      have inner (branch : Branch) (seat : Place → Place) :
          Tours repertoire seat (depth + 1) 0 (rule.branch branch) (rule.branch branch) := by
        cases branch with
        | whenTrue => exact ihTrue seat (depth + 1) 0 rule.whenTrue rfl
        | whenFalse => exact ihFalse seat (depth + 1) 0 rule.whenFalse rfl
      unfold Tours
      rw [Rule.allPlaced, Walker.walkFrom]
      refine .bind (visit_tours depth found inner) ?_ fun answer marks toured => ?_
      · rintro fault marks ⟨⟨visits, chosen, tour, steps⟩, stumbled⟩
        obtain ⟨later, reached, whole⟩ := tour.exists_cons rules
        refine ⟨⟨visits ++ later, reached, whole, ?_⟩, stumbled⟩
        rw [List.flatMap_append, List.map_append]
        exact steps.trans (List.prefix_append _ _)
      · obtain ⟨visits, chosen, tour, steps, rfl⟩ := toured
        cases chosen with
        | some reached =>
            refine .pure ⟨visits, some reached, tour.cons_of_some, ?_, rfl⟩
            rw [List.append_nil, steps]
        | none =>
            refine (ih seat depth (index + 1) all behind).imp ?_ ?_
            · rintro reply more ⟨later, reached, rest, laterSteps, rfl⟩
              refine ⟨visits ++ later, reached, tour.append rest, ?_, rfl⟩
              rw [footsteps_append, steps, laterSteps, List.flatMap_append, List.map_append]
            · rintro fault more ⟨⟨later, reached, rest, laterSteps⟩, before, place, failing, during,
                rfl, stumbled⟩
              refine ⟨⟨visits ++ later, reached, tour.append rest, ?_⟩, marks ++ before, place,
                failing, during, (List.append_assoc _ _ _).symm, stumbled⟩
              rw [footsteps_append, steps, List.flatMap_append, List.map_append]
              exact (List.prefix_append_right_inj _).mpr laterSteps

end PriorityAgents
