import Mathlib.Data.List.Nodup
import PriorityAgents.Proofs.Rule.Place

/-!
The tours that a walk over a tree may take, whatever its conditions answer.

A tour is made of visits. A rule that is visited may end the tour, and otherwise it leads into one
of its branches; a branch in which nothing is chosen leads back to the rule behind it. What the
rules have done on the way is read off the visits.
-/

set_option autoImplicit false

namespace PriorityAgents

variable {vocabulary : Vocabulary}

/-- A rule that a walk comes by, and whether it matched. A rule without a condition always does. -/
structure Visit (vocabulary : Vocabulary) where
  place : Place
  rule : Rule vocabulary
  isMatch : Bool
  unasked : rule.condition = none → isMatch = true

/-- What a watcher sees of a walk: a callback is called, or a condition has answered. -/
inductive Footstep where
  | called (callback : Callback)
  | answered (place : Place) (answer : Bool)
deriving DecidableEq, Repr

namespace Footstep

def callback? : Footstep → Option Callback
  | .called callback => some callback
  | .answered _ _ => none

def seated (seat : Place → Place) : Footstep → Footstep
  | .called callback => .called (callback.seated seat)
  | .answered place answer => .answered (seat place) answer

theorem seated_seated (outer inner : Place → Place) (footstep : Footstep) :
    (footstep.seated inner).seated outer = footstep.seated fun place => outer (inner place) := by
  cases footstep <;> rfl

theorem map_seated_id (footsteps : List Footstep) : footsteps.map (seated id) = footsteps := by
  have same : seated id = id := by
    funext footstep
    cases footstep <;> rfl
  rw [same, List.map_id]

private theorem callback?_seated (seat : Place → Place) (footstep : Footstep) :
    (footstep.seated seat).callback? = footstep.callback?.map (Callback.seated seat) := by
  cases footstep <;> rfl

end Footstep

namespace Visit

def seated (seat : Place → Place) (visit : Visit vocabulary) : Visit vocabulary :=
  { visit with place := seat visit.place }

/-- What a rule has done when it is visited: its precheck, then its condition, whatever that will
answer, and what it does on a match if it matches. -/
def footsteps (visit : Visit vocabulary) : List Footstep :=
  (visit.rule.precheck.map fun _ => Footstep.called ⟨visit.place, .precheck⟩).toList ++
    (match visit.rule.condition with
      | some _ => [.called ⟨visit.place, .condition⟩, .answered visit.place visit.isMatch]
      | none => []) ++
    if visit.isMatch then
      (visit.rule.onMatch.map fun _ => Footstep.called ⟨visit.place, .onMatch⟩).toList
    else []

theorem footsteps_seated (seat : Place → Place) (visit : Visit vocabulary) :
    (visit.seated seat).footsteps = visit.footsteps.map (Footstep.seated seat) := by
  obtain ⟨place, ⟨precheck, condition, onMatch, _, _, _, _⟩, isMatch, _⟩ := visit
  cases precheck <;> cases condition <;> cases onMatch <;> cases isMatch <;> rfl

theorem flatMap_footsteps_seated (seat : Place → Place) (visits : List (Visit vocabulary)) :
    (visits.map (Visit.seated seat)).flatMap footsteps =
      (visits.flatMap footsteps).map (Footstep.seated seat) := by
  rw [List.flatMap_map, List.map_flatMap]
  exact List.flatMap_congr fun visit _ => footsteps_seated seat visit

private theorem callbacks_sublist (visit : Visit vocabulary) :
    (visit.footsteps.filterMap Footstep.callback?).Sublist (visit.rule.callbacks visit.place) := by
  obtain ⟨place, ⟨precheck, condition, onMatch, _, _, _, _⟩, isMatch, _⟩ := visit
  cases precheck <;> cases condition <;> cases onMatch <;> cases isMatch <;>
    simp [footsteps, Rule.callbacks, Footstep.callback?, List.filterMap_cons]

end Visit

def calls (footsteps : List Footstep) : List Callback := footsteps.filterMap Footstep.callback?

@[simp] theorem calls_append (first second : List Footstep) :
    calls (first ++ second) = calls first ++ calls second := List.filterMap_append

private theorem calls_seated (seat : Place → Place) (footsteps : List Footstep) :
    calls (footsteps.map (Footstep.seated seat)) =
      (calls footsteps).map (Callback.seated seat) := by
  unfold calls
  rw [List.filterMap_map, List.map_filterMap]
  exact List.filterMap_congr fun footstep _ => footstep.callback?_seated seat

/-! ### The listing of a tree -/

namespace Rule

private theorem place_of_callbacks {rule : Rule vocabulary} {place : Place} {callback : Callback}
    (member : callback ∈ rule.callbacks place) :
    callback.place = place ∧ callback.part ≠ .behaviour := by
  simp only [callbacks, List.mem_append, Option.mem_toList, Option.map_eq_some_iff] at member
  rcases member with (⟨_, _, rfl⟩ | ⟨_, _, rfl⟩) | ⟨_, _, rfl⟩ <;> exact ⟨rfl, nofun⟩

private theorem nodup_callbacks (rule : Rule vocabulary) (place : Place) :
    (rule.callbacks place).Nodup := by
  obtain ⟨precheck, condition, onMatch, _, _, _, _⟩ := rule
  cases precheck <;> cases condition <;> cases onMatch <;> simp [callbacks]

private theorem le_head_of_listing {index : Nat} {rules : List (Rule vocabulary)}
    {callback : Callback}
    (member : callback ∈ listing index rules) : index ≤ callback.place.head := by
  induction rules generalizing index with
  | nil => cases member
  | cons rule rules ih =>
      simp only [listing_cons, List.mem_append, List.mem_map] at member
      rcases member with own | ⟨_, _, rfl⟩ | ⟨_, _, rfl⟩ | later
      · rw [(place_of_callbacks own).1]
        exact Nat.le_refl index
      · exact Nat.le_refl index
      · exact Nat.le_refl index
      · exact Nat.le_of_succ_le (ih later)

theorem nodup_listing (index : Nat) (rules : List (Rule vocabulary)) :
    (listing index rules).Nodup := by
  induction rules using branchInduction generalizing index with
  | nil => exact List.nodup_nil
  | cons rule rules ihTrue ihFalse ih =>
      have seated (branch : Branch) {inner : List Callback} (nodup : inner.Nodup) :
          (inner.map (Callback.seated (.within index branch))).Nodup :=
        nodup.map (Callback.seated_injective (Place.within_injective index branch))
      have later {callback : Callback} (member : callback ∈ listing (index + 1) rules)
          (here : callback.place.head = index) : False := by
        have bound := le_head_of_listing member
        omega
      rw [listing_cons, List.nodup_append, List.nodup_append, List.nodup_append]
      refine ⟨nodup_callbacks rule _, ⟨seated .whenTrue (ihTrue 0), ⟨seated .whenFalse (ihFalse 0),
        ih (index + 1), ?_⟩, ?_⟩, ?_⟩
      · intro inner innerMember other otherMember same
        obtain ⟨_, _, rfl⟩ := List.mem_map.mp innerMember
        exact later (same ▸ otherMember) rfl
      · intro inner innerMember other otherMember same
        obtain ⟨_, _, rfl⟩ := List.mem_map.mp innerMember
        rcases List.mem_append.mp otherMember with otherInner | behind
        · obtain ⟨_, _, rfl⟩ := List.mem_map.mp otherInner
          cases congrArg Callback.place same
        · exact later (same ▸ behind) rfl
      · intro own ownMember other otherMember same
        subst same
        have place := (place_of_callbacks ownMember).1
        rcases List.mem_append.mp otherMember with inner | otherMember
        · obtain ⟨_, _, rfl⟩ := List.mem_map.mp inner
          cases place
        · rcases List.mem_append.mp otherMember with inner | behind
          · obtain ⟨_, _, rfl⟩ := List.mem_map.mp inner
            cases place
          · exact later behind (congrArg Place.head place)

theorem ne_behaviour_of_listing {index : Nat} {rules : List (Rule vocabulary)} {callback : Callback}
    (member : callback ∈ listing index rules) : callback.part ≠ .behaviour := by
  induction rules using branchInduction generalizing index callback with
  | nil => cases member
  | cons rule rules ihTrue ihFalse ih =>
      simp only [listing_cons, List.mem_append, List.mem_map] at member
      rcases member with own | ⟨_, inner, rfl⟩ | ⟨_, inner, rfl⟩ | later
      · exact (place_of_callbacks own).2
      · exact (ihTrue inner :)
      · exact (ihFalse inner :)
      · exact ih later

end Rule

/-! ### Tours -/

/-- A tour of rules, of which the first has the given position: its visits, and the place and the
behaviour of the rule that is chosen in the end. -/
inductive Tour : Nat → List (Rule vocabulary) → List (Visit vocabulary) →
    Option (Place × vocabulary.Action) → Prop where
  | nil (index : Nat) : Tour index [] [] none
  | choose {index : Nat} {rule : Rule vocabulary} {rules : List (Rule vocabulary)}
      {behaviour : vocabulary.Action} (named : rule.behaviour = some behaviour) :
      Tour index (rule :: rules) [⟨.here index, rule, true, fun _ => rfl⟩]
        (some (.here index, behaviour))
  /-- The branch that a rule leads into has an answer. -/
  | found {index : Nat} {rule : Rule vocabulary} {rules : List (Rule vocabulary)} {isMatch : Bool}
      {branch : Branch} {visits : List (Visit vocabulary)} {place : Place}
      {behaviour : vocabulary.Action} (unasked : rule.condition = none → isMatch = true)
      (leads : rule.Leads isMatch branch)
      (inner : Tour 0 (rule.branch branch) visits (some (place, behaviour))) :
      Tour index (rule :: rules)
        (⟨.here index, rule, isMatch, unasked⟩ ::
          visits.map (Visit.seated (.within index branch)))
        (some (.within index branch place, behaviour))
  /-- The branch that a rule leads into has none, and the tour goes on behind the rule. -/
  | missed {index : Nat} {rule : Rule vocabulary} {rules : List (Rule vocabulary)} {isMatch : Bool}
      {branch : Branch} {visits later : List (Visit vocabulary)}
      {chosen : Option (Place × vocabulary.Action)}
      (unasked : rule.condition = none → isMatch = true) (leads : rule.Leads isMatch branch)
      (inner : Tour 0 (rule.branch branch) visits none)
      (rest : Tour (index + 1) rules later chosen) :
      Tour index (rule :: rules)
        (⟨.here index, rule, isMatch, unasked⟩ ::
          (visits.map (Visit.seated (.within index branch)) ++ later))
        chosen

private theorem Rule.Leads.branch_eq {rule : Rule vocabulary} {isMatch : Bool} {left right : Branch}
    (first : rule.Leads isMatch left) (second : rule.Leads isMatch right) : left = right := by
  cases left <;> cases right <;> simp_all [Rule.Leads]

namespace Visit

/-- The rules on the way to the place of a visit are among the visits before it, and each of them
has led into the branch that is on the way. -/
def Descends (visits : List (Visit vocabulary)) (visit : Visit vocabulary) : Prop :=
  ∀ ancestor branch, (ancestor, branch) ∈ visit.place.ancestors →
    ∃ earlier, [earlier, visit].Sublist visits ∧ earlier.place = ancestor ∧
      earlier.rule.Leads earlier.isMatch branch

namespace Descends

variable {visits more : List (Visit vocabulary)} {visit : Visit vocabulary} {index : Nat}

private theorem of_here (outermost : visit.place = .here index) : visit.Descends visits := by
  intro ancestor branch above
  rw [outermost] at above
  cases above

theorem mono (descends : visit.Descends visits) (part : visits.Sublist more) :
    visit.Descends more := by
  intro ancestor branch above
  obtain ⟨earlier, order, rest⟩ := descends ancestor branch above
  exact ⟨earlier, order.trans part, rest⟩

private theorem within {rule : Rule vocabulary} {isMatch : Bool} {branch : Branch}
    (unasked : rule.condition = none → isMatch = true) (leads : rule.Leads isMatch branch)
    (inner : ∀ visit ∈ visits, visit.Descends visits)
    (member : visit ∈ visits.map (Visit.seated (.within index branch))) :
    visit.Descends (⟨.here index, rule, isMatch, unasked⟩ ::
      visits.map (Visit.seated (.within index branch))) := by
  intro ancestor side above
  obtain ⟨visited, visitedMember, rfl⟩ := List.mem_map.mp member
  rcases List.mem_cons.mp above with same | above
  · cases same
    exact ⟨_, (List.singleton_sublist.mpr member).cons_cons _, rfl, leads⟩
  · obtain ⟨⟨outer, outerSide⟩, outerMember, same⟩ := List.mem_map.mp above
    cases same
    obtain ⟨earlier, order, place, leadsOn⟩ := inner visited visitedMember outer _ outerMember
    exact ⟨earlier.seated (.within index branch), (order.map _).cons _,
      congrArg (Place.within index branch) place, leadsOn⟩

end Descends

end Visit

theorem getElem?_of_drop {rules all : List (Rule vocabulary)} {rule : Rule vocabulary} {index : Nat}
    (stretch : all.drop index = rule :: rules) :
    all[index]? = some rule ∧ all.drop (index + 1) = rules := by
  constructor
  · have first : (all.drop index)[0]? = some rule := by rw [stretch]; rfl
    rwa [List.getElem?_drop] at first
  · rw [← List.drop_drop, stretch]
    rfl

namespace Tour

variable {index : Nat} {rules all : List (Rule vocabulary)} {visits : List (Visit vocabulary)}
  {chosen : Option (Place × vocabulary.Action)}

theorem stands (tour : Tour index rules visits chosen) (stretch : all.drop index = rules) :
    ∀ visit ∈ visits, Rule.at? all visit.place = some visit.rule := by
  induction tour generalizing all with
  | nil index => exact nofun
  | choose named =>
      intro visit member
      rw [List.mem_singleton.mp member]
      exact (getElem?_of_drop stretch).1
  | @found index rule rules isMatch branch visits place behaviour unasked leads inner ih =>
      have first := (getElem?_of_drop stretch).1
      intro visit member
      rcases List.mem_cons.mp member with rfl | within
      · exact first
      · obtain ⟨visited, visitedMember, rfl⟩ := List.mem_map.mp within
        exact (Rule.at?_within first branch _).trans (ih rfl visited visitedMember)
  | @missed index rule rules isMatch branch visits later chosen unasked leads inner rest ihInner
      ihRest =>
      obtain ⟨first, behind⟩ := getElem?_of_drop stretch
      intro visit member
      rcases List.mem_cons.mp member with rfl | member
      · exact first
      · rcases List.mem_append.mp member with within | after
        · obtain ⟨visited, visitedMember, rfl⟩ := List.mem_map.mp within
          exact (Rule.at?_within first branch _).trans (ihInner rfl visited visitedMember)
        · exact ihRest behind visit after

private theorem calls_within {rule : Rule vocabulary} {branch : Branch}
    (inner : (calls (visits.flatMap Visit.footsteps)).Sublist
      (Rule.listing 0 (rule.branch branch))) :
    (calls ((visits.map (Visit.seated (.within index branch))).flatMap Visit.footsteps)).Sublist
      ((Rule.listing 0 rule.whenTrue).map (Callback.seated (.within index .whenTrue)) ++
        (Rule.listing 0 rule.whenFalse).map (Callback.seated (.within index .whenFalse))) := by
  rw [Visit.flatMap_footsteps_seated, calls_seated]
  cases branch with
  | whenTrue => exact (inner.map _).trans (List.sublist_append_left _ _)
  | whenFalse => exact (inner.map _).trans (List.sublist_append_right _ _)

theorem calls_sublist (tour : Tour index rules visits chosen) :
    (calls (visits.flatMap Visit.footsteps)).Sublist (Rule.listing index rules) := by
  induction tour with
  | nil index => exact List.nil_sublist _
  | choose named =>
      rw [Rule.listing_cons, List.flatMap_singleton]
      exact (Visit.callbacks_sublist _).trans (List.sublist_append_left _ _)
  | found unasked leads inner ih =>
      rw [Rule.listing_cons, List.flatMap_cons, calls_append, ← List.append_assoc (List.map _ _)]
      exact (Visit.callbacks_sublist _).append
        ((calls_within ih).trans (List.sublist_append_left _ _))
  | missed unasked leads inner rest ihInner ihRest =>
      rw [Rule.listing_cons, List.flatMap_cons, calls_append, List.flatMap_append, calls_append,
        ← List.append_assoc (List.map _ _)]
      exact (Visit.callbacks_sublist _).append ((calls_within ihInner).append ihRest)

theorem descends (tour : Tour index rules visits chosen) :
    ∀ visit ∈ visits, visit.Descends visits := by
  induction tour with
  | nil index => exact nofun
  | choose named =>
      intro visit member
      rw [List.mem_singleton.mp member]
      exact .of_here rfl
  | found unasked leads inner ih =>
      intro visit member
      rcases List.mem_cons.mp member with rfl | member
      · exact .of_here rfl
      · exact .within unasked leads ih member
  | missed unasked leads inner rest ihInner ihRest =>
      intro visit member
      rcases List.mem_cons.mp member with rfl | member
      · exact .of_here rfl
      · rcases List.mem_append.mp member with inside | after
        · exact (Visit.Descends.within unasked leads ihInner inside).mono
            ((List.sublist_append_left _ _).cons_cons _)
        · exact (ihRest visit after).mono ((List.sublist_append_right _ _).cons _)

theorem getLast?_of_chosen {place : Place} {behaviour : vocabulary.Action}
    (tour : Tour index rules visits (some (place, behaviour))) :
    ∃ visit, visits.getLast? = some visit ∧ visit.place = place ∧ visit.isMatch = true ∧
      visit.rule.behaviour = some behaviour := by
  generalize reached : some (place, behaviour) = chosen at tour
  induction tour generalizing place with
  | nil index => cases reached
  | choose named =>
      cases reached
      exact ⟨_, rfl, rfl, rfl, named⟩
  | found unasked leads inner ih =>
      cases reached
      obtain ⟨visit, last, rfl, rest⟩ := ih rfl
      refine ⟨visit.seated _, ?_, rfl, rest⟩
      rw [List.getLast?_cons, List.getLast?_map, last]
      rfl
  | missed unasked leads inner rest ihInner ihRest =>
      obtain ⟨visit, last, stands⟩ := ihRest reached
      refine ⟨visit, ?_, stands⟩
      rw [List.getLast?_cons, List.getLast?_append, last]
      rfl

theorem not_leaf_of_none (tour : Tour index rules visits chosen) (without : chosen = none) :
    ∀ rule ∈ rules, rule.isUnconditionalLeaf = false := by
  induction tour with
  | nil index => exact nofun
  | choose named => cases without
  | found unasked leads inner ih => cases without
  | @missed index rule rules isMatch branch visits later chosen unasked leads inner rest ihInner
      ihRest =>
      intro other member
      rcases List.mem_cons.mp member with rfl | behind
      · cases asked : other.condition with
        | some question => simp [Rule.isUnconditionalLeaf, asked]
        | none =>
            cases branch with
            | whenTrue => simp [Rule.isUnconditionalLeaf, leads.2]
            | whenFalse => exact absurd ((unasked asked).symm.trans leads) Bool.noConfusion
      · exact ihRest without other behind

/-! A tour of one rule, and what it becomes where other rules are behind the rule. -/

theorem cons_of_some {rule : Rule vocabulary} {found : Place × vocabulary.Action}
    (tour : Tour index [rule] visits (some found)) :
    Tour index (rule :: rules) visits (some found) := by
  cases tour with
  | choose named => exact .choose named
  | found unasked leads inner => exact .found unasked leads inner
  | missed unasked leads inner rest => cases rest

theorem append {rule : Rule vocabulary} {later : List (Visit vocabulary)}
    (tour : Tour index [rule] visits none) (rest : Tour (index + 1) rules later chosen) :
    Tour index (rule :: rules) (visits ++ later) chosen := by
  cases tour with
  | missed unasked leads inner nothing =>
      cases nothing
      rw [List.append_nil]
      exact .missed unasked leads inner rest

/-! ### There is always a tour -/

theorem enter {rule : Rule vocabulary} {isMatch : Bool} {branch : Branch}
    (total : ∃ later found, Tour (index + 1) rules later found)
    (unasked : rule.condition = none → isMatch = true) (leads : rule.Leads isMatch branch)
    (inner : Tour 0 (rule.branch branch) visits chosen) :
    ∃ later found, Tour index (rule :: rules)
      (⟨.here index, rule, isMatch, unasked⟩ ::
        (visits.map (Visit.seated (.within index branch)) ++ later)) found := by
  cases chosen with
  | some reached =>
      refine ⟨[], some (.within index branch reached.1, reached.2), ?_⟩
      rw [List.append_nil]
      exact .found unasked leads inner
  | none =>
      obtain ⟨later, found, rest⟩ := total
      exact ⟨later, found, .missed unasked leads inner rest⟩

end Tour

theorem exists_tour_cons {index : Nat} {rule : Rule vocabulary} {rules : List (Rule vocabulary)}
    (whenTrue : ∃ visits chosen, Tour 0 rule.whenTrue visits chosen)
    (whenFalse : ∃ visits chosen, Tour 0 rule.whenFalse visits chosen)
    (total : ∃ later found, Tour (index + 1) rules later found) (isMatch : Bool)
    (unasked : rule.condition = none → isMatch = true) :
    ∃ later found,
      Tour index (rule :: rules) (⟨.here index, rule, isMatch, unasked⟩ :: later) found := by
  cases isMatch with
  | false =>
      obtain ⟨visits, chosen, inner⟩ := whenFalse
      have leads : rule.Leads false .whenFalse := rfl
      obtain ⟨later, found, tour⟩ := Tour.enter total unasked leads inner
      exact ⟨_, found, tour⟩
  | true =>
      cases named : rule.behaviour with
      | some behaviour => exact ⟨[], _, .choose named⟩
      | none =>
          obtain ⟨visits, chosen, inner⟩ := whenTrue
          have leads : rule.Leads true .whenTrue := ⟨rfl, named⟩
          obtain ⟨later, found, tour⟩ := Tour.enter total unasked leads inner
          exact ⟨_, found, tour⟩

theorem exists_tour (index : Nat) (rules : List (Rule vocabulary)) :
    ∃ visits chosen, Tour index rules visits chosen := by
  induction rules using Rule.branchInduction generalizing index with
  | nil => exact ⟨[], none, .nil index⟩
  | cons rule rules ihTrue ihFalse ih =>
      obtain ⟨later, found, tour⟩ :=
        exists_tour_cons (ihTrue 0) (ihFalse 0) (ih (index + 1)) true fun _ => rfl
      exact ⟨_, found, tour⟩

theorem Tour.exists_cons {index : Nat} {rule : Rule vocabulary} {visits : List (Visit vocabulary)}
    {chosen : Option (Place × vocabulary.Action)} (tour : Tour index [rule] visits chosen)
    (rules : List (Rule vocabulary)) :
    ∃ later found, Tour index (rule :: rules) (visits ++ later) found := by
  cases chosen with
  | some reached =>
      refine ⟨[], some reached, ?_⟩
      rw [List.append_nil]
      exact tour.cons_of_some
  | none =>
      obtain ⟨later, found, rest⟩ := exists_tour (index + 1) rules
      exact ⟨later, found, tour.append rest⟩

/-! ### The first rule that may be chosen -/

/-- A choice among rules, of which those in question have at least the given position: the first
one that is enabled, and none only if none is. -/
def Rule.IsFirst (answers : Place → Bool) (rules : List (Rule vocabulary)) (index : Nat) :
    Option (Place × vocabulary.Action) → Prop
  | some (place, behaviour) => Enabled answers rules place behaviour ∧
      ∀ other action, Enabled answers rules other action → index ≤ other.head →
        place ≤ other
  | none => ∀ other action, Enabled answers rules other action → other.head < index

namespace Rule

variable {answers : Place → Bool} {rules : List (Rule vocabulary)} {rule : Rule vocabulary}
  {index : Nat} {branch : Branch} {isMatch : Bool}

private theorem enabled_of_leads (found : rules[index]? = some rule)
    (heard : isMatch = rule.matchesOn (answers (.here index))) (leads : rule.Leads isMatch branch)
    {other : Place} {action : vocabulary.Action} (enabled : Enabled answers rules other action)
    (head : other.head = index) :
    ∃ inner, other = .within index branch inner ∧
      Enabled (fun inner => answers (.within index branch inner)) (rule.branch branch) inner
        action := by
  cases other with
  | here position =>
      obtain rfl : position = index := head
      obtain ⟨same, sameFound, named, holds⟩ := enabled_here.mp enabled
      obtain rfl := Option.some.inj (found.symm.trans sameFound)
      rw [← heard] at holds
      cases branch with
      | whenTrue => exact absurd (named.symm.trans leads.2) nofun
      | whenFalse => exact absurd (holds.symm.trans leads) nofun
  | within position side inner =>
      obtain rfl : position = index := head
      obtain ⟨same, sameFound, otherLeads, inside⟩ := enabled_within.mp enabled
      obtain rfl := Option.some.inj (found.symm.trans sameFound)
      rw [← heard] at otherLeads
      obtain rfl := otherLeads.branch_eq leads
      exact ⟨inner, rfl, inside⟩

end Rule

/-- If all that was asked on a tour answered as given, the tour ends with the first rule that is
enabled. -/
theorem Tour.isFirst {answers : Place → Bool} {index : Nat} {rules all : List (Rule vocabulary)}
    {visits : List (Visit vocabulary)} {chosen : Option (Place × vocabulary.Action)}
    (tour : Tour index rules visits chosen) (stretch : all.drop index = rules)
    (heard : ∀ visit ∈ visits, visit.isMatch = visit.rule.matchesOn (answers visit.place)) :
    Rule.IsFirst answers all index chosen := by
  induction tour generalizing all answers with
  | nil index =>
      intro other action enabled
      obtain ⟨rule, found⟩ : ∃ rule, all[other.head]? = some rule := by
        cases other with
        | here position => exact (Rule.enabled_here.mp enabled).imp fun _ given => given.1
        | within position side inner =>
            exact (Rule.enabled_within.mp enabled).imp fun _ given => given.1
      have short := List.drop_eq_nil_iff.mp stretch
      have long := (List.getElem?_eq_some_iff.mp found).1
      omega
  | @choose index rule rules behaviour named =>
      obtain ⟨found, _⟩ := getElem?_of_drop stretch
      have holds := heard _ List.mem_cons_self
      exact ⟨Rule.enabled_here.mpr ⟨rule, found, named, holds.symm⟩,
        fun other action enabled bound => Place.here_le bound⟩
  | @found index rule rules isMatch branch visits place behaviour unasked leads inner ih =>
      obtain ⟨found, _⟩ := getElem?_of_drop stretch
      have holds := heard _ List.mem_cons_self
      obtain ⟨enabled, least⟩ : Rule.IsFirst (fun inner => answers (.within index branch inner))
          (rule.branch branch) 0 (some (place, behaviour)) :=
        ih rfl fun visit member => heard _ (List.mem_cons_of_mem _ (List.mem_map_of_mem member))
      constructor
      · exact Rule.enabled_within.mpr ⟨rule, found, holds ▸ leads, enabled⟩
      · intro other action otherEnabled bound
        rcases Nat.lt_or_eq_of_le bound with behind | same
        · exact Place.le_of_head_lt behind
        · obtain ⟨deeper, rfl, deeperEnabled⟩ :=
            Rule.enabled_of_leads found holds leads otherEnabled same.symm
          exact Place.within_le (least deeper action deeperEnabled (Nat.zero_le _))
  | @missed index rule rules isMatch branch visits later chosen unasked leads inner rest ihInner
      ihRest =>
      obtain ⟨found, behind⟩ := getElem?_of_drop stretch
      have holds := heard _ List.mem_cons_self
      have empty : Rule.IsFirst (fun inner => answers (.within index branch inner))
          (rule.branch branch) 0 none :=
        ihInner rfl fun visit member => heard _
          (List.mem_cons_of_mem _ (List.mem_append_left _ (List.mem_map_of_mem member)))
      have passed {other : Place} {action : vocabulary.Action}
          (enabled : Rule.Enabled answers all other action) : other.head ≠ index := by
        intro same
        obtain ⟨deeper, _, deeperEnabled⟩ := Rule.enabled_of_leads found holds leads enabled same
        exact absurd (empty deeper action deeperEnabled) (Nat.not_lt_zero _)
      have remaining := ihRest behind fun visit member =>
        heard visit (List.mem_cons_of_mem _ (List.mem_append_right _ member))
      cases chosen with
      | none =>
          intro other action enabled
          have bound := remaining other action enabled
          have different := passed enabled
          omega
      | some reached =>
          refine ⟨remaining.1, fun other action enabled bound => ?_⟩
          have different := passed enabled
          exact remaining.2 other action enabled (by omega)

end PriorityAgents
