import PriorityAgents.Rule.Basic

/-!
The places of the rules in a tree, and what a tree says about them without being walked.

A place is the way from the root to a rule: at every level the position among the siblings, and
between two levels the branch that is taken. Places in the order of their paths are the rules from
left to right, each one before its branches.
-/

set_option autoImplicit false

namespace PriorityAgents

inductive Branch where
  | whenTrue
  | whenFalse
deriving DecidableEq, Repr

def Branch.rank : Branch → Nat
  | .whenTrue => 0
  | .whenFalse => 1

inductive Place where
  | here (index : Nat)
  | within (index : Nat) (branch : Branch) (place : Place)
deriving DecidableEq, Repr

namespace Place

def head : Place → Nat
  | .here index | .within index _ _ => index

def path : Place → List Nat
  | .here index => [index]
  | .within index branch place => index :: branch.rank :: place.path

/-- The rules on the way to a place, outermost first, each with the branch that is taken there. -/
def ancestors : Place → List (Place × Branch)
  | .here _ => []
  | .within index branch place =>
      (.here index, branch) ::
        place.ancestors.map fun above => (.within index branch above.1, above.2)

theorem within_injective (index : Nat) (branch : Branch) :
    Function.Injective (within index branch) := by
  intro left right same
  cases same
  rfl

theorem path_injective : Function.Injective path := by
  intro left
  induction left with
  | here index =>
      intro right same
      cases right with
      | here other => exact congrArg Place.here (List.cons.inj same).1
      | within other branch place => cases (List.cons.inj same).2
  | within index branch place ih =>
      intro right same
      cases right with
      | here other => cases (List.cons.inj same).2
      | within other otherBranch otherPlace =>
          obtain ⟨rfl, rest⟩ := List.cons.inj same
          obtain ⟨rank, path⟩ := List.cons.inj rest
          rw [ih path]
          cases branch <;> cases otherBranch <;> first | rfl | cases rank

/-- Places are compared by their paths, and no two of them have the same one. -/
instance : LE Place := ⟨fun left right => List.le left.path right.path⟩

theorem le_of_head_lt {left right : Place} (before : left.head < right.head) : left ≤ right := by
  cases left <;> cases right <;> exact List.cons_le_cons_iff.mpr (.inl before)

theorem here_le {index : Nat} {place : Place} (above : index ≤ place.head) :
    here index ≤ place := by
  rcases Nat.lt_or_eq_of_le above with before | same
  · exact le_of_head_lt before
  · cases place with
    | here other => exact List.cons_le_cons_iff.mpr (.inr ⟨same, List.nil_le _⟩)
    | within other branch place => exact List.cons_le_cons_iff.mpr (.inr ⟨same, List.nil_le _⟩)

theorem within_le {index : Nat} {branch : Branch} {left right : Place} (ordered : left ≤ right) :
    within index branch left ≤ within index branch right :=
  List.cons_le_cons_iff.mpr (.inr ⟨rfl, List.cons_le_cons_iff.mpr (.inr ⟨rfl, ordered⟩)⟩)

end Place

/-! ### The rules at the places -/

namespace Rule

variable {vocabulary : Vocabulary}

def branch (rule : Rule vocabulary) : Branch → List (Rule vocabulary)
  | .whenTrue => rule.whenTrue
  | .whenFalse => rule.whenFalse

def at? (rules : List (Rule vocabulary)) : Place → Option (Rule vocabulary)
  | .here index => rules[index]?
  | .within index branch place => rules[index]?.bind fun rule => at? (rule.branch branch) place

/-- Whether a rule matches if its condition has a given answer. -/
def matchesOn (rule : Rule vocabulary) (answer : Bool) : Bool :=
  rule.condition.isNone || answer

/-- Whether a branch of a rule is looked at: the one for the case at hand, and no branch of a rule
that has matched and has a behaviour. -/
def Leads (rule : Rule vocabulary) (isMatch : Bool) : Branch → Prop
  | .whenTrue => isMatch = true ∧ rule.behaviour = none
  | .whenFalse => isMatch = false

/-- Given the answers to the conditions, the rule at a place is one that may be chosen, and its
behaviour would be the one that is. -/
structure Enabled (answers : Place → Bool) (rules : List (Rule vocabulary)) (place : Place)
    (behaviour : vocabulary.Action) : Prop where
  own : ∃ rule, at? rules place = some rule ∧ rule.behaviour = some behaviour ∧
    rule.matchesOn (answers place) = true
  above : ∀ ancestor branch, (ancestor, branch) ∈ place.ancestors →
    ∃ rule, at? rules ancestor = some rule ∧
      rule.Leads (rule.matchesOn (answers ancestor)) branch

variable {answers : Place → Bool} {rules : List (Rule vocabulary)} {index : Nat} {branch : Branch}
  {place : Place} {behaviour : vocabulary.Action}

theorem at?_within {rule : Rule vocabulary} (found : rules[index]? = some rule) (branch : Branch)
    (inner : Place) : at? rules (.within index branch inner) = at? (rule.branch branch) inner := by
  rw [at?, found, Option.bind_some]

theorem enabled_here :
    Enabled answers rules (.here index) behaviour ↔
      ∃ rule, rules[index]? = some rule ∧ rule.behaviour = some behaviour ∧
        rule.matchesOn (answers (.here index)) = true :=
  ⟨Enabled.own, fun own => ⟨own, nofun⟩⟩

theorem enabled_within :
    Enabled answers rules (.within index branch place) behaviour ↔
      ∃ rule, rules[index]? = some rule ∧
        rule.Leads (rule.matchesOn (answers (.here index))) branch ∧
        Enabled (fun inner => answers (.within index branch inner)) (rule.branch branch) place
          behaviour := by
  constructor
  · intro enabled
    obtain ⟨rule, found, leads⟩ := enabled.above (.here index) branch List.mem_cons_self
    change rules[index]? = some rule at found
    refine ⟨rule, found, leads, ?_, ?_⟩
    · obtain ⟨own, ownFound, rest⟩ := enabled.own
      rw [at?_within found] at ownFound
      exact ⟨own, ownFound, rest⟩
    · intro ancestor side member
      obtain ⟨other, otherFound, rest⟩ := enabled.above (.within index branch ancestor) side
        (List.mem_cons_of_mem _ (List.mem_map_of_mem member))
      rw [at?_within found] at otherFound
      exact ⟨other, otherFound, rest⟩
  · intro given
    rcases given with ⟨rule, found, leads, enabled⟩
    constructor
    · rw [at?_within found]
      exact enabled.own
    · intro ancestor side member
      rcases List.mem_cons.mp member with same | later
      · cases same
        exact ⟨rule, found, leads⟩
      · obtain ⟨⟨inner, innerSide⟩, innerMember, same⟩ := List.mem_map.mp later
        cases same
        rw [at?_within found]
        exact enabled.above inner innerSide innerMember

end Rule

/-! ### The callbacks of a tree -/

/-- What a rule may have done: the parts of it that are code. -/
inductive Part where
  | precheck
  | condition
  | onMatch
  | behaviour
deriving DecidableEq, Repr

structure Callback where
  place : Place
  part : Part
deriving DecidableEq, Repr

namespace Callback

/-- The same part where its place is seen from further out. -/
def seated (seat : Place → Place) (callback : Callback) : Callback :=
  { callback with place := seat callback.place }

theorem seated_injective {seat : Place → Place} (injective : Function.Injective seat) :
    Function.Injective (seated seat) := by
  intro left right same
  cases left
  cases right
  simp only [seated, mk.injEq] at same
  rw [mk.injEq]
  exact ⟨injective same.1, same.2⟩

end Callback

namespace Rule

variable {vocabulary : Vocabulary}

/-- Whatever holds of no rules, and of a rule and the rules behind it if it holds of those and of
both branches of the rule, holds of all rules. -/
@[elab_as_elim] theorem branchInduction {motive : List (Rule vocabulary) → Prop}
    (nil : motive [])
    (cons : ∀ rule rules, motive rule.whenTrue → motive rule.whenFalse → motive rules →
      motive (rule :: rules)) :
    (rules : List (Rule vocabulary)) → motive rules
  | [] => nil
  | ⟨_, _, _, _, _, whenTrue, whenFalse⟩ :: rules =>
      cons _ _ (branchInduction nil cons whenTrue) (branchInduction nil cons whenFalse)
        (branchInduction nil cons rules)

/-- What a rule has done in a walk at most, in this order. -/
def callbacks (place : Place) (rule : Rule vocabulary) : List Callback :=
  (rule.precheck.map fun _ => Callback.mk place .precheck).toList ++
    (rule.condition.map fun _ => Callback.mk place .condition).toList ++
    (rule.onMatch.map fun _ => Callback.mk place .onMatch).toList

mutual

def branchListing (index : Nat) : Rule vocabulary → List Callback
  | ⟨precheck, condition, onMatch, behaviour, reconsiderAfter, whenTrue, whenFalse⟩ =>
      callbacks (.here index)
          ⟨precheck, condition, onMatch, behaviour, reconsiderAfter, whenTrue, whenFalse⟩ ++
        ((listing 0 whenTrue).map (Callback.seated (.within index .whenTrue)) ++
          (listing 0 whenFalse).map (Callback.seated (.within index .whenFalse)))

/-- The callbacks of rules, of which the first has the given position, and of all their branches,
each rule before its branches and these before the rules behind it. -/
def listing (index : Nat) : List (Rule vocabulary) → List Callback
  | [] => []
  | rule :: rules => branchListing index rule ++ listing (index + 1) rules

end

theorem listing_cons (index : Nat) (rule : Rule vocabulary) (rules : List (Rule vocabulary)) :
    listing index (rule :: rules) =
      callbacks (.here index) rule ++
        ((listing 0 rule.whenTrue).map (Callback.seated (.within index .whenTrue)) ++
          ((listing 0 rule.whenFalse).map (Callback.seated (.within index .whenFalse)) ++
            listing (index + 1) rules)) := by
  cases rule
  simp only [listing, branchListing, List.append_assoc]

end Rule

end PriorityAgents
