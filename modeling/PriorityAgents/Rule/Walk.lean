import PriorityAgents.Rule.Basic

/-!
The walk over a priority tree: depth first, in order, and the first rule that both matches and
names a behaviour ends it.

A branch that was entered and chose nothing is no failure; the walk goes on behind the rule that
the branch belongs to. What the walk does to the world around it is left to a walker, so the walk
is one definition for every kind of computation in which rules are carried out.
-/

set_option autoImplicit false

namespace PriorityAgents

/-- How the parts of a rule are carried out in a kind of computation. -/
structure Walker (vocabulary : Vocabulary) (computation : Type → Type) where
  test : vocabulary.Condition → computation Bool
  perform : vocabulary.Action → computation Unit
  arm : Span → computation Unit
  /-- Take note of a rule: its depth, its position among its siblings, and whether it matched. -/
  visited : Nat → Nat → Bool → computation Unit

namespace Walker

variable {vocabulary : Vocabulary} {computation : Type → Type} [Monad computation]

def prepare (walker : Walker vocabulary computation) :
    Option vocabulary.Action → computation Unit
  | some action => walker.perform action
  | none => pure ()

/-- Ask a condition; where there is none, the answer is yes. -/
def matched (walker : Walker vocabulary computation) :
    Option vocabulary.Condition → computation Bool
  | some condition => walker.test condition
  | none => pure true

def armIf (walker : Walker vocabulary computation) : Option Span → computation Unit
  | some delay => walker.arm delay
  | none => pure ()

mutual

/-- The behaviour that a rule and its branches choose. -/
def visit (walker : Walker vocabulary computation) (depth index : Nat) :
    Rule vocabulary → computation (Option vocabulary.Action)
  | ⟨precheck, condition, onMatch, behaviour, reconsiderAfter, whenTrue, whenFalse⟩ => do
      walker.prepare precheck
      let holds ← walker.matched condition
      walker.visited depth index holds
      if holds then do
        walker.prepare onMatch
        match behaviour with
        | some chosen => do
            walker.armIf (Rule.armedDelay reconsiderAfter)
            pure (some chosen)
        | none => walkFrom walker (depth + 1) 0 whenTrue
      else walkFrom walker (depth + 1) 0 whenFalse

/-- The behaviour that rules choose, of which the first has the given position. -/
def walkFrom (walker : Walker vocabulary computation) (depth index : Nat) :
    List (Rule vocabulary) → computation (Option vocabulary.Action)
  | [] => pure none
  | rule :: rules => do
      match ← visit walker depth index rule with
      | some chosen => pure (some chosen)
      | none => walkFrom walker depth (index + 1) rules

end

def walk (walker : Walker vocabulary computation) (rules : List (Rule vocabulary)) :
    computation (Option vocabulary.Action) :=
  walker.walkFrom 0 0 rules

end Walker

end PriorityAgents
