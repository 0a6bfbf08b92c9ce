import PriorityAgents.Time.Span
import PriorityAgents.Vocabulary
import PriorityAgents.Text.Outline

/-!
Rules and priority trees: what an agent would do, most urgent first.

A rule that names a behaviour is a leaf, and its branches for the case that its condition holds
are never looked at. A tree whose last rule is a leaf without a condition always has an answer.
-/

set_option autoImplicit false

namespace PriorityAgents

/-- One entry of a priority tree. -/
structure Rule (vocabulary : Vocabulary) where
  /-- Done before the condition is asked, whatever it will say. -/
  precheck : Option vocabulary.Action
  /-- A rule without a condition always matches. -/
  condition : Option vocabulary.Condition
  /-- Done once the rule has matched. -/
  onMatch : Option vocabulary.Action
  behaviour : Option vocabulary.Action
  /-- The delay after which the agent reconsiders if this rule is chosen; none if it is zero. -/
  reconsiderAfter : Option Span
  /-- Looked at if the rule matches and has no behaviour. -/
  whenTrue : List (Rule vocabulary)
  /-- Looked at if the rule does not match. -/
  whenFalse : List (Rule vocabulary)

namespace Rule

variable {vocabulary : Vocabulary}

def blank : Rule vocabulary where
  precheck := none
  condition := none
  onMatch := none
  behaviour := none
  reconsiderAfter := none
  whenTrue := []
  whenFalse := []

instance : Inhabited (Rule vocabulary) := ⟨blank⟩

def fallback (behaviour : vocabulary.Action) : Rule vocabulary :=
  { blank with behaviour := some behaviour }

/-- A delay in seconds, as rule tables give it; what is negative or not finite counts as zero. -/
def delayOfSeconds (seconds : Float) : Except Fault Span :=
  Span.ofSeconds (if seconds.isFinite && 0.0 < seconds then seconds else 0.0)

def reconsideringAfterSeconds (rule : Rule vocabulary) (seconds : Float) :
    Except Fault (Rule vocabulary) := do
  let delay ← delayOfSeconds seconds
  pure { rule with reconsiderAfter := some delay }

/-- The delay that is armed for a chosen rule: a zero delay is none. -/
def armedDelay (reconsiderAfter : Option Span) : Option Span :=
  reconsiderAfter.filter (· ≠ Span.zero)

/-- Whether a rule always matches and chooses a behaviour. -/
def isUnconditionalLeaf (rule : Rule vocabulary) : Bool :=
  rule.condition.isNone && rule.behaviour.isSome

mutual

def outline : Rule vocabulary → Text.Outline
  | ⟨precheck, condition, onMatch, behaviour, reconsiderAfter, whenTrue, whenFalse⟩ =>
      .record "Rule" [("precheck", .truth precheck.isSome), ("condition", .truth condition.isSome),
        ("on_match", .truth onMatch.isSome), ("behaviour", .truth behaviour.isSome),
        ("reconsider_after", .optional (reconsiderAfter.map fun delay => .word delay.text)),
        ("when_true", .sequence (outlines whenTrue)),
        ("when_false", .sequence (outlines whenFalse))]

def outlines : List (Rule vocabulary) → List Text.Outline
  | [] => []
  | rule :: rules => outline rule :: outlines rules

end

end Rule

/-- A reason for which a tree may leave its agent without an answer. -/
inductive TreeError where
  | emptyTree
  | missingFallback (rules : Nat)
deriving DecidableEq, Repr, Inhabited

namespace TreeError

def message : TreeError → String
  | .emptyTree => "priority tree is empty"
  | .missingFallback rules =>
      "last of " ++ toString rules ++
        " root rules is not an unconditional behaviour; evaluation can fall through"

def outline : TreeError → Text.Outline
  | .emptyTree => .word "EmptyTree"
  | .missingFallback rules => .record "MissingFallback" [("rules", .number rules)]

end TreeError

structure PriorityTree (vocabulary : Vocabulary) where
  rules : List (Rule vocabulary)
deriving Inhabited

namespace PriorityTree

variable {vocabulary : Vocabulary}

def empty : PriorityTree vocabulary := ⟨[]⟩

/-- Whether a tree always has an answer: its last rule must be a leaf without a condition. -/
def checkFallback (tree : PriorityTree vocabulary) : Except TreeError Unit :=
  match tree.rules.getLast? with
  | none => .error .emptyTree
  | some last =>
      if last.isUnconditionalLeaf then .ok () else .error (.missingFallback tree.rules.length)

def outline (tree : PriorityTree vocabulary) : Text.Outline := .sequence (Rule.outlines tree.rules)

end PriorityTree

end PriorityAgents
