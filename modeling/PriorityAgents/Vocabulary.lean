import PriorityAgents.Parameters

/-!
Vocabularies: the types that an application brings along when it has its agents driven by rules.
-/

set_option autoImplicit false

namespace PriorityAgents

/-- What the rules of an application are about. Conditions, actions and responses are names; what
each name means is said apart from the rules that use it. -/
structure Vocabulary where
  State : Type
  Payload : Type
  /-- The kinds of values that rules remember. -/
  kinds : Kinds
  /-- Questions that decide which branch of a rule is taken. -/
  Condition : Type
  /-- Things that a rule does. -/
  Action : Type
  Response : Type

end PriorityAgents
