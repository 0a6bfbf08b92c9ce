import PriorityAgents.Rule.Walk

/-!
A walk is made of what its walker does with the parts of rules, one thing after another.

So whatever holds of these parts, of doing nothing, and of one thing after another, holds of walks
too; and to read a walk as another kind of computation is to walk with its parts read.
-/

set_option autoImplicit false

namespace PriorityAgents

variable {vocabulary : Vocabulary} {first second : Type → Type} [Monad first] [Monad second]

namespace Walker

/-- A property of computations that the parts of rules have, and that is kept when one computation
follows another. -/
structure Closed (walker : Walker vocabulary first) (holds : ∀ {α : Type}, first α → Prop) :
    Prop where
  pure {α : Type} (answer : α) : holds (pure answer : first α)
  bind {α β : Type} {early : first α} {next : α → first β} :
    holds early → (∀ answer, holds (next answer)) → holds (early >>= next)
  test (condition : vocabulary.Condition) : holds (walker.test condition)
  perform (action : vocabulary.Action) : holds (walker.perform action)
  arm (delay : Span) : holds (walker.arm delay)
  visited (depth index : Nat) (isMatch : Bool) : holds (walker.visited depth index isMatch)

namespace Closed

variable {walker : Walker vocabulary first} {holds : ∀ {α : Type}, first α → Prop}

private theorem prepare (closed : walker.Closed holds) (part : Option vocabulary.Action) :
    holds (walker.prepare part) := by
  cases part with
  | none => exact closed.pure ()
  | some action => exact closed.perform action

private theorem matched (closed : walker.Closed holds) (condition : Option vocabulary.Condition) :
    holds (walker.matched condition) := by
  cases condition with
  | none => exact closed.pure true
  | some question => exact closed.test question

private theorem armIf (closed : walker.Closed holds) (delay : Option Span) :
    holds (walker.armIf delay) := by
  cases delay with
  | none => exact closed.pure ()
  | some delay => exact closed.arm delay

mutual

private theorem visit (closed : walker.Closed holds) (depth index : Nat) :
    (rule : Rule vocabulary) → holds (walker.visit depth index rule)
  | ⟨precheck, condition, onMatch, behaviour, reconsiderAfter, whenTrue, whenFalse⟩ => by
      unfold Walker.visit
      refine closed.bind (closed.prepare precheck) fun _ => closed.bind (closed.matched condition)
        fun isMatch => closed.bind (closed.visited depth index isMatch) fun _ => ?_
      cases isMatch with
      | false => exact walkFrom closed (depth + 1) 0 whenFalse
      | true =>
          refine closed.bind (closed.prepare onMatch) fun _ => ?_
          cases behaviour with
          | none => exact walkFrom closed (depth + 1) 0 whenTrue
          | some chosen => exact closed.bind (closed.armIf _) fun _ => closed.pure _

private theorem walkFrom (closed : walker.Closed holds) (depth index : Nat) :
    (rules : List (Rule vocabulary)) → holds (walker.walkFrom depth index rules)
  | [] => by
      unfold Walker.walkFrom
      exact closed.pure none
  | rule :: rules => by
      unfold Walker.walkFrom
      refine closed.bind (visit closed depth index rule) fun chosen => ?_
      cases chosen with
      | none => exact walkFrom closed depth (index + 1) rules
      | some chosen => exact closed.pure (some chosen)

end

theorem walk (closed : walker.Closed holds) (rules : List (Rule vocabulary)) :
    holds (walker.walk rules) :=
  closed.walkFrom 0 0 rules

end Closed

end Walker

/-- A way to read computations of one kind as computations of another. -/
structure Reading (first second : Type → Type) [Monad first] [Monad second] where
  read {α : Type} : first α → second α
  read_pure {α : Type} (answer : α) : read (pure answer) = pure answer
  read_bind {α β : Type} (early : first α) (next : α → first β) :
    read (early >>= next) = read early >>= fun answer => read (next answer)

namespace Reading

variable (reading : Reading first second) (walker : Walker vocabulary first)

def through : Walker vocabulary second where
  test := fun condition => reading.read (walker.test condition)
  perform := fun action => reading.read (walker.perform action)
  arm := fun delay => reading.read (walker.arm delay)
  visited := fun depth index isMatch => reading.read (walker.visited depth index isMatch)

private theorem read_prepare (part : Option vocabulary.Action) :
    reading.read (walker.prepare part) = (reading.through walker).prepare part := by
  cases part with
  | none => exact reading.read_pure ()
  | some action => rfl

private theorem read_matched (condition : Option vocabulary.Condition) :
    reading.read (walker.matched condition) = (reading.through walker).matched condition := by
  cases condition with
  | none => exact reading.read_pure true
  | some question => rfl

private theorem read_armIf (delay : Option Span) :
    reading.read (walker.armIf delay) = (reading.through walker).armIf delay := by
  cases delay with
  | none => exact reading.read_pure ()
  | some delay => rfl

mutual

private theorem read_visit (depth index : Nat) : (rule : Rule vocabulary) →
    reading.read (walker.visit depth index rule) = (reading.through walker).visit depth index rule
  | ⟨precheck, condition, onMatch, behaviour, reconsiderAfter, whenTrue, whenFalse⟩ => by
      unfold Walker.visit
      rw [reading.read_bind, read_prepare]
      refine congrArg _ (funext fun _ => ?_)
      rw [reading.read_bind, read_matched]
      refine congrArg _ (funext fun isMatch => ?_)
      rw [reading.read_bind]
      refine congrArg _ (funext fun _ => ?_)
      cases isMatch with
      | false => exact read_walkFrom (depth + 1) 0 whenFalse
      | true =>
          change reading.read (walker.prepare onMatch >>= _) = _ >>= _
          rw [reading.read_bind, read_prepare]
          refine congrArg _ (funext fun _ => ?_)
          cases behaviour with
          | none => exact read_walkFrom (depth + 1) 0 whenTrue
          | some chosen =>
              change reading.read (walker.armIf _ >>= _) = _ >>= _
              rw [reading.read_bind, read_armIf]
              exact congrArg _ (funext fun _ => reading.read_pure _)

private theorem read_walkFrom (depth index : Nat) : (rules : List (Rule vocabulary)) →
    reading.read (walker.walkFrom depth index rules) =
      (reading.through walker).walkFrom depth index rules
  | [] => by
      unfold Walker.walkFrom
      exact reading.read_pure none
  | rule :: rules => by
      unfold Walker.walkFrom
      rw [reading.read_bind, read_visit]
      refine congrArg _ (funext fun chosen => ?_)
      cases chosen with
      | none => exact read_walkFrom depth (index + 1) rules
      | some chosen => exact reading.read_pure (some chosen)

end

theorem read_walk (rules : List (Rule vocabulary)) :
    reading.read (walker.walk rules) = (reading.through walker).walk rules :=
  reading.read_walkFrom walker 0 0 rules

end Reading

end PriorityAgents
