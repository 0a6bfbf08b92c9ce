import PriorityAgents.Text.Outline
import Std.Data.ExtTreeMap

/-!
Names of events. The set of names is open; a single one has a meaning of its own.
-/

set_option autoImplicit false

namespace PriorityAgents

@[ext] structure EventName where
  text : String
deriving DecidableEq, Repr, Inhabited

namespace EventName

/-- The event that an agent receives when it is taken out of its world. -/
def entityDestroyed : EventName := ⟨"entity_destroyed"⟩

instance : Ord EventName := ⟨compareOn EventName.text⟩

instance : Std.TransOrd EventName := inferInstanceAs (Std.TransCmp (compareOn EventName.text))

instance : Std.LawfulEqOrd EventName where
  eq_of_compare same := EventName.ext (Std.compare_eq_iff_eq.mp same)

def outline (name : EventName) : Text.Outline :=
  .word ("EventName(" ++ Text.quoted name.text ++ ")")

/-- Names without repetition, in order. -/
def sorted (names : List EventName) : List EventName :=
  (names.foldl (fun seen name => seen.insert name ()) (∅ : Std.ExtTreeMap EventName Unit)).keys

end EventName

end PriorityAgents
