import PriorityAgents.Number.Power
import PriorityAgents.Text.Outline
import Std.Data.ExtTreeMap

/-!
Identities of agents and of timers.

Both are counted in 32 bits and the largest value of each is set apart to mean "none". Handles
are given out in order and start again at zero before they would reach the value set apart.
-/

set_option autoImplicit false

namespace PriorityAgents

/-- The place of an agent in the table of its world. -/
@[ext] structure AgentId where
  index : Nat
  index_lt : index < 2 ^ 32
deriving DecidableEq, Repr

/-- The handle of a timer: what it is cancelled by and recognised by when it fires. -/
@[ext] structure TimerHandle where
  index : Nat
  index_lt : index < 2 ^ 32
deriving DecidableEq, Repr

namespace AgentId

/-- The identity that no agent has. -/
def invalid : AgentId := ⟨2 ^ 32 - 1, by decide⟩

instance : Inhabited AgentId := ⟨invalid⟩

def ofIndex? (index : Nat) : Option AgentId :=
  if fits : index < 2 ^ 32 then some ⟨index, fits⟩ else none

def isValid (agent : AgentId) : Bool := agent ≠ invalid

def text (agent : AgentId) : String := "AgentId(" ++ toString agent.index ++ ")"

def outline (agent : AgentId) : Text.Outline := .variant "AgentId" [.number agent.index]

end AgentId

namespace TimerHandle

/-- The handle that no timer has. -/
def invalid : TimerHandle := ⟨2 ^ 32 - 1, by decide⟩

instance : Inhabited TimerHandle := ⟨invalid⟩

def ofIndex? (index : Nat) : Option TimerHandle :=
  if fits : index < 2 ^ 32 then some ⟨index, fits⟩ else none

def first : TimerHandle := ⟨0, by decide⟩

def isValid (handle : TimerHandle) : Bool := handle ≠ invalid

/-- The handle given out after this one. It is never the one set apart. -/
def next (handle : TimerHandle) : TimerHandle :=
  if room : handle.index + 1 < 2 ^ 32 - 1 then ⟨handle.index + 1, by omega⟩ else first

def text (handle : TimerHandle) : String := "TimerHandle(" ++ toString handle.index ++ ")"

def outline (handle : TimerHandle) : Text.Outline := .variant "TimerHandle" [.number handle.index]

instance : Ord TimerHandle := ⟨compareOn TimerHandle.index⟩

instance : Std.TransOrd TimerHandle := inferInstanceAs (Std.TransCmp (compareOn TimerHandle.index))

instance : Std.LawfulEqOrd TimerHandle where
  eq_of_compare same := TimerHandle.ext (Std.compare_eq_iff_eq.mp same)

end TimerHandle

end PriorityAgents
