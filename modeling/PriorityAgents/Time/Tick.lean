import PriorityAgents.Fault
import PriorityAgents.Number.Power
import PriorityAgents.Text.Outline
import Std.Data.ExtTreeMap

/-!
Ticks: the unit in which a world's time advances, counted from zero in 64 bits.
-/

set_option autoImplicit false

namespace PriorityAgents

/-- An absolute count of ticks. -/
@[ext] structure Tick where
  index : Nat
  index_lt : index < 2 ^ 64
deriving DecidableEq, Repr

namespace Tick

def zero : Tick := ⟨0, by decide⟩

instance : Inhabited Tick := ⟨zero⟩

instance : LT Tick := ⟨fun left right => left.index < right.index⟩

instance : LE Tick := ⟨fun left right => left.index ≤ right.index⟩

instance (left right : Tick) : Decidable (left < right) :=
  inferInstanceAs (Decidable (left.index < right.index))

instance (left right : Tick) : Decidable (left ≤ right) :=
  inferInstanceAs (Decidable (left.index ≤ right.index))

instance : Ord Tick := ⟨compareOn Tick.index⟩

instance : Std.TransOrd Tick := inferInstanceAs (Std.TransCmp (compareOn Tick.index))

instance : Std.LawfulEqOrd Tick where
  eq_of_compare same := Tick.ext (Std.compare_eq_iff_eq.mp same)

theorem lt_def (left right : Tick) : left < right ↔ left.index < right.index := Iff.rfl

theorem le_def (left right : Tick) : left ≤ right ↔ left.index ≤ right.index := Iff.rfl

def offset (tick : Tick) (steps : Nat) : Except Fault Tick :=
  if fits : tick.index + steps < 2 ^ 64 then .ok ⟨tick.index + steps, fits⟩
  else .error .addOverflow

def distance (later earlier : Tick) : Except Fault Nat :=
  if earlier ≤ later then .ok (later.index - earlier.index) else .error .subOverflow

def ofWord (count : UInt64) : Tick := ⟨count.toNat, count.toNat_lt⟩

def latest (left right : Tick) : Tick := if left < right then right else left

theorem index_latest (left right : Tick) :
    (left.latest right).index = max left.index right.index := by
  unfold latest
  by_cases before : left < right
  · rw [if_pos before]
    rw [lt_def] at before
    omega
  · rw [if_neg before]
    rw [lt_def] at before
    omega

def text (tick : Tick) : String := "T" ++ toString tick.index

def outline (tick : Tick) : Text.Outline := .variant "Tick" [.number tick.index]

end Tick

end PriorityAgents
