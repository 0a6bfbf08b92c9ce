import PriorityAgents.Number.Power

/-!
The exact value of a floating-point number as a quotient of naturals.
-/

set_option autoImplicit false

namespace PriorityAgents.Number

/-- A non-negative quotient; the denominator is a power of two. -/
structure Quotient where
  numerator : Nat
  denominator : Nat
deriving DecidableEq, Repr

/-- The magnitude of a finite floating-point number, exactly. A number is `significand * 2 ^ e`
with `e` at least -1074; infinities and what is no number have no meaning here. -/
def magnitude (value : Float) : Quotient :=
  let bits := value.toBits.toNat
  let exponent := bits / 2 ^ 52 % 2 ^ 11
  let fraction := bits % 2 ^ 52
  if exponent = 0 then ⟨fraction, 2 ^ 1074⟩
  else if 1075 ≤ exponent then ⟨(2 ^ 52 + fraction) * 2 ^ (exponent - 1075), 1⟩
  else ⟨2 ^ 52 + fraction, 2 ^ (1075 - exponent)⟩

end PriorityAgents.Number
