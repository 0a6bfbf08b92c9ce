import PriorityAgents.Number.Power

/-!
Quotients rounded to the nearest integer, a half going to the even neighbour, and the decimal
text of a quotient with a fixed number of places.
-/

set_option autoImplicit false

namespace PriorityAgents.Number

/-- A quotient to the nearest integer; of two equally near ones, the even one. -/
def nearestEven (numerator denominator : Nat) : Nat :=
  let quotient := numerator / denominator
  let remainder := numerator % denominator
  if 2 * remainder < denominator then quotient
  else if denominator < 2 * remainder then quotient + 1
  else quotient + quotient % 2

/-- The rounded quotient is within half a unit of the exact one. -/
theorem nearestEven_near (numerator denominator : Nat) (positive : 0 < denominator) :
    2 * (denominator * nearestEven numerator denominator) ≤ 2 * numerator + denominator ∧
      2 * numerator ≤ 2 * (denominator * nearestEven numerator denominator) + denominator := by
  have whole := Nat.div_add_mod numerator denominator
  have small := Nat.mod_lt numerator positive
  simp only [nearestEven]
  generalize numerator / denominator = quotient at *
  generalize numerator % denominator = remainder at *
  have upper : denominator * (quotient + 1) = denominator * quotient + denominator := by
    rw [Nat.mul_add, Nat.mul_one]
  split
  · generalize denominator * quotient = product at *
    omega
  · split
    · rw [upper]
      generalize denominator * quotient = product at *
      omega
    · rcases Nat.mod_two_eq_zero_or_one quotient with even | odd
      · rw [even, Nat.add_zero]
        generalize denominator * quotient = product at *
        omega
      · rw [odd, upper]
        generalize denominator * quotient = product at *
        omega

def padded (width value : Nat) : List Char :=
  let digits := (toString value).toList
  List.replicate (width - digits.length) '0' ++ digits

/-- A quotient in decimal notation, rounded to a fixed number of places. -/
def fixedPlaces (places numerator denominator : Nat) : String :=
  let scaled := nearestEven (numerator * 10 ^ places) denominator
  let whole := toString (scaled / 10 ^ places)
  if places = 0 then whole
  else whole ++ "." ++ String.ofList (padded places (scaled % 10 ^ places))

end PriorityAgents.Number
