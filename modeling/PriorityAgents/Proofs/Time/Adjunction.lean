import Mathlib.Algebra.Order.Floor.Div
import PriorityAgents.Time.Clock

/-!
Delays in ticks, and ticks in time.

The number of ticks that a delay takes is the least one whose time covers the delay, so counting
ticks and taking their time are adjoint to each other. That holds for every count below the largest
one of 64 bits, where the counting ends. What else is to be known of the count follows from it.
-/

set_option autoImplicit false

namespace PriorityAgents.Clock

theorem tickNanoseconds_pos (clock : Clock) : 0 < clock.tickNanoseconds :=
  Nat.mul_pos clock.positive (by decide)

theorem ticksFor_eq (clock : Clock) (delay : Span) :
    clock.ticksFor delay =
      min (delay.nanoseconds ⌈/⌉ clock.tickNanoseconds) (2 ^ 64 - 1) := by
  rw [Nat.ceilDiv_eq_add_pred_div]
  rfl

private theorem ticksFor_le_largest (clock : Clock) (delay : Span) :
    clock.ticksFor delay ≤ 2 ^ 64 - 1 := Nat.min_le_right _ _

theorem ticksFor_le_iff (clock : Clock) (delay : Span) {count : Nat}
    (short : count < 2 ^ 64 - 1) :
    clock.ticksFor delay ≤ count ↔ delay.nanoseconds ≤ count * clock.tickNanoseconds := by
  have largest : ¬2 ^ 64 - 1 ≤ count := Nat.not_le.mpr short
  rw [ticksFor_eq, min_le_iff, or_iff_left largest,
    ceilDiv_le_iff_le_mul clock.tickNanoseconds_pos, Nat.mul_comm]

private theorem ticksFor_mono (clock : Clock) {shorter longer : Span}
    (ordered : shorter.nanoseconds ≤ longer.nanoseconds) :
    clock.ticksFor shorter ≤ clock.ticksFor longer := by
  by_cases short : clock.ticksFor longer < 2 ^ 64 - 1
  · apply (clock.ticksFor_le_iff shorter short).mpr
    have covered := (clock.ticksFor_le_iff longer short).mp (Nat.le_refl _)
    exact Nat.le_trans ordered covered
  · exact Nat.le_trans (clock.ticksFor_le_largest shorter) (Nat.not_lt.mp short)

private theorem ticksFor_of_time (clock : Clock) {delay : Span} {count : Nat}
    (bound : count < 2 ^ 64) (time : delay.nanoseconds = count * clock.tickNanoseconds) :
    clock.ticksFor delay = count := by
  apply Nat.le_antisymm
  · by_cases short : count < 2 ^ 64 - 1
    · exact (clock.ticksFor_le_iff delay short).mpr (Nat.le_of_eq time)
    · exact Nat.le_trans (clock.ticksFor_le_largest delay) (Nat.not_lt.mp short)
  · by_contra fewer
    have short : clock.ticksFor delay < 2 ^ 64 - 1 := by omega
    have covered := (clock.ticksFor_le_iff delay short).mp (Nat.le_refl _)
    rw [time] at covered
    exact fewer (Nat.le_of_mul_le_mul_right covered clock.tickNanoseconds_pos)

private theorem elapsed_eq_ok (clock : Clock) (fits : clock.now.index * clock.tickMillis < 2 ^ 64) :
    clock.elapsed = .ok (.ofMilliseconds (clock.now.index * clock.tickMillis) fits) :=
  dif_pos fits

/-- For every clock and every delay, a count of ticks below the largest one is enough for the delay
exactly when its milliseconds cover it. A longer delay takes no fewer ticks, and the time that has
elapsed, as long as it is a number of milliseconds in 64 bits, takes the ticks that the clock has
counted. -/
theorem ticksFor_adjoint (clock : Clock) :
    (∀ (delay : Span) (count : Nat), count < 2 ^ 64 - 1 →
        (clock.ticksFor delay ≤ count ↔
          delay.nanoseconds ≤ count * clock.tickMillis * 10 ^ 6)) ∧
      (∀ shorter longer : Span, shorter.nanoseconds ≤ longer.nanoseconds →
        clock.ticksFor shorter ≤ clock.ticksFor longer) ∧
      (clock.now.index * clock.tickMillis < 2 ^ 64 →
        ∃ elapsed, clock.elapsed = .ok elapsed ∧ clock.ticksFor elapsed = clock.now.index) := by
  refine ⟨?_, ?_, ?_⟩
  · intro delay count short
    rw [Nat.mul_assoc]
    exact clock.ticksFor_le_iff delay short
  · intro shorter longer ordered
    exact clock.ticksFor_mono ordered
  · intro fits
    refine ⟨_, clock.elapsed_eq_ok fits, ?_⟩
    apply clock.ticksFor_of_time clock.now.index_lt
    exact Nat.mul_assoc _ _ _

/-- Ticks of the greatest length there is: the longest delay of all takes about four billion of
them, one nanosecond takes one, and what has elapsed after three ticks takes three. -/
theorem ticksFor_adjoint_longest_ticks :
    let clock : Clock := ⟨2 ^ 32 - 1, by decide, by decide, ⟨3, by decide⟩⟩
    let longest : Span := ⟨2 ^ 64 * 10 ^ 9 - 1, by decide⟩
    let shortest : Span := ⟨1, by decide⟩
    ¬clock.ticksFor longest ≤ 4294967297000 ∧ clock.ticksFor longest ≤ 4294967297001 ∧
      clock.ticksFor shortest ≤ 1 ∧ clock.ticksFor shortest ≤ clock.ticksFor longest ∧
      ∃ elapsed, clock.elapsed = .ok elapsed ∧ clock.ticksFor elapsed = 3 := by
  intro clock longest shortest
  obtain ⟨adjoint, mono, elapsed⟩ := ticksFor_adjoint clock
  refine ⟨?_, ?_, ?_, mono shortest longest (by decide), elapsed (by decide)⟩
  · rw [adjoint longest _ (by decide)]
    decide
  · exact (adjoint longest _ (by decide)).mpr (by decide)
  · exact (adjoint shortest _ (by decide)).mpr (by decide)

end PriorityAgents.Clock
