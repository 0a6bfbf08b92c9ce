/-!
Faults: the ways in which an operation gives up instead of answering.

A fault is not an error a caller recovers from. It ends the operation in which it arises, and
whatever that operation had changed is abandoned with it.
-/

set_option autoImplicit false

namespace PriorityAgents

/-- A reason for which an operation is abandoned. -/
inductive Fault where
  | addOverflow
  | subOverflow
  | mulOverflow
  | negativeSeconds
  /-- A span was asked for more seconds than it can hold, or for no number at all. -/
  | secondsOutOfRange
  /-- A random value was asked for from a range that holds none. -/
  | emptyRange
  | invalidProbability
  | infiniteLow
  | infiniteHigh
  | rangeOverflow
  /-- Every draw that the sampling budget allows was rejected. -/
  | drawsRejected
deriving DecidableEq, Repr, Inhabited

def Fault.message : Fault → String
  | .addOverflow => "attempt to add with overflow"
  | .subOverflow => "attempt to subtract with overflow"
  | .mulOverflow => "attempt to multiply with overflow"
  | .negativeSeconds => "cannot convert float seconds to Duration: value is negative"
  | .secondsOutOfRange =>
      "cannot convert float seconds to Duration: value is either too big or NaN"
  | .emptyRange => "cannot sample empty range"
  | .invalidProbability => "called `Result::unwrap()` on an `Err` value: InvalidProbability"
  | .infiniteLow => "UniformSampler::sample_single called with `low` non-finite."
  | .infiniteHigh => "UniformSampler::sample_single called with `high` non-finite."
  | .rangeOverflow => "UniformSampler::sample_single: range overflow"
  | .drawsRejected => "no draw was accepted"

end PriorityAgents
