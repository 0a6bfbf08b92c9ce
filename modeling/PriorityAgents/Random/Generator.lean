import PriorityAgents.Identity

/-!
Streams of random words: a generator of four 64-bit words, and how the stream of each agent is
seeded from the seed of a run.

The seed of an agent's stream depends on nothing but the seed of the run and the identity of the
agent, so agents that join later leave the streams of the others as they were.
-/

set_option autoImplicit false

namespace PriorityAgents

@[ext] structure Generator where
  first : UInt64
  second : UInt64
  third : UInt64
  fourth : UInt64
deriving DecidableEq, Repr, Inhabited

namespace Generator

/-- A word turned to the left; `1 ≤ places < 64`. -/
def turned (places word : UInt64) : UInt64 := (word <<< places) ||| (word >>> (64 - places))

def word (generator : Generator) : UInt64 × Generator :=
  let answer := turned 23 (generator.first + generator.fourth) + generator.first
  let third := generator.third ^^^ generator.first
  let fourth := generator.fourth ^^^ generator.second
  (answer,
    { first := generator.first ^^^ fourth
      second := generator.second ^^^ third
      third := third ^^^ (generator.second <<< 17)
      fourth := turned 45 fourth })

def halfWord (generator : Generator) : UInt64 × Generator :=
  let (drawn, later) := generator.word
  (drawn >>> 32, later)

/-- The congruential step by which a seed is spread over the words of a generator. -/
def spread (state : UInt64) : UInt64 := state * 6364136223846793005 + 11634580027462260723

/-- Half a word taken from a state of the spreading sequence: its high bits folded onto its low
ones and turned to the right by its five highest bits. -/
def fold (state : UInt64) : UInt64 :=
  let half := (((state >>> 18) ^^^ state) >>> 27) &&& 0xffffffff
  let places := state >>> 59
  ((half >>> places) ||| (half <<< (32 - places))) &&& 0xffffffff

/-- A whole word from the next two states, and the second of them. The low half comes first. -/
def spreadWord (state : UInt64) : UInt64 × UInt64 :=
  let low := spread state
  let high := spread low
  (fold low ||| (fold high <<< 32), high)

def ofSeed (seed : UInt64) : Generator :=
  let (first, seed) := spreadWord seed
  let (second, seed) := spreadWord seed
  let (third, seed) := spreadWord seed
  let (fourth, _) := spreadWord seed
  { first, second, third, fourth }

/-- The factor by which identities are scattered over the seeds. -/
def scatter : UInt64 := 0x9e3779b97f4a7c15

def streamSeed (globalSeed : UInt64) (agent : AgentId) : UInt64 :=
  globalSeed ^^^ (UInt64.ofNat agent.index * scatter)

def forAgent (globalSeed : UInt64) (agent : AgentId) : Generator :=
  ofSeed (streamSeed globalSeed agent)

/-- A generator as it is shown inside other values: its state is not told. -/
def outline (_generator : Generator) : Text.Outline := .word "AgentRng(..)"

end Generator

end PriorityAgents
