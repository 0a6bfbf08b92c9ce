import Mathlib.Data.Nat.ModEq
import Mathlib.Data.Nat.Prime.Basic
import PriorityAgents.Random.Generator

/-!
The seeds that streams are made from.

An identity is scattered over the seeds by a multiplication that wraps. Nothing is lost in it: the
factor is odd, so it has no divisor in common with the number of words. The seed of the run is laid
over what comes out, and that can be taken off again.
-/

set_option autoImplicit false

namespace PriorityAgents.Generator

private theorem mul_left_inj_of_odd {factor left right : UInt64} (odd : Odd factor.toNat) :
    left * factor = right * factor ↔ left = right := by
  constructor
  · intro same
    have coprime : Nat.Coprime (2 ^ 64) factor.toNat :=
      (Nat.coprime_two_left.mpr odd).pow_left 64
    have products : left.toNat * factor.toNat ≡ right.toNat * factor.toNat [MOD 2 ^ 64] := by
      have remainders := congrArg UInt64.toNat same
      rwa [UInt64.toNat_mul, UInt64.toNat_mul] at remainders
    have words : left.toNat ≡ right.toNat [MOD 2 ^ 64] :=
      products.cancel_right_of_coprime coprime
    exact UInt64.toNat_inj.mp (words.eq_of_lt_of_lt left.toNat_lt right.toNat_lt)
  · rintro rfl
    rfl

private theorem odd_scatter : Odd scatter.toNat := by decide

@[simp] theorem toNat_ofNat_index (agent : AgentId) :
    (UInt64.ofNat agent.index).toNat = agent.index :=
  UInt64.toNat_ofNat_of_lt' (Nat.lt_trans agent.index_lt (by decide))

theorem toNat_streamSeed (globalSeed : UInt64) (agent : AgentId) :
    (streamSeed globalSeed agent).toNat =
      globalSeed.toNat ^^^ (agent.index * scatter.toNat % 2 ^ 64) := by
  rw [streamSeed, UInt64.toNat_xor, UInt64.toNat_mul, toNat_ofNat_index]

/-- Under one seed of the run, an identity can be told from the seed of its stream. -/
theorem streamSeed_right_inj {globalSeed : UInt64} {agent other : AgentId} :
    streamSeed globalSeed agent = streamSeed globalSeed other ↔ agent = other := by
  rw [streamSeed, streamSeed, UInt64.xor_right_inj, mul_left_inj_of_odd odd_scatter,
    ← UInt64.toNat_inj, toNat_ofNat_index, toNat_ofNat_index, AgentId.ext_iff]

end PriorityAgents.Generator
