import PriorityAgents.Patrol.Rules
import PriorityAgents.Proofs.Journal.Punctuality
import PriorityAgents.Proofs.World.Calls

/-!
Whatever a host does with a world, reconsiderations come when they were asked for.
-/

set_option autoImplicit false

namespace PriorityAgents.World

variable {vocabulary : Vocabulary}

/-- What is entered from the creation of a world on is punctual, whatever agents are spawned with
and whatever their code does, and the ticks that it goes through are those of the clock. -/
theorem punctual_of_play {world later : World vocabulary} {repertoire : Repertoire vocabulary}
    {config : Config} {reconsiderNow : Option Span} {calls : List (Call vocabulary)}
    (created : World.create config reconsiderNow = .ok world)
    (played : (world.play repertoire calls).outcome = .ok later)
    (few : (world.play repertoire calls).armings ≤ 2 ^ 32 - 1) :
    Punctual config (world.play repertoire calls).journal ∧
      later.clock.now.index = ticksEnded (world.play repertoire calls).journal := by
  obtain ⟨begun, start⟩ := keeps_of_create created
  obtain ⟨timers, _, length, _, rfl⟩ := of_create created
  obtain ⟨kept, chronicle⟩ := begun.play (Journaled.gives_of_outcome played) (by rwa [Nat.zero_add])
  refine ⟨chronicle.punctual start rfl length, ?_⟩
  rw [← kept.clock, chronicle.clock_read.2]
  exact (congrArg (· + _) start).trans (Nat.zero_add _)

/-- Two ships set out, one is attacked and goes down, and the other has its plans changed. -/
theorem punctual_of_play_patrol :
    let calls : List (Call Patrol.ships) :=
      [.spawn (.fresh "Ada") "patrol" Patrol.start, .spawn (.fresh "Grace") "patrol" Patrol.start,
        .runTicks 2, .post ⟨0, by decide⟩ Patrol.shipBeingAttacked ⟨"Krait", 45⟩, .runTicks 1,
        .destroy ⟨0, by decide⟩ ⟨"Krait", 100⟩,
        .withAgent ⟨1, by decide⟩ (Program.request (.schedule (Patrol.seconds 2))), .runTicks 9]
    ∃ world later, World.create .standard none = .ok world ∧
      (world.play Patrol.repertoire calls).outcome = .ok later ∧
      (world.play Patrol.repertoire calls).armings ≤ 2 ^ 32 - 1 ∧
      reportsAt ⟨11, by decide⟩ (world.play Patrol.repertoire calls).journal =
        [⟨1, by decide⟩] ∧
      Punctual .standard (world.play Patrol.repertoire calls).journal := by
  intro calls
  obtain ⟨world, created, rest⟩ : ∃ world, World.create .standard none = .ok world ∧
      ((world.play Patrol.repertoire calls).outcome.toOption.any fun _ =>
        decide ((world.play Patrol.repertoire calls).armings ≤ 2 ^ 32 - 1 ∧
          reportsAt ⟨11, by decide⟩ (world.play Patrol.repertoire calls).journal =
            [⟨1, by decide⟩])) = true :=
    exists_ok (by decide +kernel)
  obtain ⟨later, played, facts⟩ := exists_ok rest
  obtain ⟨few, reported⟩ := of_decide_eq_true facts
  exact ⟨world, later, created, played, few, reported,
    (punctual_of_play created played few).1⟩

end PriorityAgents.World
