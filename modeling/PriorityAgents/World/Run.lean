import PriorityAgents.World.Basic

/-!
The course of a world: one tick, a number of ticks, and the run to the end that its settings give.

In each tick the queued events come first, in the order of posting, and then the timers that are
due. No agent's code can move the clock or the end, so a run to the end ends.
-/

set_option autoImplicit false

namespace PriorityAgents.World

variable {vocabulary : Vocabulary}

/-- One tick: its events, its timers, and on to the next. -/
def tick (repertoire : Repertoire vocabulary) (world : World vocabulary) :
    Logged (World vocabulary) := do
  let now := world.clock.now
  Logged.notify (.tickStart now)
  let roster ← (world.roster.advanceTo now).deliverAll repertoire now world.events
  let (fired, roster) ← roster.fire repertoire now
  Logged.notify (.tickEnd now fired)
  let clock ← world.clock.advance
  pure { world with roster, clock, events := [] }

theorem config_clock_of_tick {repertoire : Repertoire vocabulary} {world later : World vocabulary}
    (ticked : (world.tick repertoire).outcome = .ok later) :
    later.config = world.config ∧ later.clock.now.index = world.clock.now.index + 1 := by
  simp only [tick, Journaled.outcome_bind, Logged.outcome_notify] at ticked
  cases delivered : ((world.roster.advanceTo world.clock.now).deliverAll repertoire
      world.clock.now world.events).outcome with
  | error fault => rw [delivered] at ticked; cases ticked
  | ok delivery =>
      rw [delivered] at ticked
      cases fired : (delivery.fire repertoire world.clock.now).outcome with
      | error fault =>
          simp only [bind, Except.bind, fired] at ticked
          cases ticked
      | ok firing =>
          simp only [bind, Except.bind, fired] at ticked
          by_cases room : world.clock.now.index + 1 < 2 ^ 64
          · simp only [Clock.advance, Tick.offset, dif_pos room] at ticked
            cases ticked
            exact ⟨rfl, rfl⟩
          · simp only [Clock.advance, Tick.offset, dif_neg room] at ticked
            cases ticked

def ticks (repertoire : Repertoire vocabulary) (world : World vocabulary) :
    Nat → Logged (World vocabulary)
  | 0 => pure world
  | count + 1 => do
      let world ← world.tick repertoire
      world.ticks repertoire count

/-- Every tick up to the end that the settings give. -/
def toEnd (repertoire : Repertoire vocabulary) (world : World vocabulary) :
    Logged (World vocabulary) :=
  if _before : world.clock.now < world.config.endTick then do
    let ⟨later, _ticked⟩ ← (world.tick repertoire).attach
    later.toEnd repertoire
  else do
    Logged.notify (.runEnd world.clock.now)
    pure world
termination_by world.config.endTick.index - world.clock.now.index
decreasing_by
  have fact := config_clock_of_tick _ticked
  rw [fact.1, fact.2]
  rw [Tick.lt_def] at _before
  omega

/-! What an observer has of a tick, of a number of ticks and of a run to the end. -/

def step (repertoire : Repertoire vocabulary) (world : World vocabulary) :
    Logged (List Notice × World vocabulary) :=
  (world.tick repertoire).observed

def runTicks (repertoire : Repertoire vocabulary) (world : World vocabulary) (count : Nat) :
    Logged (List Notice × World vocabulary) :=
  (world.ticks repertoire count).observed

def run (repertoire : Repertoire vocabulary) (world : World vocabulary) :
    Logged (List Notice × World vocabulary) :=
  (world.toEnd repertoire).observed

end PriorityAgents.World
