import PriorityAgents.Patrol.Campaign

/-!
The command line: plays out the scenario in a given file, or the standard one, and prints the
account of it.
-/

set_option autoImplicit false

open PriorityAgents PriorityAgents.Patrol

def loadScenario (path : String) : IO (Except String Scenario) := do
  let contents ← try some <$> IO.FS.readFile path catch _ => pure none
  pure ((Scenario.load path contents).mapError ScenarioError.message)

def printRecords (records : List Record) : IO Unit :=
  (records.filter (·.shownAt .info)).forM fun record => IO.println record.line

/-- Carry out a part of a campaign: its answer, or the text of the reason why it has none. -/
def carryOut {α : Type} (play : Play α) : IO (Except String α) := do
  let done := ExceptT.run play
  printRecords done.records
  match done.outcome with
  | .ok (.ok answer) => pure (.ok answer)
  | .ok (.error cause) => pure (.error cause.message)
  | .error fault => pure (.error fault.message)

def playScenario (scenario : Scenario) : ExceptT String IO Unit := do
  let campaign ← ExceptT.mk (carryOut (Campaign.launch scenario))
  IO.println campaign.announcement
  let began ← IO.monoNanosNow
  let (notices, campaign) ← ExceptT.mk (carryOut campaign.playOut)
  let ended ← IO.monoNanosNow
  let wall := (Span.ofNanoseconds? (ended - began)).getD .zero
  let simulated ← ExceptT.mk (pure (campaign.world.clock.elapsed.mapError Fault.message))
  IO.println ("\nfinished in " ++ wall.brief ++ " at simulated " ++ simulated.brief)
  (campaign.summary (.ofNotices notices) scenario.ships).forM fun line => IO.println line

/-- Run the command line. The first argument names the file of a scenario. -/
def main (arguments : List String) : IO UInt32 := do
  let scenario ← match arguments.head? with
    | some path => loadScenario path
    | none => pure (.ok .standard)
  let result ← ExceptT.run do
    let scenario ← ExceptT.mk (pure scenario)
    playScenario scenario
  match result with
  | .ok () => pure 0
  | .error reason =>
      IO.eprintln ("Error: " ++ reason)
      pure 1
