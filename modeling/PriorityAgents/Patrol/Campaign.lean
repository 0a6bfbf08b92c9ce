import PriorityAgents.Patrol.Rules
import PriorityAgents.Patrol.Scenario
import PriorityAgents.World.Run

/-!
Campaigns: a scenario played out tick by tick, and the account that is given of it.

Each turn posts the raids whose tick has come, steps the world once and clears away the wrecks, so
a ship whose hull is gone does not live to see the next tick.
-/

set_option autoImplicit false

namespace PriorityAgents.Patrol

structure Tally where
  selected : Nat
  noMatch : Nat
  gone : Nat
  stale : Nat
  handled : Nat
  unhandled : Nat
deriving DecidableEq, Repr

namespace Tally

def zero : Tally := ⟨0, 0, 0, 0, 0, 0⟩

instance : Inhabited Tally := ⟨zero⟩

def count (tally : Tally) : Notice → Tally
  | .event _ _ _ true => { tally with handled := tally.handled + 1 }
  | .event _ _ _ false => { tally with unhandled := tally.unhandled + 1 }
  | .reconsider _ _ .selected => { tally with selected := tally.selected + 1 }
  | .reconsider _ _ .noMatch => { tally with noMatch := tally.noMatch + 1 }
  | .reconsider _ _ .agentGone => { tally with gone := tally.gone + 1 }
  | .reconsider _ _ .stale => { tally with stale := tally.stale + 1 }
  | .tickStart _ | .tickEnd _ _ | .runEnd _ => tally

def ofNotices (notices : List Notice) : Tally := notices.foldl count zero

end Tally

/-- A computation that a world may refuse to go along with. -/
abbrev Play (α : Type) : Type := ExceptT WorldError Logged α

structure Campaign where
  world : World ships
  /-- The identities of the ships, in the order of the scenario. -/
  fleet : List AgentId
  raids : List Raid

namespace Campaign

def launchAll : List String → World ships → Play (List AgentId × World ships)
  | [], world => pure ([], world)
  | callsign :: callsigns, world => do
      let (agent, world) ←
        ExceptT.mk (world.spawn repertoire (.fresh callsign) (callsign ++ "-ai") start)
      let (agents, world) ← launchAll callsigns world
      pure (agent :: agents, world)

/-- The world of a scenario with all of its ships, before the first tick. Raids at the same tick
keep the order in which they are written. -/
def launch (scenario : Scenario) : Play Campaign := do
  let world ← ExceptT.mk (pure (World.create scenario.config none))
  let (fleet, world) ← launchAll scenario.ships world
  pure
    { world
      fleet
      raids := scenario.raids.mergeSort fun earlier later => earlier.tick ≤ later.tick }

/-- Post a raid. A raid on a ship that is no longer there is passed over, and one on a ship that
never was is reported. -/
def postRaid (campaign : Campaign) (raid : Raid) : Play Campaign := do
  match campaign.fleet[raid.ship.toNat]? with
  | none =>
      Logged.report
        { severity := .warn
          message := "raid targets an unknown ship"
          fields := [("ship", toString raid.ship.toNat)] }
      pure campaign
  | some target =>
      if (campaign.world.controller? target).isSome then do
        let attack : Attack := { attacker := raid.attacker, damage := raid.damage }
        let world ← ExceptT.mk (pure (campaign.world.post target shipBeingAttacked attack))
        pure { campaign with world }
      else pure campaign

def wrecks (campaign : Campaign) : List AgentId :=
  campaign.world.liveAgents.filter fun agent =>
    (campaign.world.controller? agent).any fun controller => controller.agent.hull = 0

/-- Take a wreck out of the world, in the name of whoever hit it last. -/
def clearWreck (campaign : Campaign) (agent : AgentId) : Play Campaign := do
  let attacker :=
    ((campaign.world.controller? agent).bind fun controller =>
      controller.agent.lastAttacker).getD "unknown"
  let (_, world) ←
    ExceptT.mk (campaign.world.destroy repertoire agent { attacker, damage := 0 })
  pure { campaign with world }

/-- One turn: the raids that are due, a tick, and the wrecks. -/
def turn (campaign : Campaign) : Play (List Notice × Campaign) := do
  let due (raid : Raid) : Bool := raid.tick.toNat ≤ campaign.world.clock.now.index
  let posted ← (campaign.raids.takeWhile due).foldlM postRaid
    { campaign with raids := campaign.raids.dropWhile due }
  let (notices, world) ← posted.world.step repertoire
  let stepped := { posted with world }
  let cleared ← stepped.wrecks.foldlM clearWreck stepped
  pure (notices, cleared)

def turns (campaign : Campaign) : Nat → Play (List Notice × Campaign)
  | 0 => pure ([], campaign)
  | count + 1 => do
      let (notices, campaign) ← campaign.turn
      let (later, campaign) ← campaign.turns count
      pure (notices ++ later, campaign)

/-- A campaign from its launch to the end that its settings give. -/
def playOut (campaign : Campaign) : Play (List Notice × Campaign) :=
  campaign.turns (campaign.world.config.endTick.index - campaign.world.clock.now.index)

def announcement (campaign : Campaign) : String :=
  let config := campaign.world.config
  "patrol: " ++ toString campaign.fleet.length ++ " ships, " ++ toString config.totalTicks.toNat ++
    " ticks of " ++ toString config.tickMillis.toNat ++ " ms, seed " ++ toString config.seed.toNat

def leftAligned (width : Nat) (text : String) : String :=
  text ++ String.ofList (List.replicate (width - text.length) ' ')

def rightAligned (width value : Nat) : String :=
  let digits := toString value
  String.ofList (List.replicate (width - digits.length) ' ') ++ digits

def shipLine (campaign : Campaign) (agent : AgentId) (callsign : String) : String :=
  let name := "  " ++ leftAligned 10 callsign
  match campaign.world.controller? agent with
  | none => name ++ " destroyed"
  | some controller =>
      let ship := controller.agent
      name ++ " hull " ++ rightAligned 3 ship.hull.toNat ++ "  fuel " ++
        rightAligned 3 ship.fuel.toNat ++ "  " ++ ship.dockedAt.getD "in flight"

def summary (campaign : Campaign) (tally : Tally) (callsigns : List String) : List String :=
  ["reconsiderations: " ++ toString tally.selected ++ " selected, " ++ toString tally.noMatch ++
      " no-match, " ++ toString tally.gone ++ " gone, " ++ toString tally.stale ++ " stale",
    "events: " ++ toString tally.handled ++ " handled, " ++ toString tally.unhandled ++
      " unhandled"] ++
    (campaign.fleet.zip callsigns).map fun (agent, callsign) => campaign.shipLine agent callsign

end Campaign

end PriorityAgents.Patrol
