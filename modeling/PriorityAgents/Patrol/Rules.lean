import PriorityAgents.Controller.Repertoire
import PriorityAgents.Patrol.Ship
import PriorityAgents.Random.Sampling

/-!
The rules of ships: flee when badly damaged, fight back when attacked, look for an open station
when fuel runs low, and patrol otherwise.
-/

set_option autoImplicit false

namespace PriorityAgents.Patrol

def shipBeingAttacked : EventName := ⟨"ship_being_attacked"⟩

def attackerKey : String := "patrol_attacker"

def stationsKey : String := "patrol_stations"

abbrev nameShape : Shape ships.kinds := .one Kind.name

abbrev stationShape : Shape ships.kinds := .one Kind.station

abbrev stationsShape : Shape ships.kinds := .list stationShape

/-- Every station, and the chance that it takes in ships at the moment of a scan. -/
def stationChances : List (String × Float) :=
  [("Lave Station", 0.5), ("Diso Orbital", 0.3), ("Leesti Hub", 0.2)]

abbrev Order (α : Type) : Type := Program ships α

def theShip : Order Ship := Program.read fun mind => mind.agent

def note (severity : Severity) (message : String) (fields : List (String × String)) : Order Unit :=
  Program.request (.note { severity, message, fields })

def takeHit (attack : Attack) : Order Unit := do
  Program.changeAgent (·.struck attack)
  let ship ← theShip
  note .info "hit" [("ship", ship.callsign), ("attacker", attack.attacker),
    ("hull", toString ship.hull.toNat)]

/-- The responses of a ship that expects no trouble. -/
def standardResponses : HandlerSet ships :=
  (HandlerSet.empty.insert shipBeingAttacked (.respond Response.alarm)).insert
    .entityDestroyed (.respond Response.lost)

/-- The responses of a ship that is fighting: a further hit only matters if it forces a retreat. -/
def fightingResponses : HandlerSet ships :=
  standardResponses.merge
    (HandlerSet.empty.insert shipBeingAttacked (.respond Response.fightOn))

def patrol : Order Unit := do
  Program.changeAgent fun ship => { ship with dockedAt := none }
  Program.changeAgent (·.burning 8)
  let ship ← theShip
  note .debug "patrolling" [("ship", ship.callsign), ("fuel", toString ship.fuel.toNat)]
  Program.request (.install standardResponses)

/-- Turn on the attacker, who is driven off four times out of ten. -/
def engage : Order Unit := do
  let found ← Program.read fun mind => mind.parameters.get? attackerKey nameShape
  let attacker : String := found.getD ""
  Program.request (.communicate "begin_attack" attacker)
  Program.changeAgent (·.burning 3)
  if ← Program.draw (Draw.chance 0.4) then
    let ship ← theShip
    note .info "attacker driven off" [("ship", ship.callsign), ("attacker", attacker)]
    Program.changeParameters (·.clear attackerKey)
  Program.request (.install fightingResponses)

def flee : Order Unit := do
  let ship ← theShip
  Program.request (.communicate "flee" (ship.lastAttacker.getD "hostiles"))
  Program.changeParameters (·.clear attackerKey)
  let ship ← Program.ofExcept (← theShip).patched
  Program.changeAgent fun _ => ship.burning 5
  Program.request (.install standardResponses)

def scan : List (String × Float) → Order (List Station)
  | [] => pure []
  | (name, chance) :: rest => do
      let isOpen ← Program.draw (Draw.chance chance)
      let stations ← scan rest
      pure ({ name, isOpen } :: stations)

def scanStations : Order Unit := do
  let stations ← scan stationChances
  Program.changeParameters (·.set stationsKey stationsShape stations)

def dock : Order Unit := do
  let chosen ← Program.read fun mind => mind.parameters.get? Parameters.selectedKey stationShape
  match chosen with
  | none => pure ()
  | some (station : Station) =>
      Program.request (.communicate "dock" station.name)
      Program.changeAgent (·.docked station)
      Program.request (.install standardResponses)

def Condition.meaning : Condition → Order Bool
  | .isCrippled => do pure (← theShip).isCrippled
  | .isUnderAttack => Program.read fun mind => mind.parameters.contains attackerKey
  | .isLowOnFuel => do pure ((← theShip).fuel < 30)
  | .findsOpenStation => Program.changeReading fun mind =>
      let (found, parameters) := mind.parameters.selectFirst stationsKey stationShape Station.isOpen
      (found, { mind with parameters })

def Deed.meaning : Deed → Order Unit
  | .flee => Patrol.flee
  | .engage => Patrol.engage
  | .scanStations => Patrol.scanStations
  | .dock => Patrol.dock
  | .patrol => Patrol.patrol

def Response.meaning (attack : Attack) : Response → Order Unit
  | .alarm => do
      takeHit attack
      Program.changeParameters (·.set attackerKey nameShape attack.attacker)
      Program.request .reconsiderNow
  | .fightOn => do
      takeHit attack
      if (← theShip).isCrippled then Program.request .reconsiderNow
  | .lost => do
      let ship ← theShip
      note .warn "ship destroyed" [("ship", ship.callsign), ("attacker", attack.attacker)]

def repertoire : Repertoire ships where
  isPresent ship := 0 < ship.hull
  receive message ship := do
    Told.report
      { severity := .info
        message := "\"" ++ message ++ "\""
        fields := [("ship", ship.callsign)] }
    pure ship
  condition := Condition.meaning
  action := Deed.meaning
  response response attack := response.meaning attack

def seconds (count : Fin 60) : Span := Span.ofMilliseconds (count.val * 1000) (by omega)

/-- What a ship would do, most urgent first. -/
def tree : PriorityTree ships where
  rules :=
    [{ Rule.blank with
        condition := some Condition.isCrippled
        behaviour := some Deed.flee
        reconsiderAfter := some (seconds 5) },
      { Rule.blank with
        condition := some Condition.isUnderAttack
        behaviour := some Deed.engage
        reconsiderAfter := some (seconds 2) },
      { Rule.blank with
        condition := some Condition.isLowOnFuel
        whenTrue :=
          [{ Rule.blank with
              precheck := some Deed.scanStations
              condition := some Condition.findsOpenStation
              behaviour := some Deed.dock
              reconsiderAfter := some (seconds 4) }] },
      { Rule.fallback Deed.patrol with reconsiderAfter := some (seconds 3) }]

def start : Order Unit := do
  Program.setPhrase "begin_attack" "[p1], you picked the wrong ship."
  Program.setPhrase "flee" "Mayday! Breaking off from [p1]."
  Program.setPhrase "dock" "Requesting docking clearance at [p1]."
  Program.request (.setPriorities tree)

end PriorityAgents.Patrol
