import PriorityAgents.Fault
import PriorityAgents.Number.Power
import PriorityAgents.Vocabulary

/-!
Ships on patrol: what a ship is, what can happen to it, and the names by which its rules speak of
their questions, deeds and responses.
-/

set_option autoImplicit false

namespace PriorityAgents.Patrol

structure Attack where
  attacker : String
  damage : UInt32
deriving DecidableEq, Repr, Inhabited

structure Station where
  name : String
  isOpen : Bool
deriving DecidableEq, Repr, Inhabited

structure Ship where
  callsign : String
  hull : UInt32
  fuel : UInt32
  dockedAt : Option String
  lastAttacker : Option String
deriving DecidableEq, Repr, Inhabited

namespace Ship

def fresh (callsign : String) : Ship where
  callsign
  hull := 100
  fuel := 100
  dockedAt := none
  lastAttacker := none

/-- An amount less a loss, and nothing if the loss is greater. -/
def lessened (amount loss : UInt32) : UInt32 := if amount ≤ loss then 0 else amount - loss

def burning (ship : Ship) (amount : UInt32) : Ship :=
  { ship with fuel := lessened ship.fuel amount }

def struck (ship : Ship) (attack : Attack) : Ship :=
  { ship with
    hull := lessened ship.hull attack.damage
    lastAttacker := some attack.attacker }

def patched (ship : Ship) : Except Fault Ship :=
  if ship.hull.toNat + 15 < 2 ^ 32 then .ok { ship with hull := min (ship.hull + 15) 100 }
  else .error .addOverflow

def docked (ship : Ship) (station : Station) : Ship :=
  { ship with
    dockedAt := some station.name
    fuel := 100 }

def isCrippled (ship : Ship) : Bool := ship.hull < 40

end Ship

/-- What ships remember: the name of an attacker, and stations. -/
inductive Kind where
  | name
  | station
deriving DecidableEq, Repr

@[reducible] def Kind.Value : Kind → Type
  | .name => String
  | .station => Station

inductive Condition where
  | isCrippled
  | isUnderAttack
  | isLowOnFuel
  | findsOpenStation
deriving DecidableEq, Repr

inductive Deed where
  | flee
  | engage
  | scanStations
  | dock
  | patrol
deriving DecidableEq, Repr

inductive Response where
  /-- Take the hit, remember who it was, and reconsider. -/
  | alarm
  /-- Take the hit, and reconsider only if the ship is crippled. -/
  | fightOn
  | lost
deriving DecidableEq, Repr

@[reducible] def ships : Vocabulary where
  State := Ship
  Payload := Attack
  kinds := { Kind, decidableKind := inferInstance, Value := Kind.Value }
  Condition := Condition
  Action := Deed
  Response := Response

end PriorityAgents.Patrol
