import PriorityAgents.Json.Reader
import PriorityAgents.Notation

/-!
Scenarios: the ships of a patrol, the raids on them and the settings of the run, as they are
written down in a file.
-/

set_option autoImplicit false

namespace PriorityAgents.Patrol

/-- An attack on a ship of the list, at a tick. -/
structure Raid where
  tick : UInt64
  ship : UInt64
  attacker : String
  damage : UInt32
deriving DecidableEq, Repr, Inhabited

/-- A patrol and what befalls it. -/
structure Scenario where
  config : Config
  ships : List String
  raids : List Raid
deriving DecidableEq, Repr, Inhabited

inductive ScenarioError where
  | unreadable (path : String)
  | malformed (path : String)
deriving DecidableEq, Repr

def ScenarioError.message : ScenarioError → String
  | .unreadable path => "reading " ++ path
  | .malformed path => "parsing " ++ path

/-- A raid is written with all of its fields. -/
def Raid.ofJson? (json : Json) : Option Raid :=
  match json.fields? ["tick", "ship", "attacker", "damage"] with
  | some [tick, ship, attacker, damage] => do
      let tick ← Json.requiredField tick
      let ship ← Json.requiredField ship
      let attacker ← Json.requiredField attacker
      let damage ← Json.requiredField damage
      pure { tick, ship, attacker, damage }
  | _ => none

instance : JsonDecode Raid := ⟨Raid.ofJson?⟩

namespace Scenario

def standard : Scenario where
  config := { Config.standard with seed := 42 }
  ships := ["Viper", "Cobra"]
  raids := [{ tick := 40, ship := 0, attacker := "Krait", damage := 45 }]

/-- The scenario that a JSON value spells. What is left out is as in the standard one. -/
def ofJson? (json : Json) : Option Scenario :=
  match json.fields? ["sim", "ships", "raids"] with
  | some [config, ships, raids] => do
      let config ← Json.optionalField standard.config config
      let ships ← Json.optionalField standard.ships ships
      let raids ← Json.optionalField standard.raids raids
      pure { config, ships, raids }
  | _ => none

def parse? (text : String) : Option Scenario := (Json.parse? text).bind ofJson?

def load (path : String) (contents : Option String) : Except ScenarioError Scenario :=
  match contents with
  | none => .error (.unreadable path)
  | some text =>
      match parse? text with
      | none => .error (.malformed path)
      | some scenario => .ok scenario

end Scenario

end PriorityAgents.Patrol
