import PriorityAgents.Patrol.Rules
import PriorityAgents.Proofs.Controller.Scene

/-!
The logbook of a ship, kept from what has been on stage of it: the attacks it has answered, what the
last scan of the walk under way has found, and the latest scene. With it a ship's state at any
moment can be told to be in order, and so can what a deed finds when it begins.
-/

set_option autoImplicit false

namespace PriorityAgents.Patrol

/-- The attack that a piece of code answers. -/
def attackOf : Role ships → Option Attack
  | .response name _ attack => if name = shipBeingAttacked then some attack else none
  | _ => none

structure Logbook where
  /-- The attacks that have been answered, oldest first. -/
  hits : List Attack
  /-- The ship as the last scan has left it in the walk under way, if there has been one in it. -/
  scanned : Option (Controller ships)
  last : Option (Scene ships)

namespace Logbook

def blank : Logbook := ⟨[], none, none⟩

/-- A hit has been taken once the response to the attack has come to its end. -/
def note (book : Logbook) (scene : Scene ships) : Logbook where
  hits :=
    match scene with
    | .ended role _ => book.hits ++ (attackOf role).toList
    | _ => book.hits
  scanned :=
    match scene with
    | .setOut _ => none
    | .ended (.deed .scanStations) context => some context.controller
    | _ => book.scanned
  last := some scene

def attacker (book : Logbook) : Option String := book.hits.getLast?.map Attack.attacker

/-- Whether a ship among those that are put to sea may remember `name` as its latest attacker. Until
it is hit for the first time it remembers what it has brought along. -/
def Names (sails : Ship → Prop) (book : Logbook) (name : Option String) : Prop :=
  match book.attacker with
  | some attacker => name = some attacker
  | none => ∃ ship, sails ship ∧ ship.lastAttacker = name

section

variable {sails : Ship → Prop} {book other : Logbook} {name : Option String}

theorem Names.of_hits (names : book.Names sails name) (same : other.hits = book.hits) :
    other.Names sails name := by
  unfold Names attacker
  rw [same]
  exact names

theorem Names.of_launched {ship : Ship} (launched : sails ship) :
    blank.Names sails ship.lastAttacker := by
  change ∃ other, sails other ∧ other.lastAttacker = ship.lastAttacker
  exact ⟨ship, launched, rfl⟩

theorem Names.of_struck {earlier : List Attack} {attack : Attack}
    (hits : book.hits = earlier ++ [attack]) : book.Names sails (some attack.attacker) := by
  unfold Names attacker
  rw [hits, List.getLast?_concat]
  rfl

theorem Names.eq_attacker {attacker : String} (names : book.Names sails name)
    (struck : book.attacker = some attacker) : name = some attacker := by
  unfold Names at names
  rw [struck] at names
  exact names

end

end Logbook

/-- The logbook of a ship after all that has been on stage. -/
def logbook (agent : AgentId) (history : List (Scene ships)) : Logbook :=
  (history.filter fun scene => scene.agent? = some agent).foldl Logbook.note .blank

section

variable {agent : AgentId} {past more : List (Scene ships)} {scene : Scene ships}

theorem logbook_of_others (others : ∀ scene ∈ more, scene.agent? ≠ some agent) :
    logbook agent (past ++ more) = logbook agent past := by
  have silent : (more.filter fun scene => scene.agent? = some agent) = [] :=
    List.filter_eq_nil_iff.mpr fun scene member about =>
      others scene member (of_decide_eq_true about)
  unfold logbook
  rw [List.filter_append, silent, List.append_nil]

theorem logbook_of_unseen (unseen : ∀ scene ∈ past, scene.agent? ≠ some agent) :
    logbook agent past = .blank :=
  @logbook_of_others agent [] past unseen

theorem logbook_note (own : scene.agent? = some agent) :
    logbook agent (past ++ [scene]) = (logbook agent past).note scene := by
  have kept : ([scene].filter fun scene => scene.agent? = some agent) = [scene] :=
    List.filter_cons_of_pos (decide_eq_true own)
  unfold logbook
  rw [List.filter_append, kept, List.foldl_append]
  rfl

theorem logbook_entered (entries : List Entry) :
    logbook agent (past ++ entries.map .entered) = logbook agent past := by
  refine logbook_of_others fun scene member => ?_
  obtain ⟨entry, _, rfl⟩ := List.mem_map.mp member
  exact nofun

end

/-! ### What is in order -/

/-- Ships are put to sea with a hull and a tank in range only. -/
def Trim (sails : Ship → Prop) : Prop :=
  ∀ ship, sails ship → ship.hull ≤ 100 ∧ ship.fuel ≤ 100

/-- A hull and a tank in range. Since the latest scene a hull has been mended in a flight only, and
only while it was there and crippled, and a tank has been filled at a dock only. -/
structure InRange (book : Logbook) (ship : Ship) : Prop where
  hull : ship.hull ≤ 100
  fuel : ship.fuel ≤ 100
  mended : ∀ scene context, book.last = some scene → scene.context? = some context →
    context.controller.agent.hull < ship.hull →
      (∃ request, scene = .asked (.deed .flee) context request) ∧
        1 ≤ context.controller.agent.hull ∧ context.controller.agent.hull ≤ 39
  refuelled : ∀ scene context, book.last = some scene → scene.context? = some context →
    context.controller.agent.fuel < ship.fuel →
      ∃ request, scene = .asked (.deed .dock) context request

def IsArithmetic : Fault → Prop
  | .addOverflow | .subOverflow | .mulOverflow => True
  | _ => False

/-- To dock at a station ends well, with a full tank. -/
def DocksAt (context : Context ships) (station : Station) : Prop :=
  ∃ later journal, (context.run repertoire dock).Gives ((), later) journal ∧
    later.controller.agent.fuel = 100 ∧ later.controller.agent.dockedAt = some station.name

/-- What a deed needs to find when it is begun. -/
def Ready (book : Logbook) (controller : Controller ships) : Deed → Prop
  | .flee => 1 ≤ controller.agent.hull ∧ controller.agent.hull ≤ 39
  | .engage =>
      ∃ attack ∈ book.hits,
        controller.mind.parameters.get? attackerKey nameShape = some attack.attacker
  | .dock =>
      ∃ (station : Station) (scanned : Controller ships) (stations : List Station),
        controller.mind.parameters.get? Parameters.selectedKey stationShape = some station ∧
          station.isOpen = true ∧ book.scanned = some scanned ∧
          scanned.mind.parameters.get? stationsKey stationsShape = some stations ∧
          stations.find? Station.isOpen = some station
  | .scanStations | .patrol => True

/-- A ship knows its latest attacker. In the midst of a response that may be the one at hand. -/
def Knows (sails : Ship → Prop) (book : Logbook) : Scene ships → Prop
  | .entered _ => True
  | .asked role context _ =>
      book.Names sails context.controller.agent.lastAttacker ∨
        ∃ attack, attackOf role = some attack ∧
          context.controller.agent.lastAttacker = some attack.attacker
  | .setOut context | .began _ context =>
      book.Names sails context.controller.agent.lastAttacker
  | .ended role context =>
      (book.note (.ended role context)).Names sails context.controller.agent.lastAttacker

structure Fit (sails : Ship → Prop) (book : Logbook) (scene : Scene ships) : Prop where
  range : Trim sails → ∀ context, scene.context? = some context →
    InRange book context.controller.agent
  sound : ∀ role context fault, scene = .asked role context (.fail fault) →
    ¬IsArithmetic fault
  ready : ∀ deed context, scene = .began (.deed deed) context →
    Ready book context.controller deed
  docks : ∀ (context : Context ships) (station : Station), scene = .began (.deed .dock) context →
    context.controller.mind.parameters.get? Parameters.selectedKey stationShape = some station →
      DocksAt context station
  knows : Knows sails book scene

namespace Fit

variable {sails : Ship → Prop} {book : Logbook} {context : Context ships} {role : Role ships}

theorem setOut (range : Trim sails → InRange book context.controller.agent)
    (knows : book.Names sails context.controller.agent.lastAttacker) :
    Fit sails book (.setOut context) where
  range := by
    rintro trim _ ⟨rfl⟩
    exact range trim
  sound _ _ _ same := nomatch same
  ready _ _ same := nomatch same
  docks _ _ same := nomatch same
  knows := knows

theorem began (range : Trim sails → InRange book context.controller.agent)
    (ready : ∀ deed, role = .deed deed → Ready book context.controller deed)
    (docks : ∀ station : Station,
      context.controller.mind.parameters.get? Parameters.selectedKey stationShape = some station →
        DocksAt context station)
    (knows : book.Names sails context.controller.agent.lastAttacker) :
    Fit sails book (.began role context) where
  range := by
    rintro trim _ ⟨rfl⟩
    exact range trim
  sound _ _ _ same := nomatch same
  ready := by
    rintro deed _ ⟨rfl⟩
    exact ready deed rfl
  docks := by
    rintro _ station ⟨rfl⟩
    exact docks station
  knows := knows

theorem asked {request : Request ships} (range : Trim sails → InRange book context.controller.agent)
    (sound : ∀ fault, request = .fail fault → ¬IsArithmetic fault)
    (knows : Knows sails book (.asked role context request)) :
    Fit sails book (.asked role context request) where
  range := by
    rintro trim _ ⟨rfl⟩
    exact range trim
  sound := by
    rintro _ _ fault ⟨rfl⟩
    exact sound fault rfl
  ready _ _ same := nomatch same
  docks _ _ same := nomatch same
  knows := knows

theorem ended (range : Trim sails → InRange book context.controller.agent)
    (knows : Knows sails book (.ended role context)) : Fit sails book (.ended role context) where
  range := by
    rintro trim _ ⟨rfl⟩
    exact range trim
  sound _ _ _ same := nomatch same
  ready _ _ same := nomatch same
  docks _ _ same := nomatch same
  knows := knows

end Fit

end PriorityAgents.Patrol
