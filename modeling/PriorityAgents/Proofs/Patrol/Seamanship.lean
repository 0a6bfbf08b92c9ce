import PriorityAgents.Proofs.Patrol.Orders

/-!
What every order of a ship does on stage, and every walk through the tree of ships.

A hull is only mended in a flight and a tank only filled at a dock. Whoever is remembered as an
attacker has attacked, and a station is selected right after a scan, among those that it has found
open. A walk comes to a deed only by the rule that has made sure of what the deed needs.
-/

set_option autoImplicit false

namespace PriorityAgents.Patrol

variable {α : Type} {sails : Ship → Prop} {agent : AgentId} {role : Role ships}
  {hits : List Attack} {scanned : Option (Controller ships)}

private theorem Ship.lessened_le (amount loss : UInt32) : lessened amount loss ≤ amount := by
  unfold lessened
  split
  · exact UInt32.le_iff_toNat_le.mpr (Nat.zero_le _)
  · rename_i above
    have below : loss ≤ amount := UInt32.le_of_lt (UInt32.not_le.mp above)
    rw [UInt32.le_iff_toNat_le, UInt32.toNat_sub_of_le _ _ below]
    exact Nat.sub_le _ _

private theorem fault_of_chance {probability : Float} {generator : Generator} {fault : Fault}
    (refused : Draw.chance probability generator = .error fault) : ¬IsArithmetic fault := by
  unfold Draw.chance at refused
  split at refused
  · cases refused
    exact id
  · split at refused
    · cases refused
    · have drawn (next : UInt64 → Draw Bool) : (Draw.word >>= next) generator =
          next generator.word.1 generator.word.2 := rfl
      rw [drawn] at refused
      split at refused <;> cases refused

/-! ### Handlers -/

def takesHit : Handler ships → Bool
  | .respond .alarm | .respond .fightOn => true
  | .respond .lost | .release => false
  | .releaseThen next => takesHit next

def Alert (handler? : EventName → Option (Handler ships)) : Prop :=
  ∀ name handler, handler? name = some handler →
    takesHit handler = decide (name = shipBeingAttacked)

namespace Alert

variable {set other : HandlerSet ships}

private theorem insert (alert : Alert set.get?) {name : EventName} {handler : Handler ships}
    (known : takesHit handler = decide (name = shipBeingAttacked)) :
    Alert (set.insert name handler).get? := by
  intro asked answer found
  rw [HandlerSet.get?_insert] at found
  by_cases same : name = asked
  · rw [if_pos same] at found
    cases found
    rwa [← same]
  · rw [if_neg same] at found
    exact alert asked answer found

private theorem merge (alert : Alert set.get?) (further : Alert other.get?) :
    Alert (set.merge other).get? := by
  intro name handler found
  rw [HandlerSet.get?_merge] at found
  rcases Option.or_eq_some_iff.mp found with second | ⟨_, first⟩
  · exact further name handler second
  · exact alert name handler first

private theorem withRelease (alert : Alert set.get?) : Alert set.withRelease.get? := by
  refine insert alert ?_
  split
  · rename_i next found
    exact alert _ next found
  · rfl

/-- What an empty slot is left with when a set is put in place is as harmless as before. -/
theorem install {surface : EventSurface ships} (bound : Alert surface.handler?)
    (alert : Alert set.get?) : Alert (surface.install set).handler? := by
  intro name handler found
  rw [EventSurface.handler?_install, EventSurface.handler?_uninstall] at found
  rcases Option.or_eq_some_iff.mp found with new | ⟨_, old⟩
  · exact alert.withRelease name handler new
  · split at old
    · cases old
    · exact bound name handler old

private theorem empty : Alert (HandlerSet.empty : HandlerSet ships).get? := by
  intro name handler found
  have none : (HandlerSet.empty : HandlerSet ships).get? name = .none :=
    Std.ExtTreeMap.getElem?_empty
  cases none.symm.trans found

private theorem standard : Alert standardResponses.get? := (empty.insert rfl).insert rfl

private theorem fighting : Alert fightingResponses.get? := standard.merge (empty.insert rfl)

end Alert

/-! ### What a ship remembers -/

/-- A ship of a certain state goes by the tree of ships, takes hits from attacks only, and remembers
no attacker but one that has attacked. -/
structure Informed (hits : List Attack) (state : Ship → Prop) (controller : Controller ships) :
    Prop where
  tree : controller.tree = Patrol.tree
  alert : Alert controller.surface.handler?
  attacker : controller.mind.parameters.contains attackerKey = true →
    ∃ attack ∈ hits,
      controller.mind.parameters.get? attackerKey nameShape = some attack.attacker
  state : state controller.agent

abbrev AnyState (_ : Ship) : Prop := True

variable {state further : Ship → Prop}

namespace Informed

variable {controller later : Controller ships}

theorem of_same (informed : Informed hits state controller)
    (tree : later.tree = controller.tree) (surface : later.surface = controller.surface)
    (parameters : later.mind.parameters = controller.mind.parameters)
    (held : further later.agent) : Informed hits further later := by
  refine ⟨tree.trans informed.tree, surface ▸ informed.alert, ?_, held⟩
  rw [parameters]
  exact informed.attacker

theorem imp (informed : Informed hits state controller)
    (known : ∀ ship, state ship → further ship) : Informed hits further controller :=
  informed.of_same rfl rfl rfl (known _ informed.state)

private theorem forget (informed : Informed hits state controller) :
    Informed hits state { controller with
      mind := { controller.mind with
        parameters := controller.mind.parameters.clear attackerKey } } := by
  refine ⟨informed.tree, informed.alert, fun known => ?_, informed.state⟩
  have erased : (controller.mind.parameters.clear attackerKey).contains attackerKey = false := by
    unfold Parameters.contains Parameters.clear
    rw [Std.ExtTreeMap.contains_erase]
    simp
  rw [erased] at known
  cases known

private theorem keep (informed : Informed hits state controller) {key : String}
    {shape : Shape ships.kinds} (other : key ≠ attackerKey) (content : shape.Content) :
    Informed hits state { controller with
      mind := { controller.mind with
        parameters := controller.mind.parameters.set key shape content } } := by
  refine ⟨informed.tree, informed.alert, fun known => ?_, informed.state⟩
  rw [Parameters.contains_set, decide_eq_false other, Bool.false_or] at known
  rw [Parameters.get?_set, if_neg other]
  exact informed.attacker known

private theorem remember (informed : Informed hits state controller) (attack : Attack) :
    Informed (hits ++ [attack]) state { controller with
      mind := { controller.mind with
        parameters :=
          controller.mind.parameters.set attackerKey nameShape attack.attacker } } :=
  ⟨informed.tree, informed.alert, fun _ => ⟨attack, List.mem_append_right _ List.mem_cons_self,
    Parameters.get?_set_self _ _ _ _⟩, informed.state⟩

theorem append (informed : Informed hits state controller) (more : List Attack) :
    Informed (hits ++ more) state controller := by
  refine ⟨informed.tree, informed.alert, fun known => ?_, informed.state⟩
  obtain ⟨attack, member, found⟩ := informed.attacker known
  exact ⟨attack, List.mem_append_left _ member, found⟩

end Informed

/-! ### Single requests -/

private theorem Step.of_kept {ship later : Ship} (hull : later.hull ≤ ship.hull)
    (fuel : later.fuel ≤ ship.fuel) (attacker : later.lastAttacker = ship.lastAttacker) :
    Step role ship later where
  hull := UInt32.le_trans hull
  fuel := UInt32.le_trans fuel
  mended := fun less => absurd hull (UInt32.not_le.mpr less)
  refuelled := fun less => absurd fuel (UInt32.not_le.mpr less)
  attacker := .inl attacker

private theorem Step.burning (ship : Ship) (amount : UInt32) :
    Step role ship (ship.burning amount) :=
  .of_kept (UInt32.le_refl _) (Ship.lessened_le _ _) rfl

private theorem note_fares {known : Controller ships → Prop} {severity : Severity}
    {message : String} {fields : List (String × String)} :
    Fares sails role known (note severity message fields) fun _ => known :=
  .request nofun nofun (.note fun _ kept => kept)

private theorem read_fares {known : Controller ships → Prop} {look : Mind ships → α} :
    Fares sails role known (Program.read look) fun _ => known :=
  .read fun _ kept => kept

private theorem changeAgent_fares {update : Ship → Ship}
    (holds : ∀ ship, state ship → Step role ship (update ship) ∧ further (update ship)) :
    Fares sails role (Informed hits state) (Program.changeAgent update)
      fun _ => Informed hits further :=
  .change fun _ informed =>
    have ⟨step, held⟩ := holds _ informed.state
    ⟨step, informed.of_same rfl rfl rfl held⟩

private theorem adjust_fares {update : Ship → Ship} (step : ∀ ship, Step role ship (update ship)) :
    Fares sails role (Informed hits AnyState) (Program.changeAgent update)
      fun _ => Informed hits AnyState :=
  changeAgent_fares fun ship _ => ⟨step ship, trivial⟩

private theorem forget_fares :
    Fares sails role (Informed hits state)
      (Program.changeParameters (·.clear attackerKey) : Order Unit)
      fun _ => Informed hits state :=
  .change fun _ informed => ⟨.refl role _, informed.forget⟩

private theorem chance_fares {probability : Float} :
    Fares sails role (Informed hits state) (Program.draw (Draw.chance probability) : Order Bool)
      fun _ => Informed hits state :=
  .draw (fun _ _ refused => fault_of_chance refused) fun _ _ _ informed =>
    informed.of_same rfl rfl rfl informed.state

private theorem communicate_fares {key substitution : String} :
    Fares sails role (Informed hits state)
      (Program.request (.communicate key substitution) : Order Unit)
      fun _ => Informed hits state := by
  refine .request nofun nofun (.communicate (fun _ informed => informed) ?_)
  intro controller message ship received informed
  cases received
  exact informed.of_same rfl rfl rfl informed.state

private theorem install_fares {set : HandlerSet ships} (alert : Alert set.get?) :
    Fares sails role (Informed hits state) (Program.request (.install set) : Order Unit)
      fun _ => Informed hits state :=
  .request nofun nofun (.install fun _ informed =>
    ⟨informed.tree, informed.alert.install alert, informed.attacker, informed.state⟩)

private theorem standard_fares :
    Fares sails role (Informed hits state)
      (Program.request (.install standardResponses) : Order Unit)
      fun _ => Informed hits state := install_fares .standard

private theorem fighting_fares :
    Fares sails role (Informed hits state)
      (Program.request (.install fightingResponses) : Order Unit)
      fun _ => Informed hits state := install_fares .fighting

private theorem reconsiderNow_fares :
    Fares sails role (Informed hits state) (Program.request .reconsiderNow : Order Unit)
      fun _ => Informed hits state :=
  .request nofun nofun
    (.reconsiderNow fun _ _ informed => informed.of_same rfl rfl rfl informed.state)

/-! ### Deeds -/

theorem patrol_fares :
    Fares sails role (Informed hits AnyState) patrol fun _ => Informed hits AnyState := by
  refine .bind (adjust_fares fun ship =>
    .of_kept (UInt32.le_refl _) (UInt32.le_refl _) rfl) fun _ => ?_
  refine .bind (adjust_fares fun ship => .burning ship 8) fun _ => ?_
  exact .bind read_fares fun ship => .bind note_fares fun _ => standard_fares

theorem engage_fares :
    Fares sails role (Informed hits AnyState) engage fun _ => Informed hits AnyState := by
  refine .bind read_fares fun found => .bind communicate_fares fun _ => ?_
  refine .bind (adjust_fares fun ship => .burning ship 3) fun _ => ?_
  refine .bind chance_fares fun driven => ?_
  cases driven with
  | false => exact fighting_fares
  | true =>
      refine .bind read_fares fun ship => .bind note_fares fun _ => ?_
      exact .bind forget_fares fun _ => fighting_fares

private theorem patched_of_crippled {ship : Ship} (crippled : ship.hull ≤ 39) :
    ship.patched = .ok { ship with hull := min (ship.hull + 15) 100 } := by
  have bound : ship.hull.toNat ≤ 39 := UInt32.le_iff_toNat_le.mp crippled
  exact if_pos (by omega)

private theorem Step.of_crippled {ship : Ship} (afloat : 1 ≤ ship.hull)
    (crippled : ship.hull ≤ 39) :
    Step (.deed .flee) ship
      (Ship.burning { ship with hull := min (ship.hull + 15) 100 } 5) where
  hull := fun _ => by
    change min (ship.hull + 15) 100 ≤ 100
    rw [Std.min_eq_if]
    split
    · assumption
    · exact UInt32.le_refl _
  fuel := UInt32.le_trans (Ship.lessened_le _ _)
  mended := fun _ => ⟨rfl, afloat, crippled⟩
  refuelled := fun less => absurd (Ship.lessened_le _ _) (UInt32.not_le.mpr less)
  attacker := .inl rfl

theorem flee_fares : Fares sails (.deed .flee)
    (Informed hits fun ship => 1 ≤ ship.hull ∧ ship.hull ≤ 39) flee
    fun _ => Informed hits AnyState := by
  refine .bind read_fares fun _ => .bind communicate_fares fun _ => ?_
  refine .bind forget_fares fun _ => ?_
  have looked : Fares sails (.deed .flee) (Informed hits fun ship => 1 ≤ ship.hull ∧ ship.hull ≤ 39)
      theShip fun ship => Informed hits fun seen => seen = ship ∧ 1 ≤ ship.hull ∧ ship.hull ≤ 39 :=
    .read fun controller informed => informed.of_same rfl rfl rfl ⟨rfl, informed.state⟩
  refine .bind looked fun ship => ?_
  have patched : Fares sails (.deed .flee)
      (Informed hits fun seen => seen = ship ∧ 1 ≤ ship.hull ∧ ship.hull ≤ 39)
      (Program.ofExcept ship.patched) fun mended => Informed hits fun seen =>
        Step (.deed .flee) seen (mended.burning 5) := by
    by_cases bounds : 1 ≤ ship.hull ∧ ship.hull ≤ 39
    · rw [patched_of_crippled bounds.2]
      refine .pure fun _ informed => informed.imp ?_
      rintro _ ⟨rfl, afloat, crippled⟩
      exact .of_crippled afloat crippled
    · exact .of_never fun _ informed => bounds informed.state.2
  refine .bind patched fun mended => ?_
  have replaced : Fares sails (.deed .flee)
      (Informed hits fun seen => Step (.deed .flee) seen (mended.burning 5))
      (Program.changeAgent fun _ => mended.burning 5) fun _ => Informed hits AnyState :=
    changeAgent_fares fun _ step => ⟨step, trivial⟩
  exact .bind replaced fun _ => standard_fares

private theorem scan_fares (chances : List (String × Float)) :
    Fares sails role (Informed hits state) (scan chances) fun _ => Informed hits state := by
  induction chances with
  | nil => exact .pure fun _ informed => informed
  | cons chance chances ih =>
      refine .bind chance_fares fun isOpen => ?_
      exact .bind ih fun stations => .pure fun _ informed => informed

theorem scanStations_fares :
    Fares sails role (Informed hits state) scanStations fun _ controller =>
      Informed hits state controller ∧ ∃ stations : List Station,
        controller.mind.parameters.get? stationsKey stationsShape = some stations := by
  refine .bind (scan_fares _) fun stations => .change fun controller informed => ?_
  exact ⟨.refl role _, informed.keep (by decide) _, stations, Parameters.get?_set_self _ _ _ _⟩

theorem dock_fares :
    Fares sails (.deed .dock) (Informed hits AnyState) dock fun _ => Informed hits AnyState := by
  refine .bind read_fares fun chosen => ?_
  cases chosen with
  | none => exact .pure fun _ informed => informed
  | some station =>
      have filled (ship : Ship) : Step (.deed .dock) ship (ship.docked station) :=
        { hull := id
          fuel := fun _ => UInt32.le_refl _
          mended := fun less => absurd less (UInt32.lt_irrefl _)
          refuelled := fun _ => rfl
          attacker := .inl rfl }
      refine .bind communicate_fares fun _ => ?_
      exact .bind (adjust_fares filled) fun _ => standard_fares

/-! ### Responses -/

variable {attack : Attack}

abbrev HitBy (attack : Attack) (ship : Ship) : Prop :=
  ship.lastAttacker = some attack.attacker

private theorem takeHit_fares (answers : attackOf role = some attack) :
    Fares sails role (Informed hits AnyState) (takeHit attack)
      fun _ => Informed hits (HitBy attack) := by
  have struck (ship : Ship) : Step role ship (ship.struck attack) :=
    { hull := UInt32.le_trans (Ship.lessened_le _ _)
      fuel := id
      mended := fun less => absurd (Ship.lessened_le _ _) (UInt32.not_le.mpr less)
      refuelled := fun less => absurd less (UInt32.lt_irrefl _)
      attacker := .inr ⟨attack, answers, rfl⟩ }
  have hit : Fares sails role (Informed hits AnyState) (Program.changeAgent (·.struck attack))
      fun _ => Informed hits (HitBy attack) := changeAgent_fares fun ship _ => ⟨struck ship, rfl⟩
  exact .bind hit fun _ => .bind read_fares fun ship => note_fares

private theorem alarm_fares (answers : attackOf role = some attack) :
    Fares sails role (Informed hits AnyState) (Response.alarm.meaning attack)
      fun _ => Informed (hits ++ [attack]) (HitBy attack) := by
  have remembered : Fares sails role (Informed hits (HitBy attack))
      (Program.changeParameters (·.set attackerKey nameShape attack.attacker) : Order Unit)
      fun _ => Informed (hits ++ [attack]) (HitBy attack) :=
    .change fun _ informed => ⟨.refl role _, informed.remember attack⟩
  unfold Response.meaning
  exact .bind (takeHit_fares answers) fun _ => .bind remembered fun _ => reconsiderNow_fares

private theorem fightOn_fares (answers : attackOf role = some attack) :
    Fares sails role (Informed hits AnyState) (Response.fightOn.meaning attack)
      fun _ => Informed (hits ++ [attack]) (HitBy attack) := by
  have looked : Fares sails role (Informed hits (HitBy attack)) theShip
      fun _ => Informed (hits ++ [attack]) (HitBy attack) :=
    .read fun _ informed => informed.append [attack]
  unfold Response.meaning
  refine .bind (takeHit_fares answers) fun _ => .bind looked fun ship => ?_
  split
  · exact reconsiderNow_fares
  · exact .pure fun _ informed => informed

private theorem lost_fares :
    Fares sails role (Informed hits AnyState) (Response.lost.meaning attack)
      fun _ => Informed hits AnyState := by
  unfold Response.meaning
  exact .bind read_fares fun ship => note_fares

private theorem cancel_fares :
    Fares sails role (Informed hits AnyState) (Program.request .cancel : Order Unit)
      fun _ => Informed hits AnyState := by
  refine .request nofun nofun (.request fun context later answer journal performed informed => ?_)
  rw [(Context.gives_cancel.mp (Context.gives_effect.mp performed)).1]
  exact informed.of_same rfl rfl rfl trivial

abbrev HitOn (role : Role ships) (ship : Ship) : Prop :=
  ∀ attack, attackOf role = some attack → HitBy attack ship

theorem handle_fares (handler : Handler ships)
    (answers : attackOf role = if takesHit handler then some attack else none) :
    Fares sails role (Informed hits AnyState) (repertoire.handle handler attack)
      fun _ => Informed (hits ++ (attackOf role).toList) (HitOn role) := by
  have hit (taken : attackOf role = some attack) {controller : Controller ships}
      (informed : Informed (hits ++ [attack]) (HitBy attack) controller) :
      Informed (hits ++ (attackOf role).toList) (HitOn role) controller := by
    unfold HitOn
    rw [taken]
    refine informed.imp fun ship known other same => ?_
    cases same
    exact known
  have unhurt (untaken : attackOf role = none) {controller : Controller ships}
      (informed : Informed hits AnyState controller) :
      Informed (hits ++ (attackOf role).toList) (HitOn role) controller := by
    unfold HitOn
    rw [untaken]
    exact (informed.append []).imp fun _ _ => nofun
  induction handler with
  | respond response =>
      cases response with
      | alarm => exact (alarm_fares answers).imp fun _ _ => hit answers
      | fightOn => exact (fightOn_fares answers).imp fun _ _ => hit answers
      | lost => exact lost_fares.imp fun _ _ => unhurt answers
  | release => exact cancel_fares.imp fun _ _ => unhurt answers
  | releaseThen next ih => exact .bind cancel_fares fun _ => ih answers

/-! ### Setting out -/

structure Fresh (controller : Controller ships) : Prop where
  parameters : controller.mind.parameters = .empty
  surface : controller.surface = .empty

theorem start_fares : Fares sails role Fresh start fun _ => Informed [] AnyState := by
  have phrase (key phrase : String) :
      Fares sails role Fresh (Program.setPhrase key phrase) fun _ => Fresh :=
    .change fun _ begun => ⟨.refl role _, begun.parameters, begun.surface⟩
  refine .bind (phrase _ _) fun _ => .bind (phrase _ _) fun _ => .bind (phrase _ _) fun _ => ?_
  refine .request nofun nofun (.setPriorities fun controller scheduler begun => ?_)
  refine ⟨rfl, fun name handler found => ?_, fun known => ?_, trivial⟩
  · change controller.surface.handler? name = some handler at found
    rw [begun.surface] at found
    cases found
  · change controller.mind.parameters.contains attackerKey = true at known
    rw [begun.parameters] at known
    cases known

/-! ### Questions -/

theorem isCrippled_fares : Fares sails role (Informed hits (1 ≤ ·.hull))
    (Condition.isCrippled.meaning) fun isCrippled =>
      Informed hits fun ship => 1 ≤ ship.hull ∧ (isCrippled = true → ship.hull ≤ 39) := by
  have looked : Fares sails role (Informed hits (1 ≤ ·.hull)) theShip fun ship =>
      Informed hits fun seen => seen = ship ∧ 1 ≤ ship.hull :=
    .read fun _ informed => informed.of_same rfl rfl rfl ⟨rfl, informed.state⟩
  unfold Condition.meaning
  refine .bind looked fun ship => .pure fun _ informed => informed.imp ?_
  rintro _ ⟨rfl, afloat⟩
  refine ⟨afloat, fun crippled => ?_⟩
  have below : _ < (40 : UInt32) := of_decide_eq_true crippled
  rw [UInt32.lt_iff_toNat_lt] at below
  rw [UInt32.le_iff_toNat_le]
  exact Nat.le_of_lt_succ below

theorem isUnderAttack_fares : Fares sails role (Informed hits state)
    (Condition.isUnderAttack.meaning) fun isUnderAttack controller =>
      Informed hits state controller ∧ (isUnderAttack = true → ∃ attack ∈ hits,
        controller.mind.parameters.get? attackerKey nameShape = some attack.attacker) := by
  unfold Condition.meaning
  exact .read fun _ informed => ⟨informed, informed.attacker⟩

theorem isLowOnFuel_fares : Fares sails role (Informed hits state)
    (Condition.isLowOnFuel.meaning) fun _ => Informed hits state := by
  unfold Condition.meaning
  exact .bind read_fares fun ship => .pure fun _ informed => informed

theorem findsOpenStation_fares {stations : List Station} : Fares sails role
    (fun controller => Informed hits state controller ∧
      controller.mind.parameters.get? stationsKey stationsShape = some stations)
    (Condition.findsOpenStation.meaning) fun found controller =>
      Informed hits state controller ∧ (found = true → ∃ station : Station,
        controller.mind.parameters.get? Parameters.selectedKey stationShape = some station ∧
          stations.find? Station.isOpen = some station) := by
  unfold Condition.meaning
  refine .changeReading fun controller begun => ?_
  obtain ⟨informed, listed⟩ := begun
  cases first : stations.find? Station.isOpen with
  | none =>
      have unfound : (controller.mind.parameters.get? stationsKey stationsShape).bind
          (List.find? Station.isOpen) = none := listed ▸ first
      rw [Parameters.selectFirst_of_none unfound]
      exact ⟨.refl role _, informed.of_same rfl rfl rfl informed.state, nofun⟩
  | some station =>
      have found : (controller.mind.parameters.get? stationsKey stationsShape).bind
          (List.find? Station.isOpen) = some station := listed ▸ first
      rw [Parameters.selectFirst_of_some found]
      exact ⟨.refl role _, informed.keep (by decide) _, fun _ =>
        ⟨station, Parameters.get?_set_self _ _ _ _, rfl⟩⟩

end PriorityAgents.Patrol
