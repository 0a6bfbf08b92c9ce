import PriorityAgents.Patrol.Rules
import PriorityAgents.Proofs.Controller.Contract
import PriorityAgents.Proofs.Event.Lifecycle

/-!
What the code of a ship does to its hull.

No question and no deed brings a ship down, and whatever a ship does, it goes by the tree of ships
and answers an attack in one of two ways. Only a hit takes something away from a hull, and whoever
has gone down by it has put off the next reconsideration, even while fighting.
-/

set_option autoImplicit false

namespace PriorityAgents.Patrol

theorem Ship.lessened_zero (loss : UInt32) : lessened 0 loss = 0 :=
  if_pos (UInt32.le_iff_toNat_le.mpr (Nat.zero_le _))

private theorem Ship.hull_of_patched {ship mended : Ship} (patched : ship.patched = .ok mended) :
    mended.hull ≠ 0 := by
  unfold Ship.patched at patched
  split at patched
  · rename_i room
    cases patched
    change min (ship.hull + 15) 100 ≠ 0
    rw [Std.min_eq_if]
    split
    · intro gone
      have sum := congrArg UInt32.toNat gone
      rw [UInt32.toNat_add] at sum
      change (ship.hull.toNat + 15) % 2 ^ 32 = 0 at sum
      omega
    · decide
  · cases patched

/-! ### Ships in order -/

/-- A ship that goes by the tree of ships and takes its hits, with a hull of which something is
known. As long as nothing is bound to an attack it is not heard of, and does no harm. -/
structure Shipshape (hull : UInt32 → Prop) (controller : Controller ships) : Prop where
  tree : controller.tree = Patrol.tree
  alert : ∀ handler, controller.surface.handler? shipBeingAttacked = some handler →
    handler = .respond .alarm ∨ handler = .respond .fightOn
  hull : hull controller.agent.hull

abbrev Afloat : Controller ships → Prop := Shipshape (· ≠ 0)

variable {hull after : UInt32 → Prop}

theorem Shipshape.imp {controller : Controller ships} (ship : Shipshape hull controller)
    (known : hull controller.agent.hull → after controller.agent.hull) :
    Shipshape after controller :=
  ⟨ship.tree, ship.alert, known ship.hull⟩

private theorem Shipshape.install {controller : Controller ships} {set : HandlerSet ships}
    {handler : Handler ships} (ship : Shipshape hull controller)
    (given : set.withRelease.get? shipBeingAttacked = some handler)
    (known : handler = .respond .alarm ∨ handler = .respond .fightOn) :
    Shipshape hull { controller with surface := controller.surface.install set } := by
  refine ⟨ship.tree, ?_, ship.hull⟩
  intro bound found
  rw [EventSurface.handler?_install, given, Option.some_or] at found
  cases found
  exact known

private theorem get?_standardResponses :
    standardResponses.withRelease.get? shipBeingAttacked = some (.respond .alarm) := by
  unfold standardResponses
  rw [HandlerSet.get?_withRelease, if_neg (by decide), HandlerSet.get?_insert, if_neg (by decide),
    HandlerSet.get?_insert, if_pos rfl]

private theorem get?_fightingResponses :
    fightingResponses.withRelease.get? shipBeingAttacked = some (.respond .fightOn) := by
  unfold fightingResponses
  rw [HandlerSet.get?_withRelease, if_neg (by decide), HandlerSet.get?_merge,
    HandlerSet.get?_insert, if_pos rfl, Option.some_or]

private theorem read_meets {α : Type} {look : Mind ships → α} :
    (Program.read look : Order α).Meets repertoire (Shipshape hull) fun _ => Shipshape hull :=
  .read fun _ ship => ship

private theorem note_meets {severity : Severity} {message : String}
    {fields : List (String × String)} :
    (note severity message fields).Meets repertoire (Shipshape hull) fun _ => Shipshape hull :=
  .note fun _ ship => ship

private theorem changeAgent_meets {update : Ship → Ship}
    (same : ∀ ship, (update ship).hull = ship.hull) :
    (Program.changeAgent update : Order Unit).Meets repertoire (Shipshape hull) fun _ =>
      Shipshape hull :=
  .change fun _ ship => ⟨ship.tree, ship.alert, (congrArg hull (same _)).mpr ship.hull⟩

private theorem changeParameters_meets
    {update : Parameters ships.kinds → Parameters ships.kinds} :
    (Program.changeParameters update : Order Unit).Meets repertoire (Shipshape hull) fun _ =>
      Shipshape hull :=
  .change fun _ ship => ⟨ship.tree, ship.alert, ship.hull⟩

private theorem draw_meets {α : Type} {sample : StateT Generator (Except Fault) α} :
    (Program.draw sample : Order α).Meets repertoire (Shipshape hull) fun _ => Shipshape hull :=
  .draw fun _ _ _ ship => ⟨ship.tree, ship.alert, ship.hull⟩

private theorem communicate_meets {key substitution : String} :
    (Program.request (.communicate key substitution) : Order Unit).Meets repertoire
      (Shipshape hull) fun _ => Shipshape hull := by
  refine .communicate (fun _ ship => ship) ?_
  intro controller message agent received ship
  cases received
  exact ⟨ship.tree, ship.alert, ship.hull⟩

private theorem standard_meets :
    (Program.request (.install standardResponses) : Order Unit).Meets repertoire
      (Shipshape hull) fun _ => Shipshape hull :=
  .install fun _ ship => ship.install get?_standardResponses (.inl rfl)

private theorem fighting_meets :
    (Program.request (.install fightingResponses) : Order Unit).Meets repertoire
      (Shipshape hull) fun _ => Shipshape hull :=
  .install fun _ ship => ship.install get?_fightingResponses (.inr rfl)

private theorem reconsiderNow_meets :
    (Program.request .reconsiderNow : Order Unit).Meets repertoire (Shipshape hull) fun _ =>
      Shipshape hull :=
  .reconsiderNow fun _ _ ship => ⟨ship.tree, ship.alert, ship.hull⟩

/-! ### Deeds -/

private theorem patrol_meets : patrol.Meets repertoire Afloat fun _ => Afloat := by
  refine .bind (changeAgent_meets fun _ => rfl) fun _ => ?_
  refine .bind (changeAgent_meets fun _ => rfl) fun _ => ?_
  refine .bind read_meets fun ship => ?_
  exact .bind note_meets fun _ => standard_meets

private theorem engage_meets : engage.Meets repertoire Afloat fun _ => Afloat := by
  refine .bind read_meets fun found => ?_
  refine .bind communicate_meets fun _ => ?_
  refine .bind (changeAgent_meets fun _ => rfl) fun _ => ?_
  refine .bind draw_meets fun driven => ?_
  cases driven with
  | false => exact fighting_meets
  | true =>
      refine .bind read_meets fun ship => ?_
      refine .bind note_meets fun _ => ?_
      exact .bind changeParameters_meets fun _ => fighting_meets

private theorem flee_meets : flee.Meets repertoire Afloat fun _ => Afloat := by
  refine .bind read_meets fun ship => ?_
  refine .bind communicate_meets fun _ => ?_
  refine .bind changeParameters_meets fun _ => ?_
  refine .bind read_meets fun ship => ?_
  have mending : (Program.ofExcept ship.patched : Order Ship).Meets repertoire Afloat
      fun mended controller => mended.hull ≠ 0 ∧ Afloat controller :=
    .ofExcept fun _ patched _ ship => ⟨Ship.hull_of_patched patched, ship⟩
  refine .bind mending fun mended => ?_
  have replaced : (Program.changeAgent fun _ => mended.burning 5 : Order Unit).Meets repertoire
      (fun controller => mended.hull ≠ 0 ∧ Afloat controller) fun _ => Afloat :=
    .change fun _ begun => ⟨begun.2.tree, begun.2.alert, begun.1⟩
  exact .bind replaced fun _ => standard_meets

private theorem scan_meets (chances : List (String × Float)) :
    (scan chances).Meets repertoire (Shipshape hull) fun _ => Shipshape hull := by
  induction chances with
  | nil => exact .pure fun _ ship => ship
  | cons chance chances ih =>
      refine .bind draw_meets fun isOpen => ?_
      exact .bind ih fun stations => .pure fun _ ship => ship

private theorem dock_meets : dock.Meets repertoire Afloat fun _ => Afloat := by
  refine .bind read_meets fun chosen => ?_
  cases chosen with
  | none => exact .pure fun _ ship => ship
  | some station =>
      refine .bind communicate_meets fun _ => ?_
      exact .bind (changeAgent_meets fun _ => rfl) fun _ => standard_meets

/-- Nothing that a ship asks itself or does of its own accord brings it down. -/
theorem upholds_afloat : repertoire.Upholds Afloat where
  condition condition := by
    cases condition with
    | isCrippled => exact .bind read_meets fun _ => .pure fun _ ship => ship
    | isUnderAttack => exact read_meets
    | isLowOnFuel => exact .bind read_meets fun _ => .pure fun _ ship => ship
    | findsOpenStation =>
        change (Condition.meaning .findsOpenStation).Meets repertoire Afloat fun _ => Afloat
        unfold Condition.meaning
        exact .changeReading fun _ ship => ⟨ship.tree, ship.alert, ship.hull⟩
  action deed := by
    cases deed with
    | flee => exact flee_meets
    | engage => exact engage_meets
    | scanStations => exact .bind (scan_meets _) fun _ => changeParameters_meets
    | dock => exact dock_meets
    | patrol => exact patrol_meets
  scheduler _ _ ship := ⟨ship.tree, ship.alert, ship.hull⟩

def New (controller : Controller ships) : Prop :=
  controller.agent.hull ≠ 0 ∧ controller.surface.handler? shipBeingAttacked = none

theorem start_meets : start.Meets repertoire New fun _ => Afloat := by
  have phrase (key phrase : String) : (Program.setPhrase key phrase : Order Unit).Meets repertoire
      New fun _ => New :=
    .change fun _ begun => begun
  refine .bind (phrase _ _) fun _ => .bind (phrase _ _) fun _ => .bind (phrase _ _) fun _ => ?_
  refine .setPriorities fun controller scheduler begun => ?_
  refine ⟨rfl, ?_, begun.1⟩
  intro handler found
  change controller.surface.handler? shipBeingAttacked = some handler at found
  rw [begun.2] at found
  cases found

/-! ### Hits -/

variable {before : UInt32}

private theorem takeHit_meets (attack : Attack) : (takeHit attack).Meets repertoire
    (Shipshape (· = before)) fun _ => Shipshape (· = Ship.lessened before attack.damage) := by
  have struck : (Program.changeAgent (·.struck attack) : Order Unit).Meets repertoire
      (Shipshape (· = before)) fun _ => Shipshape (· = Ship.lessened before attack.damage) :=
    .change fun _ ship =>
      ⟨ship.tree, ship.alert, congrArg (Ship.lessened · attack.damage) ship.hull⟩
  exact .bind struck fun _ => .bind read_meets fun ship => note_meets

theorem alarm_meets (attack : Attack) : (Response.alarm.meaning attack).Meets repertoire
    (Shipshape (· = before)) fun _ => Shipshape (· = Ship.lessened before attack.damage) := by
  unfold Response.meaning
  refine .bind (takeHit_meets attack) fun _ => ?_
  exact .bind changeParameters_meets fun _ => reconsiderNow_meets

theorem fightOn_meets (attack : Attack) : (Response.fightOn.meaning attack).Meets repertoire
    (Shipshape (· = before)) fun _ => Shipshape (· = Ship.lessened before attack.damage) := by
  unfold Response.meaning
  refine .bind (takeHit_meets attack) fun _ => .bind read_meets fun ship => ?_
  split
  · exact reconsiderNow_meets
  · exact .pure fun _ ship => ship

theorem alarm_putsOff (attack : Attack) :
    (Response.alarm.meaning attack).PutsOff repertoire (Shipshape (· = before)) := by
  unfold Response.meaning
  refine .bind (takeHit_meets attack) fun _ => ?_
  exact .bind changeParameters_meets fun _ => .reconsiderNow

/-- A ship that fights only reconsiders when it is crippled, and whoever goes down is. -/
theorem fightOn_putsOff (attack : Attack) (down : Ship.lessened before attack.damage = 0) :
    (Response.fightOn.meaning attack).PutsOff repertoire (Shipshape (· = before)) := by
  unfold Response.meaning
  refine .bind (takeHit_meets attack) fun _ => ?_
  have looked : theShip.Meets repertoire (Shipshape (· = Ship.lessened before attack.damage))
      fun ship _ => ship.hull = 0 :=
    .read fun _ ship => ship.hull.trans down
  refine .bind looked fun ship => ?_
  split
  · exact .reconsiderNow
  · rename_i sound
    intro context _ _ _ _ gone
    refine absurd ?_ sound
    rw [Ship.isCrippled, gone]
    rfl

end PriorityAgents.Patrol
