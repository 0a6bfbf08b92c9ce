import PriorityAgents.Patrol.Rules
import PriorityAgents.Proofs.Controller.Blindness

/-!
The code of ships is blind to the handles of timers, all of it, whatever a ship may come across.
-/

set_option autoImplicit false

namespace PriorityAgents.Patrol

def everything : Reach ships where
  condition _ := True
  action _ := True
  response _ := True
  mind _ := True
  payload _ := True

private theorem handler_within (handler : Handler ships) : handler.Within everything := by
  induction handler with
  | respond response => exact trivial
  | release => exact trivial
  | releaseThen next ih => exact ih

private theorem install_blind (set : HandlerSet ships) :
    (Program.request (.install set)).Blind everything fun _ => True :=
  .request (fun _ handler _ => handler_within handler) fun _ _ same => same

private theorem note_blind (severity : Severity) (message : String)
    (fields : List (String × String)) :
    (note severity message fields).Blind everything fun _ => True :=
  .request trivial fun _ _ same => same

private theorem changeAgent_blind (update : Ship → Ship) :
    (Program.changeAgent update : Order Unit).Blind everything fun _ => True :=
  .change fun _ _ => trivial

private theorem communicate_blind (key substitution : String) :
    (Program.request (.communicate key substitution) : Order Unit).Blind everything
      fun _ => True :=
  .request trivial fun _ _ same => same

private theorem takeHit_blind (attack : Attack) :
    (takeHit attack).Blind everything fun _ => True := by
  refine .bind (changeAgent_blind _) fun _ _ => ?_
  refine .bind (.read _) fun ship _ => ?_
  exact note_blind _ _ _

private theorem patrol_blind : patrol.Blind everything fun _ => True := by
  refine .bind (changeAgent_blind _) fun _ _ => ?_
  refine .bind (changeAgent_blind _) fun _ _ => ?_
  refine .bind (.read _) fun ship _ => ?_
  refine .bind (note_blind _ _ _) fun _ _ => ?_
  exact install_blind _

private theorem engage_blind : engage.Blind everything fun _ => True := by
  refine .bind (.read _) fun found _ => ?_
  refine .bind (communicate_blind _ _) fun _ _ => ?_
  refine .bind (changeAgent_blind _) fun _ _ => ?_
  refine .bind (.draw fun _ _ _ => trivial) fun driven _ => ?_
  cases driven with
  | false => exact install_blind _
  | true =>
      refine .bind (.read _) fun ship _ => ?_
      refine .bind (note_blind _ _ _) fun _ _ => ?_
      refine .bind (.change fun _ _ => trivial) fun _ _ => ?_
      exact install_blind _

private theorem flee_blind : flee.Blind everything fun _ => True := by
  refine .bind (.read _) fun ship _ => ?_
  refine .bind (communicate_blind _ _) fun _ _ => ?_
  refine .bind (.change fun _ _ => trivial) fun _ _ => ?_
  refine .bind (.read _) fun ship _ => ?_
  refine .bind (.ofExcept fun _ _ => (trivial : (fun _ => True) _)) fun ship _ => ?_
  refine .bind (changeAgent_blind _) fun _ _ => ?_
  exact install_blind _

private theorem scan_blind (chances : List (String × Float)) :
    (scan chances).Blind everything fun _ => True := by
  induction chances with
  | nil => exact trivial
  | cons chance chances ih =>
      refine .bind (.draw fun _ _ _ => trivial) fun isOpen _ => ?_
      exact .bind ih fun stations _ => trivial

private theorem dock_blind : dock.Blind everything fun _ => True := by
  refine .bind (.read _) fun chosen _ => ?_
  cases chosen with
  | none => exact trivial
  | some station =>
      refine .bind (communicate_blind _ _) fun _ _ => ?_
      refine .bind (changeAgent_blind _) fun _ _ => ?_
      exact install_blind _

theorem repertoire_blind : repertoire.Blind everything where
  receive _ _ _ _ _ := trivial
  condition condition _ := by
    cases condition with
    | isCrippled => exact .bind (.read _) fun _ _ => trivial
    | isUnderAttack => exact .read _
    | isLowOnFuel => exact .bind (.read _) fun _ _ => trivial
    | findsOpenStation =>
        change (Condition.meaning .findsOpenStation).Blind everything _
        unfold Condition.meaning
        exact .changeReading fun _ _ => trivial
  action deed _ := by
    cases deed with
    | flee => exact flee_blind
    | engage => exact engage_blind
    | scanStations => exact .bind (scan_blind _) fun _ _ => .change fun _ _ => trivial
    | dock => exact dock_blind
    | patrol => exact patrol_blind
  response response attack _ _ := by
    cases response with
    | alarm =>
        refine .bind (takeHit_blind attack) fun _ _ => ?_
        refine .bind (.change fun _ _ => trivial) fun _ _ => ?_
        exact .request trivial fun _ _ same => same
    | fightOn =>
        refine .bind (takeHit_blind attack) fun _ _ => ?_
        refine .bind (.read _) fun ship _ => ?_
        split
        · exact .request trivial fun _ _ same => same
        · exact trivial
    | lost =>
        refine .bind (.read _) fun ship _ => ?_
        exact note_blind _ _ _

theorem start_blind : start.Blind everything fun _ => True := by
  refine .bind (.change fun _ _ => trivial) fun _ _ => ?_
  refine .bind (.change fun _ _ => trivial) fun _ _ => ?_
  refine .bind (.change fun _ _ => trivial) fun _ _ => ?_
  refine .request ?_ fun _ _ same => same
  simp [Request.Within, PriorityTree.Within, tree, Rule.AllWithin, Rule.Within, Rule.blank,
    Rule.fallback, everything]

end PriorityAgents.Patrol
