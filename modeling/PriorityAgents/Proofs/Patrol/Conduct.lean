import PriorityAgents.Proofs.Patrol.Seamanship
import PriorityAgents.Proofs.World.Regime

/-!
The conduct of ships at sea: what holds of every ship at every moment, whatever attacks a host
posts, however long it lets the ships sail and whichever of them it takes out of service.
-/

set_option autoImplicit false

namespace PriorityAgents.Patrol

variable {α : Type} {sails : Ship → Prop} {agent : AgentId} {role : Role ships}
  {hits : List Attack} {scanned : Option (Controller ships)} {state : Ship → Prop}

/-! ### Walks -/

private theorem Fares.unhurt {before : Controller ships → Prop} {order : Order α}
    {after : α → Controller ships → Prop} (fares : Fares sails role before order after)
    (untaken : attackOf role = none)
    (ready : ∀ deed, role = .deed deed → ∀ book controller, book.hits = hits →
      book.scanned = scanned → before controller → Ready book controller deed) :
    Plays sails agent
      (fun book controller => Rests sails hits scanned book controller.agent ∧ before controller)
      (repertoire.stage role order)
      (fun answer book controller =>
        Rests sails hits (scannedAfter role controller scanned) book controller.agent ∧
          after answer controller) := by
  have settled : ∀ attack, attackOf role = some attack → ∀ answer controller,
      after answer controller → controller.agent.lastAttacker = some attack.attacker :=
    fun attack taken => nomatch untaken.symm.trans taken
  intro past context id begun
  have staged := fares.stage ready settled past context id begun
  rw [untaken, Option.toList_none, List.append_nil] at staged
  exact staged

/-- A ship of a certain state between two pieces of its code. -/
def At (sails : Ship → Prop) (hits : List Attack) (state : Ship → Prop) (book : Logbook)
    (controller : Controller ships) : Prop :=
  (∃ scanned, Rests sails hits scanned book controller.agent) ∧ Informed hits state controller

/-- What holds of a walk if a deed is chosen, and if none is. -/
def Chooses (yes : Deed → Logbook → Controller ships → Prop)
    (no : Logbook → Controller ships → Prop) (chosen : Option Deed) (book : Logbook)
    (controller : Controller ships) : Prop :=
  match chosen with
  | some deed => yes deed book controller
  | none => no book controller

namespace Plays

variable {before yes no : Logbook → Controller ships → Prop}
  {after : Option Deed → Logbook → Controller ships → Prop} {depth index : Nat}

private theorem visited {isMatch : Bool} :
    Plays sails agent before (repertoire.actor.visited depth index isMatch) fun _ => before := by
  refine .carry fun context answer later journal given => ?_
  obtain ⟨⟨standing, middle⟩, _, _, asked, rest, _⟩ := Journaled.gives_bind.mp given
  cases (Journaled.gives_pure.mp asked).1
  obtain ⟨⟨_, reached⟩, _, _, noted, final, _⟩ := Journaled.gives_bind.mp rest
  obtain ⟨_, _, _, _, told, _⟩ := Journaled.gives_bind.mp noted
  cases (Journaled.gives_pure.mp told).1
  cases (Journaled.gives_pure.mp final).1
  exact fun _ kept => ⟨rfl, kept⟩

private theorem chosen {deed : Deed} {delay : Option Span}
    (steady : ∀ book controller scheduler, yes book controller →
      after (some deed) book { controller with scheduler }) :
    Plays sails agent yes (do
      repertoire.actor.armIf (Rule.armedDelay delay)
      Pure.pure (some deed)) after := by
  have armed : Plays sails agent yes (repertoire.actor.armIf (Rule.armedDelay delay))
      fun _ => after (some deed) := by
    cases Rule.armedDelay delay with
    | none => exact .pure fun book controller => steady book controller controller.scheduler
    | some span =>
        refine .carry fun context answer later journal given => ?_
        obtain ⟨_, _, _, rfl, _⟩ := Context.gives_schedule.mp (Context.gives_effect.mp given)
        exact fun book kept => ⟨rfl, steady book context.controller _ kept⟩
  exact armed.bind fun _ => .pure fun _ _ kept => kept

private theorem visit {precheck behaviour : Option Deed} {condition : Option Condition}
    {delay : Option Span} {whenTrue : List (Rule ships)}
    {ready : Logbook → Controller ships → Prop}
    (prepared : Plays sails agent before (repertoire.actor.prepare precheck) fun _ => ready)
    (asked : Plays sails agent ready (repertoire.actor.matched condition)
      fun holds book controller =>
        (holds = true → yes book controller) ∧ (holds = false → no book controller))
    (taken : Plays sails agent yes
      (match behaviour with
        | some deed => do
            repertoire.actor.armIf (Rule.armedDelay delay)
            Pure.pure (some deed)
        | none => repertoire.actor.walkFrom (depth + 1) 0 whenTrue) after)
    (passed : ∀ book controller, no book controller → after none book controller) :
    Plays sails agent before (repertoire.actor.visit depth index
      ⟨precheck, condition, none, behaviour, delay, whenTrue, []⟩) after := by
  unfold Walker.visit
  refine prepared.bind fun _ => asked.bind fun holds => visited.bind fun _ => ?_
  cases holds with
  | false =>
      rw [if_neg Bool.false_ne_true, Walker.walkFrom]
      exact .pure fun book controller kept => passed book controller (kept.2 rfl)
  | true =>
      rw [if_pos rfl]
      have ready : Plays sails agent (fun book controller =>
          (true = true → yes book controller) ∧ (true = false → no book controller))
          (repertoire.actor.prepare none) fun _ => yes := .pure fun _ _ kept => kept.1 rfl
      refine ready.bind fun _ => ?_
      cases behaviour with
      | none => exact taken
      | some deed => exact taken

private theorem walkFrom {rule : Rule ships} {rules : List (Rule ships)}
    (first : Plays sails agent before (repertoire.actor.visit depth index rule)
      (Chooses (fun deed => after (some deed)) no))
    (rest : Plays sails agent no (repertoire.actor.walkFrom depth (index + 1) rules) after) :
    Plays sails agent before (repertoire.actor.walkFrom depth index (rule :: rules)) after := by
  unfold Walker.walkFrom
  refine first.bind fun chosen => ?_
  cases chosen with
  | none => exact rest
  | some deed => exact .pure fun _ _ kept => kept

end Plays

private theorem Fares.asking {question : Condition} {before : Controller ships → Prop}
    {after : Bool → Controller ships → Prop}
    (fares : Fares sails (.question question) before question.meaning after) :
    Plays sails agent
      (fun book controller => Rests sails hits scanned book controller.agent ∧ before controller)
      (repertoire.actor.matched (some question)) (fun answer book controller =>
        Rests sails hits scanned book controller.agent ∧ after answer controller) :=
  fares.unhurt rfl nofun

private theorem Fares.question {question : Condition} {after : Bool → Controller ships → Prop}
    (fares : Fares sails (.question question) (Informed hits state) question.meaning after) :
    Plays sails agent (At sails hits state) (repertoire.actor.matched (some question))
      fun answer book controller =>
        (∃ scanned, Rests sails hits scanned book controller.agent) ∧ after answer controller := by
  rintro past context id ⟨⟨scanned, rests⟩, informed⟩
  refine (fares.asking past context id ⟨rests, informed⟩).imp (fun _ _ seen => seen) ?_
  exact fun _ _ kept => ⟨kept.1, ⟨scanned, kept.2.1⟩, kept.2.2⟩

def Chosen (sails : Ship → Prop) (hits : List Attack) (deed : Deed) (book : Logbook)
    (controller : Controller ships) : Prop :=
  At sails hits AnyState book controller ∧ Ready book controller deed

private theorem At.retimed {book : Logbook} {controller : Controller ships}
    (rests : At sails hits state book controller) (scheduler : Scheduler) :
    At sails hits state book { controller with scheduler } :=
  ⟨rests.1, rests.2.of_same rfl rfl rfl rests.2.state⟩

private theorem Chosen.retimed {deed : Deed} {book : Logbook} {controller : Controller ships}
    (chosen : Chosen sails hits deed book controller) (scheduler : Scheduler) :
    Chosen sails hits deed book { controller with scheduler } :=
  ⟨chosen.1.retimed scheduler, by cases deed <;> exact chosen.2⟩

private theorem Plays.leaf {question : Condition} {deed : Deed} {delay : Option Span}
    {depth index : Nat} {precheck : Option Deed}
    {before ready no : Logbook → Controller ships → Prop}
    (prepared : Plays sails agent before (repertoire.actor.prepare precheck) fun _ => ready)
    (asked : Plays sails agent ready (repertoire.actor.matched (some question))
      fun holds book controller => (holds = true → Chosen sails hits deed book controller) ∧
        (holds = false → no book controller)) :
    Plays sails agent before (repertoire.actor.visit depth index
      ⟨precheck, some question, none, some deed, delay, [], []⟩) (Chooses (Chosen sails hits) no) :=
  .visit prepared asked (.chosen fun _ _ scheduler ready => ready.retimed scheduler)
    fun _ _ passed => passed

private theorem unprepared {before : Logbook → Controller ships → Prop} :
    Plays sails agent before (repertoire.actor.prepare none) fun _ => before :=
  .pure fun _ _ kept => kept

private theorem flees (delay : Option Span) (index : Nat) :
    Plays sails agent (At sails hits (1 ≤ ·.hull)) (repertoire.actor.visit 0 index
      { Rule.blank with
        condition := some Condition.isCrippled
        behaviour := some Deed.flee
        reconsiderAfter := delay }) (Chooses (Chosen sails hits) (At sails hits AnyState)) := by
  refine .leaf unprepared (isCrippled_fares.question.strengthen ?_)
  intro crippled book controller kept
  have rests : At sails hits AnyState book controller := ⟨kept.1, kept.2.imp fun _ _ => trivial⟩
  exact ⟨fun holds => ⟨rests, kept.2.state.1, kept.2.state.2 holds⟩, fun _ => rests⟩

private theorem engages (delay : Option Span) (index : Nat) :
    Plays sails agent (At sails hits AnyState) (repertoire.actor.visit 0 index
      { Rule.blank with
        condition := some Condition.isUnderAttack
        behaviour := some Deed.engage
        reconsiderAfter := delay }) (Chooses (Chosen sails hits) (At sails hits AnyState)) := by
  refine .leaf unprepared (isUnderAttack_fares.question.strengthen ?_)
  rintro attacked book controller ⟨⟨scanned, rests⟩, informed, known⟩
  refine ⟨fun holds => ⟨⟨⟨scanned, rests⟩, informed⟩, ?_⟩, fun _ => ⟨⟨scanned, rests⟩, informed⟩⟩
  obtain ⟨attack, member, found⟩ := known holds
  exact ⟨attack, rests.hits ▸ member, found⟩

/-- A ship that has just looked for stations. -/
private def Looked (sails : Ship → Prop) (hits : List Attack) (book : Logbook)
    (controller : Controller ships) : Prop :=
  ∃ (scanned : Controller ships) (stations : List Station),
    Rests sails hits (some scanned) book controller.agent ∧ Informed hits AnyState controller ∧
      scanned.mind.parameters.get? stationsKey stationsShape = some stations ∧
      controller.mind.parameters.get? stationsKey stationsShape = some stations

private theorem scans : Plays sails agent (At sails hits AnyState)
    (repertoire.actor.prepare (some Deed.scanStations)) fun _ => Looked sails hits := by
  rintro past context id ⟨⟨scanned, rests⟩, informed⟩
  have ready : ∀ deed, (.deed .scanStations : Role ships) = .deed deed → ∀ book controller,
      book.hits = hits → book.scanned = scanned → Informed hits AnyState controller →
        Ready book controller deed := by
    rintro _ ⟨rfl⟩ _ _ _ _ _
    exact trivial
  refine (scanStations_fares.unhurt rfl ready past context id ⟨rests, informed⟩).imp
    (fun _ _ seen => seen) ?_
  rintro _ ⟨_, reached⟩ ⟨same, kept, known, stations, listed⟩
  exact ⟨same, reached.controller, stations, kept, known, listed, listed⟩

private theorem docks (delay : Option Span) (index : Nat) :
    Plays sails agent (At sails hits AnyState) (repertoire.actor.visit 1 index
      { Rule.blank with
        precheck := some Deed.scanStations
        condition := some Condition.findsOpenStation
        behaviour := some Deed.dock
        reconsiderAfter := delay }) (Chooses (Chosen sails hits) (At sails hits AnyState)) := by
  refine .leaf scans ?_
  rintro past context id ⟨scanned, stations, rests, informed, seen, listed⟩
  refine (findsOpenStation_fares.asking past context id ⟨rests, informed, listed⟩).imp
    (fun _ _ seen => seen) ?_
  rintro _ ⟨found, reached⟩ ⟨same, kept, known, selected⟩
  refine ⟨same, fun holds => ⟨⟨⟨_, kept⟩, known⟩, ?_⟩, fun _ => ⟨⟨_, kept⟩, known⟩⟩
  obtain ⟨station, chosen, first⟩ := selected holds
  exact ⟨station, scanned, stations, chosen, List.find?_some first, kept.scanned, seen, first⟩

private theorem refuels (inner : Option Span) (index : Nat) :
    Plays sails agent (At sails hits AnyState) (repertoire.actor.visit 0 index
      { Rule.blank with
        condition := some Condition.isLowOnFuel
        whenTrue :=
          [{ Rule.blank with
              precheck := some Deed.scanStations
              condition := some Condition.findsOpenStation
              behaviour := some Deed.dock
              reconsiderAfter := inner }] })
      (Chooses (Chosen sails hits) (At sails hits AnyState)) := by
  have asked : Plays sails agent (At sails hits AnyState)
      (repertoire.actor.matched (some Condition.isLowOnFuel)) fun holds book controller =>
        (holds = true → At sails hits AnyState book controller) ∧
          (holds = false → At sails hits AnyState book controller) :=
    isLowOnFuel_fares.question.strengthen fun _ _ _ kept => ⟨fun _ => kept, fun _ => kept⟩
  have ended : Plays sails agent (At sails hits AnyState) (repertoire.actor.walkFrom 1 1 [])
      (Chooses (Chosen sails hits) (At sails hits AnyState)) := by
    rw [Walker.walkFrom]
    exact .pure fun _ _ kept => kept
  exact .visit unprepared asked (.walkFrom (docks inner 0) ended) fun _ _ passed => passed

private theorem patrols (delay : Option Span) (index : Nat) :
    Plays sails agent (At sails hits AnyState) (repertoire.actor.visit 0 index
      { Rule.fallback Deed.patrol with reconsiderAfter := delay })
      (Chooses (Chosen sails hits) fun _ _ => False) := by
  have sure : Plays sails agent (At sails hits AnyState) (repertoire.actor.matched none)
      fun holds book controller => (holds = true → Chosen sails hits .patrol book controller) ∧
        (holds = false → False) :=
    .pure fun _ _ kept => ⟨fun _ => ⟨kept, trivial⟩, nofun⟩
  exact .visit unprepared sure (.chosen fun _ _ scheduler chosen => chosen.retimed scheduler)
    fun _ _ passed => passed

/-- Every walk of a ship comes to a deed, and the ship has what the deed needs. -/
theorem walk_plays : Plays sails agent (At sails hits (1 ≤ ·.hull))
    (repertoire.actor.walk tree.rules) (Chooses (Chosen sails hits) fun _ _ => False) := by
  have ended : Plays sails agent (fun _ _ => False) (repertoire.actor.walkFrom 0 4 [])
      (Chooses (Chosen sails hits) fun _ _ => False) := by
    rw [Walker.walkFrom]
    exact .pure fun _ _ kept => kept
  exact .walkFrom (flees _ 0) (.walkFrom (engages _ 1) (.walkFrom (refuels _ 2)
    (.walkFrom (patrols _ 3) ended)))

/-! ### Turns -/

private theorem Ready.of_same {book other : Logbook} {controller : Controller ships} {deed : Deed}
    (ready : Ready book controller deed) (hits : other.hits = book.hits)
    (scanned : other.scanned = book.scanned) : Ready other controller deed := by
  cases deed with
  | flee => exact ready
  | engage =>
      obtain ⟨attack, member, found⟩ := ready
      exact ⟨attack, hits ▸ member, found⟩
  | dock =>
      obtain ⟨station, seen, stations, chosen, isOpen, last, rest⟩ := ready
      exact ⟨station, seen, stations, chosen, isOpen, scanned.trans last, rest⟩
  | scanStations | patrol => trivial

private theorem meaning_fares {book : Logbook} (deed : Deed) : Fares sails (.deed deed)
    (fun controller => Informed hits AnyState controller ∧ Ready book controller deed)
    deed.meaning fun _ => Informed hits AnyState := by
  cases deed with
  | flee => exact flee_fares.weaken fun _ known => known.1.of_same rfl rfl rfl known.2
  | engage => exact engage_fares.weaken fun _ known => known.1
  | scanStations =>
      exact (scanStations_fares.imp fun _ _ kept => kept.1).weaken fun _ known => known.1
  | dock => exact dock_fares.weaken fun _ known => known.1
  | patrol => exact patrol_fares.weaken fun _ known => known.1

private theorem deed_plays (deed : Deed) : Plays sails agent (Chosen sails hits deed)
    (repertoire.actor.perform deed) fun _ => At sails hits AnyState := by
  rintro past context id ⟨⟨⟨scanned, rests⟩, informed⟩, ready⟩
  let book : Logbook := ⟨hits, scanned, none⟩
  have prepared : Ready book context.controller deed :=
    ready.of_same rests.hits.symm rests.scanned.symm
  have known : ∀ other, (.deed deed : Role ships) = .deed other → ∀ found controller,
      found.hits = hits → found.scanned = scanned →
        Informed hits AnyState controller ∧ Ready book controller deed →
          Ready found controller other := by
    rintro _ ⟨rfl⟩ found controller sameHits sameScan begun
    exact begun.2.of_same sameHits sameScan
  refine ((meaning_fares deed).unhurt rfl known past context id
    ⟨rests, informed, prepared⟩).imp (fun _ _ seen => seen) ?_
  exact fun _ _ kept => ⟨kept.1, ⟨_, kept.2.1⟩, kept.2.2⟩

private theorem choice_plays : Plays sails agent (At sails hits (1 ≤ ·.hull))
    (repertoire.stagedChoice tree.rules) fun _ => At sails hits AnyState := by
  have told (severity : Severity) (message : String)
      {before : Logbook → Controller ships → Prop} :
      Plays sails agent before (Staged.carry (Context.tell severity message)) fun _ => before := by
    refine .carry fun context answer later journal given book kept => ?_
    rw [Context.eq_of_tell given]
    exact ⟨rfl, kept⟩
  refine walk_plays.bind fun chosen => ?_
  cases chosen with
  | none => exact fun _ _ _ impossible => absurd impossible id
  | some deed =>
      exact (told _ _).bind fun _ => (deed_plays deed).bind fun _ => .pure fun _ _ kept => kept

private theorem setOut_plays : Plays sails agent (At sails hits state) (Staged.mark .setOut)
    fun _ => At sails hits state := by
  refine .mark (fun _ => rfl) (fun book context begun => ?_) fun book context begun => ?_
  · obtain ⟨⟨scanned, rests⟩, _⟩ := begun
    exact .setOut rests.range rests.knows
  · obtain ⟨⟨scanned, rests⟩, informed⟩ := begun
    exact ⟨⟨none, rests.hits, rfl, fun trim => (rests.range trim).since rfl rfl, rests.knows⟩,
      informed⟩

private theorem onTimer_plays (fired : TimerHandle) : Plays sails agent (At sails hits AnyState)
    (repertoire.stagedOnTimer fired) fun _ => At sails hits AnyState := by
  intro past context id begun
  have detached := begun.retimed .idle
  unfold Repertoire.stagedOnTimer
  split
  · split
    · rename_i present
      have afloat : 1 ≤ context.controller.agent.hull := by
        have above : 0 < context.controller.agent.hull := of_decide_eq_true present
        rw [UInt32.lt_iff_toNat_lt] at above
        exact UInt32.le_iff_toNat_le.mpr above
      have walking : At sails hits (1 ≤ ·.hull) (logbook agent past) context.detached.controller :=
        ⟨detached.1, detached.2.of_same rfl rfl rfl afloat⟩
      have tree : context.detached.controller.tree = Patrol.tree := detached.2.tree
      unfold Repertoire.stagedReconsider
      rw [tree]
      exact (setOut_plays.bind fun _ => choice_plays) past context.detached id walking
    · exact .pure ⟨id, detached⟩
  · rename_i stale
    have carried : Plays sails agent
        (fun book controller => At sails hits AnyState book controller ∧
          controller.pending ≠ some fired)
        (Staged.carry fun context => context.onTimer repertoire fired)
        fun _ => At sails hits AnyState := by
      refine .carry fun context outcome later journal given book begun => ?_
      obtain ⟨_, rfl⟩ := Context.stale_of_onTimer begun.2 given
      exact ⟨rfl, begun.1⟩
    exact carried past context id ⟨begun, stale⟩

private theorem response_plays {name : EventName} {handler : Handler ships} (attack : Attack)
    (known : takesHit handler = decide (name = shipBeingAttacked)) :
    Plays sails agent (At sails hits AnyState)
      (repertoire.stage (.response name handler attack) (repertoire.handle handler attack))
      fun _ => At sails (hits ++ (attackOf (.response name handler attack)).toList) AnyState := by
  have answers : attackOf (.response name handler attack) =
      if takesHit handler then some attack else none := by
    simp only [known, attackOf, decide_eq_true_eq]
  rintro past context id ⟨⟨scanned, rests⟩, informed⟩
  have fares : Fares sails (.response name handler attack) (Informed hits AnyState)
      (repertoire.handle handler attack) _ := handle_fares handler answers
  refine (fares.stage nofun (fun taken same _ _ kept => kept.state taken same) past context id
    ⟨rests, informed⟩).imp (fun _ _ seen => seen) ?_
  exact fun _ _ kept => ⟨kept.1, ⟨_, kept.2.1⟩, kept.2.2.imp fun _ _ => trivial⟩

private theorem handleEvent_plays (name : EventName) (attack : Attack) :
    Plays sails agent (At sails hits AnyState) (repertoire.stagedHandleEvent name attack)
    fun _ book controller => ∃ later, At sails later AnyState book controller := by
  intro past context id begun
  unfold Repertoire.stagedHandleEvent
  cases bound : context.controller.surface.handler? name with
  | none => exact .pure ⟨id, hits, begun⟩
  | some handler =>
      have answered := response_plays attack (begun.2.alert name handler bound) past context id
        begun
      exact answered.bind fun _ _ kept => .pure ⟨kept.1, _, kept.2⟩

private theorem setup_plays : Plays sails agent
    (fun book controller => Rests sails [] none book controller.agent ∧ Fresh controller)
    (repertoire.stage .call start) fun _ => At sails [] AnyState := by
  have fares : Fares sails .call Fresh start fun _ => Informed [] AnyState := start_fares
  refine Plays.strengthen (fares.unhurt rfl nofun) fun _ _ _ kept => ⟨⟨_, kept.1⟩, kept.2⟩

/-! ### Ships at sea -/

/-- What a host does that puts some ships to sea, with the rules of ships, and then only posts
events, lets time pass and takes ships out of service. -/
def sailing (sails : Ship → Prop) : Etiquette ships where
  spawns ship setup := sails ship ∧ setup = start
  calls _ _ _ := False
  posts _ _ _ := True
  destroys _ := True

def seafaring : Etiquette ships := sailing fun ship => ∃ callsign, ship = .fresh callsign

/-- Every scene of a ship is in order, and so is the ship between its turns. -/
def seamanship (sails : Ship → Prop) : Regime ships (Scene ships) where
  agent? := Scene.agent?
  good past scene := ∀ agent, scene.agent? = some agent → Fit sails (logbook agent past) scene
  invariant past agent controller :=
    controller.id = agent ∧ ∃ hits, At sails hits AnyState (logbook agent past) controller

private theorem turn_of_plays {before : Logbook → Controller ships → Prop} {staged : Staged ships α}
    {past : List (Scene ships)} {context : Context ships}
    (plays : Plays sails agent before staged fun _ book controller =>
      ∃ later, At sails later AnyState book controller)
    (id : context.controller.id = agent) (begun : before (logbook agent past) context.controller) :
    (seamanship sails).Turn past agent (staged context) :=
  plays past context id begun

private theorem rests_of_launched {ship : Ship} (launched : sails ship) :
    Rests sails [] none .blank ship where
  hits := rfl
  scanned := rfl
  range := fun trim =>
    { hull := (trim ship launched).1
      fuel := (trim ship launched).2
      mended := fun _ _ last => nomatch last
      refuelled := fun _ _ last => nomatch last }
  knows := .of_launched launched

private theorem upholds_seamanship :
    repertoire.stager.Upholds (sailing sails) (seamanship sails) 0 where
  impersonal _ := rfl
  entered past entry := by
    intro agent about
    cases about
  aside := by
    rintro past more agent controller ⟨id, hits, rests⟩ others
    refine ⟨id, hits, ?_⟩
    rw [logbook_of_others others]
    exact rests
  spawn := by
    rintro past agent _ _ name seed delay timers ⟨launched, rfl⟩ _ unseen
    refine turn_of_plays (setup_plays.strengthen fun _ _ _ kept => ⟨[], kept⟩) rfl ?_
    rw [logbook_of_unseen unseen]
    exact ⟨rests_of_launched launched, rfl, rfl⟩
  call := fun allowed => absurd allowed id
  event := by
    rintro past agent context name attack _ ⟨id, hits, rests⟩
    exact turn_of_plays (handleEvent_plays name attack) id rests
  timer := by
    rintro past agent context fired ⟨id, hits, rests⟩
    exact turn_of_plays ((onTimer_plays fired).strengthen fun _ _ _ kept => ⟨hits, kept⟩) id rests
  farewell := by
    rintro past agent context attack _ ⟨id, hits, rests⟩
    exact turn_of_plays (handleEvent_plays .entityDestroyed attack) id rests
  teardown := by
    intro past agent context _ _
    refine ⟨.of_all fun scene member _ => ?_, fun _ _ => trivial⟩
    obtain ⟨entry, _, rfl⟩ := List.mem_map.mp member
    exact ⟨nofun, nofun⟩

/-! ### At every moment -/

section

variable {config : Config} {reconsiderNow : Option Span} {world : World ships}
  {calls : List (Call ships)}

/-- Ships put to sea by a host that keeps to it are in order from scene to scene, however long the
voyage and wherever it is abandoned, and they are at rest at its end. -/
theorem seaworthy (created : World.create config reconsiderNow = .ok world)
    (allowed : ∀ call ∈ calls, (sailing sails).Admits call) :
    (world.playBy repertoire.stager calls).Continues (seamanship sails).good
      (fun history later => later.Heeds (sailing sails) (seamanship sails) 0 history) [] :=
  (World.Heeds.create created (sailing sails) (seamanship sails)).play upholds_seamanship allowed

private theorem fit_of_split (created : World.create config reconsiderNow = .ok world)
    (allowed : ∀ call ∈ calls, (sailing sails).Admits call) {before after : List (Scene ships)}
    {scene : Scene ships} (agent : AgentId) (about : scene.agent? = some agent)
    (split : (world.playBy repertoire.stager calls).journal = before ++ scene :: after) :
    Fit sails (logbook agent before) scene :=
  (seaworthy created allowed).entries before scene after split agent about

private theorem rests_of_outcome (created : World.create config reconsiderNow = .ok world)
    (allowed : ∀ call ∈ calls, (sailing sails).Admits call) {later : World ships} {agent : AgentId}
    {controller : Controller ships} (reached : (world.play repertoire calls).outcome = .ok later)
    (found : later.controller? agent = some controller) :
    ∃ hits scanned, Rests sails hits scanned
      (logbook agent (world.playBy repertoire.stager calls).journal) controller.agent := by
  rw [← repertoire.stager_follows.play world calls] at reached
  obtain ⟨hits, ⟨scanned, rests⟩, _⟩ :=
    (((seaworthy created allowed).answer later reached).roster.slots agent controller found).2
  exact ⟨hits, scanned, rests⟩

/-- The hull and the tank of a ship are in range at every moment of every voyage on which the host
only posts events, lets time pass and destroys ships, and no sum in the rules is out of range. A
hull is mended in flights only, and only while it is crippled and there, and a tank is filled at
docks only. The scenes are those of the play itself: what else is on stage has no part in it. -/
theorem in_range_of_play (created : World.create config reconsiderNow = .ok world)
    (allowed : ∀ call ∈ calls, seafaring.Admits call) :
    let staged := world.playBy repertoire.stager calls
    staged.reading Scene.entry? = world.play repertoire calls ∧
      (∀ before scene after, staged.journal = before ++ scene :: after →
        (∀ context, scene.context? = some context →
          InRange (logbook context.controller.id before) context.controller.agent) ∧
        ∀ role context fault, scene = .asked role context (.fail fault) →
          ¬IsArithmetic fault) ∧
      ∀ later, (world.play repertoire calls).outcome = .ok later →
        ∀ agent controller, later.controller? agent = some controller →
          InRange (logbook agent staged.journal) controller.agent := by
  intro staged
  have trim : Trim fun ship => ∃ callsign, ship = .fresh callsign := by
    rintro _ ⟨callsign, rfl⟩
    exact ⟨UInt32.le_refl 100, UInt32.le_refl 100⟩
  refine ⟨repertoire.stager_follows.play world calls, fun before scene after split => ⟨?_, ?_⟩, ?_⟩
  · intro context shown
    have about : scene.agent? = some context.controller.id := congrArg (Option.map _) shown
    exact (fit_of_split created allowed _ about split).range trim context shown
  · rintro role context fault rfl
    exact (fit_of_split created allowed _ rfl split).sound role context fault rfl
  · intro later reached agent controller found
    obtain ⟨_, _, rests⟩ := rests_of_outcome created allowed reached found
    exact rests.range trim

/-- A ship is struck once, and flees. -/
theorem in_range_of_play_ambush :
    let ada : AgentId := ⟨0, by decide⟩
    let calls : List (Call ships) :=
      [.spawn (.fresh "Ada") "patrol" start, .runTicks 2,
        .post ada shipBeingAttacked ⟨"Krait", 70⟩, .runTicks 4]
    ∃ world later controller, World.create .standard none = .ok world ∧
      (world.play repertoire calls).outcome = .ok later ∧
      later.controller? ada = some controller ∧ controller.agent.hull = 45 ∧
      InRange (logbook ada (world.playBy repertoire.stager calls).journal) controller.agent ∧
      ∀ before context request after,
        (world.playBy repertoire.stager calls).journal =
          before ++ .asked (.deed .flee) context request :: after →
        InRange (logbook context.controller.id before) context.controller.agent := by
  intro ada calls
  obtain ⟨world, created, rest⟩ : ∃ world, World.create .standard none = .ok world ∧
      ((world.play repertoire calls).outcome.toOption.any fun later =>
        (later.controller? ada).any fun controller =>
          decide (controller.agent.hull = 45)) = true :=
    exists_ok (by decide +kernel)
  obtain ⟨later, played, rest⟩ := exists_ok rest
  obtain ⟨controller, found, mended⟩ := (Option.any_eq_true _ _).mp rest
  have allowed : ∀ call ∈ calls, seafaring.Admits call := by
    simp only [calls, List.forall_mem_cons]
    exact ⟨⟨⟨"Ada", rfl⟩, rfl⟩, trivial, trivial, trivial, List.forall_mem_nil _⟩
  obtain ⟨_, scenes, final⟩ := in_range_of_play created allowed
  exact ⟨world, later, controller, created, played, found, of_decide_eq_true mended,
    final later played ada controller found,
    fun before context request after split => (scenes before _ after split).1 context rfl⟩

def begins (deed : Deed) : Scene ships → Bool
  | .began (.deed other) _ => deed = other
  | _ => false

private theorem split_of_begins {deed : Deed} {scenes : List (Scene ships)}
    (seen : scenes.any (begins deed) = true) :
    ∃ before context after, scenes = before ++ .began (.deed deed) context :: after := by
  obtain ⟨scene, member, begun⟩ := List.any_eq_true.mp seen
  obtain ⟨before, after, split⟩ := List.append_of_mem member
  unfold begins at begun
  split at begun
  · obtain rfl := of_decide_eq_true begun
    exact ⟨before, _, after, split⟩
  · exact absurd begun Bool.false_ne_true

/-- Whatever ships are put to sea: whenever a ship docks it has selected a station, the first open
one of the scan that it has made in the same walk, and it ends up docked there with a full tank;
whenever it engages it knows the name of an attacker that has hit it before; and from its first hit
on it remembers at every moment who has hit it last. -/
theorem well_informed_of_play (created : World.create config reconsiderNow = .ok world)
    (allowed : ∀ call ∈ calls, (sailing sails).Admits call) :
    let staged := world.playBy repertoire.stager calls
    staged.reading Scene.entry? = world.play repertoire calls ∧
      (∀ before scene after, staged.journal = before ++ scene :: after →
        (∀ context, scene = .began (.deed .dock) context →
          ∃ (station : Station) (scanned : Controller ships) (stations : List Station),
            context.controller.mind.parameters.get? Parameters.selectedKey stationShape =
              some station ∧
            station.isOpen = true ∧
            (logbook context.controller.id before).scanned = some scanned ∧
            scanned.mind.parameters.get? stationsKey stationsShape = some stations ∧
            stations.find? Station.isOpen = some station ∧ DocksAt context station) ∧
        (∀ context, scene = .began (.deed .engage) context →
          ∃ attack ∈ (logbook context.controller.id before).hits,
            context.controller.mind.parameters.get? attackerKey nameShape =
              some attack.attacker) ∧
        ∀ agent, scene.agent? = some agent → Knows sails (logbook agent before) scene) ∧
      ∀ later, (world.play repertoire calls).outcome = .ok later →
        ∀ agent controller, later.controller? agent = some controller →
          (logbook agent staged.journal).Names sails controller.agent.lastAttacker := by
  intro staged
  refine ⟨repertoire.stager_follows.play world calls,
    fun before scene after split => ⟨?_, ?_, ?_⟩, ?_⟩
  · rintro context rfl
    have fit := fit_of_split created allowed _ rfl split
    obtain ⟨station, scanned, stations, chosen, isOpen, last, listed, first⟩ :=
      fit.ready .dock context rfl
    exact ⟨station, scanned, stations, chosen, isOpen, last, listed, first,
      fit.docks context station rfl chosen⟩
  · rintro context rfl
    exact (fit_of_split created allowed _ rfl split).ready .engage context rfl
  · exact fun agent about => (fit_of_split created allowed agent about split).knows
  · intro later reached agent controller found
    obtain ⟨_, _, rests⟩ := rests_of_outcome created allowed reached found
    exact rests.knows

/-- A ship with more hull than ships are built with, and with an old enemy, is struck and fights,
and later on it runs out of fuel and docks. -/
theorem well_informed_of_play_refuelled :
    let ada : AgentId := ⟨0, by decide⟩
    let veteran : Ship := { Ship.fresh "Ada" with hull := 140, lastAttacker := some "Mamba" }
    let config : Config := { Config.standard with tickMillis := 3000 }
    let calls : List (Call ships) :=
      [.spawn veteran "patrol" start, .runTicks 2,
        .post ada shipBeingAttacked ⟨"Krait", 20⟩, .runTicks 16]
    (∀ call ∈ calls, (sailing (· = veteran)).Admits call) ∧
    ∃ world later controller, World.create config none = .ok world ∧
      (world.play repertoire calls).outcome = .ok later ∧
      later.controller? ada = some controller ∧
      (logbook ada (world.playBy repertoire.stager calls).journal).attacker = some "Krait" ∧
      controller.agent.lastAttacker = some "Krait" ∧
      (∃ before context after station,
        (world.playBy repertoire.stager calls).journal =
          before ++ .began (.deed .dock) context :: after ∧
        context.controller.mind.parameters.get? Parameters.selectedKey stationShape =
          some station ∧ DocksAt context station) ∧
      ∃ before context after, ∃ attack ∈ (logbook context.controller.id before).hits,
        (world.playBy repertoire.stager calls).journal =
          before ++ .began (.deed .engage) context :: after ∧
        context.controller.mind.parameters.get? attackerKey nameShape =
          some attack.attacker := by
  intro ada veteran config calls
  obtain ⟨world, created, rest⟩ : ∃ world, World.create config none = .ok world ∧
      ((world.play repertoire calls).outcome.toOption.any fun later =>
        (later.controller? ada).any fun _ =>
          decide ((logbook ada (world.playBy repertoire.stager calls).journal).attacker =
              some "Krait" ∧
            (world.playBy repertoire.stager calls).journal.any (begins .dock) = true ∧
            (world.playBy repertoire.stager calls).journal.any (begins .engage) = true)) = true :=
    exists_ok (by decide +kernel)
  obtain ⟨later, played, rest⟩ := exists_ok rest
  obtain ⟨controller, found, facts⟩ := (Option.any_eq_true _ _).mp rest
  obtain ⟨struck, docked, engaged⟩ := of_decide_eq_true facts
  have allowed : ∀ call ∈ calls, (sailing (· = veteran)).Admits call := by
    simp only [calls, List.forall_mem_cons]
    exact ⟨⟨rfl, rfl⟩, trivial, trivial, trivial, List.forall_mem_nil _⟩
  obtain ⟨_, scenes, final⟩ := well_informed_of_play created allowed
  refine ⟨allowed, world, later, controller, created, played, found, struck,
    (final later played ada controller found).eq_attacker struck, ?_, ?_⟩
  · obtain ⟨before, context, after, split⟩ := split_of_begins docked
    obtain ⟨station, _, _, chosen, _, _, _, _, docks⟩ := (scenes before _ after split).1 context rfl
    exact ⟨before, context, after, station, split, chosen, docks⟩
  · obtain ⟨before, context, after, split⟩ := split_of_begins engaged
    obtain ⟨attack, hit, known⟩ := (scenes before _ after split).2.1 context rfl
    exact ⟨before, context, after, attack, hit, split, known⟩

end

end PriorityAgents.Patrol
