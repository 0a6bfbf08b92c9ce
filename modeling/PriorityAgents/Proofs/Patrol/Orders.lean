import PriorityAgents.Proofs.Controller.Contract
import PriorityAgents.Proofs.Patrol.Logbook

/-!
Orders on stage: what a ship's code does to the ship and to its logbook, line by line.

Contracts tell what a program leaves behind. Here every moment in between counts as well: whatever
the code asks for, the ship is in range, and no request but the keeping of a mind does anything to
it. So only these need a reason of their own.
-/

set_option autoImplicit false

namespace PriorityAgents.Patrol

variable {α β : Type} {sails : Ship → Prop} {agent : AgentId} {role : Role ships}
  {hits : List Attack} {scanned : Option (Controller ships)}

def OnStage (sails : Ship → Prop) (agent : AgentId) (past : List (Scene ships))
    (scene : Scene ships) : Prop :=
  (∀ other, scene.agent? = some other → other = agent) ∧
    ∀ other, scene.agent? = some other → Fit sails (logbook other past) scene

/-- Whenever a piece of code is put on stage with one thing true of the logbook and the controller,
every scene is in order and another thing is true of them and of its answer at the end. -/
def Plays (sails : Ship → Prop) (agent : AgentId)
    (before : Logbook → Controller ships → Prop) (staged : Staged ships α)
    (after : α → Logbook → Controller ships → Prop) : Prop :=
  ∀ past context, context.controller.id = agent →
    before (logbook agent past) context.controller →
      (staged context).Continues (OnStage sails agent) (fun history reached =>
        reached.2.controller.id = agent ∧
          after reached.1 (logbook agent history) reached.2.controller) past

namespace Plays

variable {before other : Logbook → Controller ships → Prop}
  {after : α → Logbook → Controller ships → Prop}

theorem pure {answer : α} (holds : ∀ book controller, before book controller →
    after answer book controller) : Plays sails agent before (Pure.pure answer) after :=
  fun _ _ id begun => .pure ⟨id, holds _ _ begun⟩

theorem bind {middle : β → Logbook → Controller ships → Prop} {first : Staged ships β}
    {next : β → Staged ships α} (early : Plays sails agent before first middle)
    (late : ∀ answer, Plays sails agent (middle answer) (next answer) after) :
    Plays sails agent before (first >>= next) after :=
  fun past context id begun => (early past context id begun).bind
    fun history reached kept => late reached.1 history reached.2 kept.1 kept.2

theorem weaken {staged : Staged ships α} (plays : Plays sails agent other staged after)
    (known : ∀ book controller, before book controller → other book controller) :
    Plays sails agent before staged after :=
  fun past context id begun => plays past context id (known _ _ begun)

theorem strengthen {staged : Staged ships α} {further : α → Logbook → Controller ships → Prop}
    (plays : Plays sails agent before staged after)
    (known : ∀ answer book controller, after answer book controller →
      further answer book controller) :
    Plays sails agent before staged further :=
  fun past context id begun => (plays past context id begun).imp (fun _ _ seen => seen)
    fun _ _ kept => ⟨kept.1, known _ _ _ kept.2⟩

theorem carry {step : Context ships → Logged (α × Context ships)}
    (holds : ∀ context answer later journal, (step context).Gives (answer, later) journal →
      ∀ book, before book context.controller →
        later.controller.id = context.controller.id ∧ after answer book later.controller) :
    Plays sails agent before (Staged.carry step) after := by
  intro past context id begun
  refine ⟨.of_all fun scene member _ => ?_, fun reached same => ?_⟩
  · obtain ⟨entry, _, rfl⟩ := List.mem_map.mp member
    exact ⟨nofun, nofun⟩
  · have ran := holds context reached.1 reached.2 _ (Journaled.gives_of_outcome same) _ begun
    refine ⟨ran.1.trans id, ?_⟩
    change after _ (logbook agent (past ++ (step context).journal.map .entered)) _
    rw [logbook_entered]
    exact ran.2

theorem mark {scene : Context ships → Scene ships}
    {after : Unit → Logbook → Controller ships → Prop}
    (own : ∀ context, (scene context).context? = some context)
    (fits : ∀ book context, before book context.controller → Fit sails book (scene context))
    (noted : ∀ book context, before book context.controller →
      after () (book.note (scene context)) context.controller) :
    Plays sails agent before (Staged.mark scene) after := by
  intro past context id begun
  have about : (scene context).agent? = some agent := by
    rw [Scene.agent?, own, Option.map_some, id]
  refine ⟨.singleton ⟨fun other same => ?_, fun other same => ?_⟩, fun reached same => ?_⟩
  · exact Option.some.inj (same.symm.trans about)
  · cases about.symm.trans same
    exact fits _ context begun
  · cases same
    refine ⟨id, ?_⟩
    change after () (logbook agent (past ++ [scene context])) context.controller
    rw [logbook_note about]
    exact noted _ context begun

end Plays

/-! ### Pieces of code under way -/

structure Step (role : Role ships) (ship later : Ship) : Prop where
  hull : ship.hull ≤ 100 → later.hull ≤ 100
  fuel : ship.fuel ≤ 100 → later.fuel ≤ 100
  mended : ship.hull < later.hull → role = .deed .flee ∧ 1 ≤ ship.hull ∧ ship.hull ≤ 39
  refuelled : ship.fuel < later.fuel → role = .deed .dock
  attacker : later.lastAttacker = ship.lastAttacker ∨
    ∃ attack, attackOf role = some attack ∧ later.lastAttacker = some attack.attacker

theorem Step.refl (role : Role ships) (ship : Ship) : Step role ship ship where
  hull := id
  fuel := id
  mended := fun less => absurd less (UInt32.lt_irrefl _)
  refuelled := fun less => absurd less (UInt32.lt_irrefl _)
  attacker := .inl rfl

/-- A ship between two requests of its code. -/
structure Underway (sails : Ship → Prop) (role : Role ships) (hits : List Attack)
    (scanned : Option (Controller ships)) (book : Logbook) (ship : Ship) : Prop where
  hits : book.hits = hits
  scanned : book.scanned = scanned
  range : Trim sails → InRange book ship
  knows : book.Names sails ship.lastAttacker ∨
    ∃ attack, attackOf role = some attack ∧ ship.lastAttacker = some attack.attacker

/-- Whenever an order is carried out with one thing true of the controller, all is in order on the
way, and another thing is true of the controller and of the answer at the end. -/
def Fares (sails : Ship → Prop) (role : Role ships) (before : Controller ships → Prop)
    (order : Order α) (after : α → Controller ships → Prop) : Prop :=
  ∀ agent hits scanned, Plays sails agent
    (fun book controller =>
      Underway sails role hits scanned book controller.agent ∧ before controller)
    (repertoire.enact role order)
    (fun answer book controller =>
      Underway sails role hits scanned book controller.agent ∧ after answer controller)

/-- No request but the keeping of a mind does anything to a mind: a ship hears itself talk, and
thinks nothing of it. -/
theorem mind_of_perform {context later : Context ships} {request : Request ships}
    {answer : request.Answer} {journal : List Entry} (quiet : ∀ mind, request ≠ .setMind mind)
    (given : (context.perform repertoire request).Gives (answer, later) journal) :
    later.controller.mind = context.controller.mind := by
  cases request with
  | communicate key substitution =>
      have said := Context.gives_effect.mp given
      unfold Context.communicate at said
      cases rendered : context.controller.mind.phrases.render? key substitution with
      | none =>
          rw [rendered] at said
          cases (Journaled.gives_pure.mp said).1
          rfl
      | some message =>
          rw [rendered] at said
          obtain ⟨ship, _, _, heard, rest, _⟩ := Journaled.gives_bind.mp said
          obtain ⟨records, outcome, _⟩ := Told.gives_logged.mp heard
          cases (Journaled.gives_pure.mp rest).1
          cases outcome.outcome
          rfl
  | _ => exact Context.mind_of_perform given quiet nofun

namespace Fares

variable {before : Controller ships → Prop} {after : α → Controller ships → Prop}

theorem pure {answer : α}
    (holds : ∀ controller, before controller → after answer controller) :
    Fares sails role before (Program.pure answer) after :=
  fun _ _ _ => .pure fun _ _ begun => ⟨begun.1, holds _ begun.2⟩

theorem imp {order : Order α} {further : α → Controller ships → Prop}
    (fares : Fares sails role before order after)
    (known : ∀ answer controller, after answer controller → further answer controller) :
    Fares sails role before order further :=
  fun agent hits scanned => (fares agent hits scanned).strengthen
    fun answer _ controller kept => ⟨kept.1, known answer controller kept.2⟩

theorem weaken {order : Order α} {known : Controller ships → Prop}
    (fares : Fares sails role before order after)
    (enough : ∀ controller, known controller → before controller) :
    Fares sails role known order after :=
  fun agent hits scanned => (fares agent hits scanned).weaken
    fun _ controller begun => ⟨begun.1, enough controller begun.2⟩

theorem of_never {order : Order α} (never : ∀ controller, ¬before controller) :
    Fares sails role before order after :=
  fun _ _ _ _ _ _ begun => absurd begun.2 (never _)

theorem bind {middle : β → Controller ships → Prop} {first : Order β} {next : β → Order α}
    (early : Fares sails role before first middle)
    (late : ∀ answer, Fares sails role (middle answer) (next answer) after) :
    Fares sails role before (first >>= next) after := by
  intro agent hits scanned
  rw [repertoire.enact_bind]
  exact (early agent hits scanned).bind fun answer => late answer agent hits scanned

private structure Asked (sails : Ship → Prop) (role : Role ships) (request : Request ships)
    (hits : List Attack) (scanned : Option (Controller ships)) (book : Logbook)
    (controller : Controller ships) : Prop where
  hits : book.hits = hits
  scanned : book.scanned = scanned
  last : ∃ context, book.last = some (.asked role context request) ∧
    context.controller = controller
  bounds : Trim sails → controller.agent.hull ≤ 100 ∧ controller.agent.fuel ≤ 100
  knows : book.Names sails controller.agent.lastAttacker ∨
    ∃ attack, attackOf role = some attack ∧
      controller.agent.lastAttacker = some attack.attacker

private theorem Asked.underway {request : Request ships} {book : Logbook}
    {controller later : Controller ships}
    (asked : Asked sails role request hits scanned book controller)
    (step : Step role controller.agent later.agent) :
    Underway sails role hits scanned book later.agent where
  hits := asked.hits
  scanned := asked.scanned
  range := fun trim =>
    { hull := step.hull (asked.bounds trim).1
      fuel := step.fuel (asked.bounds trim).2
      mended := by
        intro scene context last shown less
        obtain ⟨standing, latest, rfl⟩ := asked.last
        cases latest.symm.trans last
        cases shown
        obtain ⟨rfl, bounds⟩ := step.mended less
        exact ⟨⟨request, rfl⟩, bounds⟩
      refuelled := by
        intro scene context last shown less
        obtain ⟨standing, latest, rfl⟩ := asked.last
        cases latest.symm.trans last
        cases shown
        obtain rfl := step.refuelled less
        exact ⟨request, rfl⟩ }
  knows := by
    rcases step.attacker with same | struck
    · rw [same]
      exact asked.knows
    · exact .inr struck

private theorem ask {request : Request ships} {next : request.Answer → Order α}
    {between : request.Answer → Controller ships → Prop}
    (sound : ∀ fault, request = .fail fault → ¬IsArithmetic fault)
    (performed : ∀ (context later : Context ships) answer journal,
      (context.perform repertoire request).Gives (answer, later) journal →
        before context.controller →
        Step role context.controller.agent later.controller.agent ∧
          between answer later.controller)
    (rest : ∀ answer, Fares sails role (between answer) (next answer) after) :
    Fares sails role before (.ask request next) after := by
  intro agent hits scanned
  have marked : Plays sails agent
      (fun book controller =>
        Underway sails role hits scanned book controller.agent ∧ before controller)
      (Staged.mark fun context => .asked role context request)
      (fun _ book controller =>
        Asked sails role request hits scanned book controller ∧ before controller) := by
    refine .mark (fun _ => rfl) (fun book context begun => ?_) fun book context begun => ?_
    · exact .asked begun.1.range sound begun.1.knows
    · exact ⟨⟨begun.1.hits, begun.1.scanned, ⟨context, rfl, rfl⟩,
        fun trim => ⟨(begun.1.range trim).hull, (begun.1.range trim).fuel⟩, begun.1.knows⟩,
        begun.2⟩
  have carried : Plays sails agent
      (fun book controller =>
        Asked sails role request hits scanned book controller ∧ before controller)
      (Staged.carry fun context => context.perform repertoire request)
      (fun answer book controller =>
        Underway sails role hits scanned book controller.agent ∧ between answer controller) := by
    refine .carry fun context answer later journal given book begun => ?_
    obtain ⟨step, reached⟩ := performed context later answer journal given begun.2
    exact ⟨(Context.Works.of_course (.perform given)).id, begun.1.underway step, reached⟩
  exact marked.bind fun _ => carried.bind fun answer => rest answer agent hits scanned

theorem request {request : Request ships} {after : request.Answer → Controller ships → Prop}
    (quiet : ∀ mind, request ≠ .setMind mind) (sound : ∀ fault, request ≠ .fail fault)
    (meets : (Program.request request).Meets repertoire before after) :
    Fares sails role before (Program.request request) after := by
  refine ask (fun fault same => absurd same (sound fault))
    (fun context later answer journal given begun => ?_) fun answer => pure fun _ kept => kept
  have same := congrArg Mind.agent (mind_of_perform quiet given)
  refine ⟨?_, ?_⟩
  · change Step role context.controller.mind.agent later.controller.mind.agent
    rw [same]
    exact .refl role _
  · exact meets.performed given begun

private theorem mind {next : Mind ships → Order α}
    (rest : ∀ mind, Fares sails role (fun controller => before controller ∧ controller.mind = mind)
      (next mind) after) :
    Fares sails role before (.ask .mind next) after := by
  refine ask nofun (fun context later answer journal given begun => ?_) rest
  cases (Journaled.gives_pure.mp given).1
  exact ⟨.refl role _, begun, rfl⟩

private theorem setMind {mind : Mind ships} {next : Unit → Order α}
    {between : Controller ships → Prop}
    (holds : ∀ controller, before controller →
      Step role controller.agent mind.agent ∧ between { controller with mind })
    (rest : Fares sails role between (next ()) after) :
    Fares sails role before (.ask (.setMind mind) next) after := by
  refine ask nofun (fun context later answer journal given begun => ?_) fun _ => rest
  cases (Journaled.gives_pure.mp given).1
  exact holds context.controller begun

theorem read {look : Mind ships → α}
    (holds : ∀ controller, before controller → after (look controller.mind) controller) :
    Fares sails role before (Program.read look) after :=
  mind fun _ => pure fun controller begun => begun.2 ▸ holds controller begun.1

theorem change {update : Mind ships → Mind ships} {after : Unit → Controller ships → Prop}
    (holds : ∀ controller, before controller →
      Step role controller.agent (update controller.mind).agent ∧
        after () { controller with mind := update controller.mind }) :
    Fares sails role before (Program.change update) after :=
  mind fun _ => setMind (fun controller begun => begun.2 ▸ holds controller begun.1)
    (pure fun _ kept => kept)

theorem changeReading {update : Mind ships → α × Mind ships}
    (holds : ∀ controller, before controller →
      Step role controller.agent (update controller.mind).2.agent ∧
        after (update controller.mind).1 { controller with mind := (update controller.mind).2 }) :
    Fares sails role before (Program.changeReading update) after :=
  mind fun _ => setMind (fun controller begun => begun.2 ▸ holds controller begun.1)
    (pure fun _ kept => kept)

private theorem fail {fault : Fault} (sound : ¬IsArithmetic fault) :
    Fares sails role before (Program.fail fault : Order α) after := by
  have harmless : ∀ other, (.fail fault : Request ships) = .fail other → ¬IsArithmetic other := by
    rintro _ ⟨rfl⟩
    exact sound
  have never (answer : Empty) : Fares sails role before (answer.elim : Order α) after :=
    nomatch answer
  exact ask harmless (fun _ _ answer => nomatch answer) never

theorem draw {sample : StateT Generator (Except Fault) α}
    (sound : ∀ generator fault, sample generator = .error fault → ¬IsArithmetic fault)
    (holds : ∀ controller answer generator, before controller →
      after answer { controller with mind := { controller.mind with generator } }) :
    Fares sails role before (Program.draw sample) after := by
  refine mind fun known => ?_
  cases drawn : sample known.generator with
  | error fault => exact fail (sound _ _ drawn)
  | ok reached =>
      obtain ⟨answer, generator⟩ := reached
      refine setMind (fun controller begun => ?_) (pure fun _ kept => kept)
      obtain ⟨begun, rfl⟩ := begun
      exact ⟨.refl role _, holds controller answer generator begun⟩

end Fares

/-! ### From the beginning of a piece of code to its end -/

/-- A ship of whose code nothing is under way. -/
structure Rests (sails : Ship → Prop) (hits : List Attack)
    (scanned : Option (Controller ships)) (book : Logbook) (ship : Ship) : Prop where
  hits : book.hits = hits
  scanned : book.scanned = scanned
  range : Trim sails → InRange book ship
  knows : book.Names sails ship.lastAttacker

def scannedAfter (role : Role ships) (controller : Controller ships)
    (scanned : Option (Controller ships)) : Option (Controller ships) :=
  match role with
  | .deed .scanStations => some controller
  | _ => scanned

theorem InRange.since {book : Logbook} {ship : Ship} (range : InRange book ship)
    {scene : Scene ships} {context : Context ships} (shown : scene.context? = some context)
    (same : context.controller.agent = ship) : InRange (book.note scene) ship where
  hull := range.hull
  fuel := range.fuel
  mended := by
    intro latest seen last found less
    cases last
    cases shown.symm.trans found
    rw [same] at less
    exact absurd less (UInt32.lt_irrefl _)
  refuelled := by
    intro latest seen last found less
    cases last
    cases shown.symm.trans found
    rw [same] at less
    exact absurd less (UInt32.lt_irrefl _)

private theorem gives_communicate (context : Context ships) (key substitution : String) :
    ∃ journal, (context.perform repertoire (.communicate key substitution)).Gives
      ((), context) journal := by
  refine ⟨_, Context.gives_effect.mpr (Journaled.gives_of_outcome ?_)⟩
  unfold Context.communicate
  cases context.controller.mind.phrases.render? key substitution with
  | none => rfl
  | some message => rfl

private theorem docksAt {context : Context ships} {station : Station}
    (chosen : context.controller.mind.parameters.get? Parameters.selectedKey stationShape =
      some station) : DocksAt context station := by
  obtain ⟨said, communicated⟩ := gives_communicate context "dock" station.name
  let moored : Order Unit := do
    Program.changeAgent (·.docked station)
    Program.request (.install standardResponses)
  let later : Context ships :=
    (context.withMind { context.controller.mind with
      agent := context.controller.agent.docked station }).mapSurface (·.install standardResponses)
  have read : context.run repertoire (Program.read fun mind =>
      mind.parameters.get? Parameters.selectedKey stationShape) =
        pure ((some station : Option stationShape.Content), context) :=
    congrArg (fun found : Option stationShape.Content =>
      (pure (found, context) : Logged (Option stationShape.Content × Context ships))) chosen
  have ran : context.run repertoire dock =
      context.perform repertoire (.communicate "dock" station.name) >>= fun reached =>
        reached.2.run repertoire moored := by
    unfold dock
    rw [Context.run_bind, read, pure_bind]
    rfl
  have moors : (context.run repertoire moored).Gives ((), later) [] := rfl
  refine ⟨later, said ++ [], ?_, rfl, rfl⟩
  rw [ran]
  exact Journaled.gives_bind.mpr ⟨((), context), said, [], communicated, moors, rfl⟩

theorem Fares.stage {before : Controller ships → Prop} {order : Order α}
    {after : α → Controller ships → Prop} (fares : Fares sails role before order after)
    (ready : ∀ deed, role = .deed deed → ∀ book controller, book.hits = hits →
      book.scanned = scanned → before controller → Ready book controller deed)
    (settles : ∀ attack, attackOf role = some attack → ∀ answer controller,
      after answer controller → controller.agent.lastAttacker = some attack.attacker) :
    Plays sails agent
      (fun book controller => Rests sails hits scanned book controller.agent ∧ before controller)
      (repertoire.stage role order)
      (fun answer book controller =>
        Rests sails (hits ++ (attackOf role).toList) (scannedAfter role controller scanned) book
          controller.agent ∧ after answer controller) := by
  have opened : Plays sails agent
      (fun book controller => Rests sails hits scanned book controller.agent ∧ before controller)
      (Staged.mark (.began role))
      (fun _ book controller =>
        Underway sails role hits scanned book controller.agent ∧ before controller) := by
    refine .mark (fun _ => rfl) (fun book context begun => ?_) fun book context begun => ?_
    · refine .began begun.1.range ?_ (fun _ chosen => docksAt chosen) begun.1.knows
      intro deed same
      exact ready deed same book context.controller begun.1.hits begun.1.scanned begun.2
    · exact ⟨⟨begun.1.hits, begun.1.scanned, fun trim => (begun.1.range trim).since rfl rfl,
        .inl begun.1.knows⟩, begun.2⟩
  have closed (answer : α) : Plays sails agent
      (fun book controller =>
        Underway sails role hits scanned book controller.agent ∧ after answer controller)
      (Staged.mark (.ended role))
      (fun _ book controller =>
        Rests sails (hits ++ (attackOf role).toList) (scannedAfter role controller scanned) book
          controller.agent ∧ after answer controller) := by
    have knows (book : Logbook) (context : Context ships)
        (begun : Underway sails role hits scanned book context.controller.agent ∧
          after answer context.controller) :
        (book.note (.ended role context)).Names sails context.controller.agent.lastAttacker := by
      have noted : (book.note (.ended role context)).hits =
          book.hits ++ (attackOf role).toList := rfl
      cases taken : attackOf role with
      | none =>
          rw [taken, Option.toList_none, List.append_nil] at noted
          rcases begun.1.knows with known | ⟨attack, answered, _⟩
          · exact known.of_hits noted
          · cases taken.symm.trans answered
      | some attack =>
          rw [taken, Option.toList_some] at noted
          rw [settles attack taken answer context.controller begun.2]
          exact .of_struck noted
    refine .mark (fun _ => rfl) (fun book context begun => ?_) fun book context begun => ?_
    · exact .ended begun.1.range (knows book context begun)
    · refine ⟨⟨?_, ?_, fun trim => (begun.1.range trim).since rfl rfl,
        knows book context begun⟩, begun.2⟩
      · change book.hits ++ _ = _
        rw [begun.1.hits]
      · cases role with
        | deed action => cases action <;> first | rfl | exact begun.1.scanned
        | call | question | response => exact begun.1.scanned
  exact opened.bind fun _ => (fares agent hits scanned).bind fun answer =>
    (closed answer).bind fun _ => .pure fun _ _ kept => kept

end PriorityAgents.Patrol
