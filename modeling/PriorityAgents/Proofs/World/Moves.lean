import PriorityAgents.Proofs.Journal.Punctuality
import PriorityAgents.Proofs.World.Regime

/-!
The moves of a host: it makes calls, and between them it has its hands on what agents are and
remember.

Nobody but the agent's own code touches its identity or the reconsideration that it has pending, so
whatever timers and slots keep in the course of calls they keep in the course of moves as well.
-/

set_option autoImplicit false

namespace PriorityAgents

variable {vocabulary : Vocabulary} {ε : Type} {agent : AgentId}

/-- A change of a controller from outside. -/
structure Touch (vocabulary : Vocabulary) where
  change : Controller vocabulary → Controller vocabulary
  id (controller : Controller vocabulary) : (change controller).id = controller.id
  scheduler (controller : Controller vocabulary) :
    (change controller).scheduler = controller.scheduler

def Touch.ofState (change : vocabulary.State → vocabulary.State) : Touch vocabulary where
  change controller := controller.mapAgent change
  id _ := rfl
  scheduler _ := rfl

inductive Move (vocabulary : Vocabulary) : Type 1 where
  | call (call : Call vocabulary)
  | touch (agent : AgentId) (touch : Touch vocabulary)

namespace World

def touched (world : World vocabulary) (agent : AgentId) (touch : Touch vocabulary) :
    World vocabulary :=
  world.mapController agent touch.change

def move (repertoire : Repertoire vocabulary) (world : World vocabulary) :
    Move vocabulary → Logged (World vocabulary)
  | .call call => world.obey repertoire call
  | .touch agent touch => pure (world.touched agent touch)

def moves (repertoire : Repertoire vocabulary) (world : World vocabulary) :
    List (Move vocabulary) → Logged (World vocabulary)
  | [] => pure world
  | move :: moves => do
      let later ← world.move repertoire move
      later.moves repertoire moves

def moveBy (usher : Usher vocabulary ε) (world : World vocabulary) :
    Move vocabulary → Journaled ε (World vocabulary)
  | .call call => world.obeyBy usher call
  | .touch agent touch => pure (world.touched agent touch)

def movesBy (usher : Usher vocabulary ε) (world : World vocabulary) :
    List (Move vocabulary) → Journaled ε (World vocabulary)
  | [] => pure world
  | move :: moves => do
      let later ← world.moveBy usher move
      later.movesBy usher moves

end World

theorem Usher.Follows.moves {usher : Usher vocabulary ε} {repertoire : Repertoire vocabulary}
    {select : ε → Option Entry} (follows : usher.Follows repertoire select)
    (world : World vocabulary) (moves : List (Move vocabulary)) :
    (world.movesBy usher moves).reading select = world.moves repertoire moves := by
  induction moves generalizing world with
  | nil => rfl
  | cons move moves ih =>
      unfold World.movesBy World.moves
      rw [Journaled.reading_bind]
      cases move with
      | call call =>
          rw [World.moveBy, follows.obey]
          exact congrArg _ (funext ih)
      | touch agent touch => exact congrArg _ (funext ih)

/-! ### What a touch leaves alone -/

namespace Roster

variable {roster : Roster vocabulary}

theorem controller?_mapController (roster : Roster vocabulary) (agent other : AgentId)
    (change : Controller vocabulary → Controller vocabulary) :
    (roster.mapController agent change).controller? other =
      if other = agent then (roster.controller? other).map change
      else roster.controller? other := by
  unfold controller? mapController
  rw [Array.getElem?_modify]
  by_cases same : other = agent
  · rw [if_pos (by rw [same]), if_pos same]
    cases roster.controllers[other.index]? <;> rfl
  · rw [if_neg fun equal => same (AgentId.ext equal.symm), if_neg same]

@[simp] theorem size_mapController (roster : Roster vocabulary) (agent : AgentId)
    (change : Controller vocabulary → Controller vocabulary) :
    (roster.mapController agent change).controllers.size = roster.controllers.size :=
  Array.size_modify

private theorem Keeps.touched {issued : Nat} {docket : Docket} {rest : List Timer}
    (keeps : roster.Keeps issued docket rest) (agent : AgentId) (touch : Touch vocabulary) :
    (roster.mapController agent touch.change).Keeps issued docket rest where
  clock := keeps.clock
  holds := keeps.holds
  owners := keeps.owners
  slots := by
    intro index controller found
    change (roster.controllers.modify agent.index (Option.map touch.change))[index]? = _ at found
    rw [Array.getElem?_modify] at found
    split at found
    · obtain ⟨slot, occupied, changed⟩ := Option.map_eq_some_iff.mp found
      obtain ⟨before, rfl, rfl⟩ := Option.map_eq_some_iff.mp changed
      rw [touch.id]
      exact keeps.slots index before occupied
    · exact keeps.slots index controller found
  pending := by
    intro other handle
    rw [← keeps.pending other handle, controller?_mapController]
    split
    · cases roster.controller? other with
      | none => exact Iff.rfl
      | some controller =>
          change (touch.change controller).scheduler.pending = _ ↔ _
          rw [touch.scheduler]
          rfl
    · exact Iff.rfl

end Roster

namespace World

variable {world later : World vocabulary} {journal : List Entry} {issued : Nat} {docket : Docket}
  {repertoire : Repertoire vocabulary}

private theorem Keeps.touched (keeps : world.Keeps issued docket) (agent : AgentId)
    (touch : Touch vocabulary) : (world.touched agent touch).Keeps issued docket :=
  ⟨keeps.clock, keeps.roster.touched agent touch, keeps.behind, keeps.close, keeps.due⟩

theorem Keeps.move {move : Move vocabulary} (keeps : world.Keeps issued docket)
    (given : (world.move repertoire move).Gives later journal)
    (room : issued + journal.countP Entry.isArming ≤ 2 ^ 32 - 1) :
    later.Keeps (issued + journal.countP Entry.isArming) (docket.read journal) ∧
      docket.Chronicle journal := by
  cases move with
  | call call => exact keeps.obey given room
  | touch agent touch =>
      obtain ⟨rfl, rfl⟩ := Journaled.gives_pure.mp given
      exact ⟨keeps.touched agent touch, .nil docket⟩

theorem Keeps.moves {moves : List (Move vocabulary)} (keeps : world.Keeps issued docket)
    (given : (world.moves repertoire moves).Gives later journal)
    (room : issued + journal.countP Entry.isArming ≤ 2 ^ 32 - 1) :
    later.Keeps (issued + journal.countP Entry.isArming) (docket.read journal) ∧
      docket.Chronicle journal := by
  induction moves generalizing world issued docket journal with
  | nil =>
      obtain ⟨rfl, rfl⟩ := Journaled.gives_pure.mp given
      exact ⟨keeps, .nil docket⟩
  | cons move moves ih =>
      obtain ⟨middle, first, second, moved, rest, rfl⟩ := Journaled.gives_bind.mp given
      rw [List.countP_append] at room ⊢
      obtain ⟨kept, early⟩ := keeps.move moved (by omega)
      obtain ⟨laterKeeps, late⟩ := ih kept rest (by omega)
      rw [Docket.read_append, ← Nat.add_assoc]
      exact ⟨laterKeeps, early.append late⟩

end World

/-! ### What agents keep up from turn to turn, touched in between -/

section

variable {usher : Usher vocabulary ε} {etiquette : Etiquette vocabulary}
  {regime : Regime vocabulary ε} {taken : Nat} {past : List ε} {world : World vocabulary}

def Regime.Bears (regime : Regime vocabulary ε) (agent : AgentId) (touch : Touch vocabulary) :
    Prop :=
  ∀ past controller, regime.invariant past agent controller →
    regime.invariant past agent (touch.change controller)

def Regime.Admits (regime : Regime vocabulary ε) (etiquette : Etiquette vocabulary) :
    Move vocabulary → Prop
  | .call call => etiquette.Admits call
  | .touch agent touch => regime.Bears agent touch

namespace World.Heeds

private theorem touched (heeds : world.Heeds etiquette regime taken past) {touch : Touch vocabulary}
    (bears : regime.Bears agent touch) :
    (world.touched agent touch).Heeds etiquette regime taken past := by
  refine ⟨⟨fun other controller found => ?_, ?_, ?_⟩, heeds.queued⟩
  · change (world.roster.mapController agent touch.change).controller? other = _ at found
    rw [Roster.controller?_mapController] at found
    split at found
    · rename_i same
      subst same
      obtain ⟨before, occupied, rfl⟩ := Option.map_eq_some_iff.mp found
      exact bears past before (heeds.roster.slots other before occupied)
    · exact heeds.roster.slots other controller found
  · change ∀ mark ∈ past, ∀ other, regime.agent? mark = some other →
      other.index < (world.roster.mapController agent touch.change).controllers.size
    rw [Roster.size_mapController]
    exact heeds.roster.told
  · change taken ≤ (world.roster.mapController agent touch.change).controllers.size
    rw [Roster.size_mapController]
    exact heeds.roster.taken

/-- What agents keep up from turn to turn they keep up in the course of all moves. -/
theorem moves (heeds : world.Heeds etiquette regime taken past)
    (upholds : usher.Upholds etiquette regime taken) {moves : List (Move vocabulary)}
    (allowed : ∀ move ∈ moves, regime.Admits etiquette move) :
    (world.movesBy usher moves).Continues regime.good
      (fun history later => later.Heeds etiquette regime taken history) past := by
  induction moves generalizing world past with
  | nil => exact .pure heeds
  | cons move moves ih =>
      obtain ⟨first, rest⟩ := List.forall_mem_cons.mp allowed
      have moved : (world.moveBy usher move).Continues regime.good
          (fun history later => later.Heeds etiquette regime taken history) past := by
        cases move with
        | call call => exact heeds.obey upholds first
        | touch agent touch => exact .pure (heeds.touched first)
      exact moved.bind fun _ _ kept => ih kept rest

end World.Heeds

end

/-! ### The ticks that are stepped -/

theorem Docket.Chronicle.mem_tickStart {docket : Docket} {journal : List Entry}
    (chronicle : docket.Chronicle journal) (tick : Tick) :
    .noticed (.tickStart tick) ∈ journal ↔
      docket.clock.now ≤ tick ∧ tick < (docket.read journal).clock.now := by
  induction chronicle with
  | nil docket =>
      simp only [List.not_mem_nil, Docket.read_nil, Tick.le_def, Tick.lt_def, false_iff]
      omega
  | @between docket entry later here _ ih =>
      have clock : (docket.enter entry).clock = docket.clock := by
        cases entry with
        | noticed notice => cases notice <;> first | rfl | exact here.elim
        | _ => rfl
      have other : .noticed (.tickStart tick) ≠ entry := by
        rintro rfl
        exact here
      rw [List.mem_cons, or_iff_right other, ih, clock, Docket.read_cons]
  | @round docket first later here following ih =>
      obtain ⟨_, _, _, index, _⟩ := here.facts
      have moved := following.clock_read.2
      have begins : .noticed (.tickStart tick) ∈ first ↔ tick = docket.clock.now := by
        obtain ⟨delivering, routing, fired, rfl, _, delivered, routed, _⟩ := here.parts
        have unsaid {entries : List Entry}
            (routine : ∀ entry ∈ entries, entry.IsRoutine docket.clock.now) :
            .noticed (.tickStart tick) ∉ entries := fun member => routine _ member
        simp [unsaid delivered, unsaid routed]
      rw [List.mem_append, begins, ih, Docket.read_append, Tick.ext_iff]
      simp only [Tick.le_def, Tick.lt_def]
      omega

end PriorityAgents
