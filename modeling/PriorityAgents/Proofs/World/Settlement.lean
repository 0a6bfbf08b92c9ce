import PriorityAgents.Patrol.Rules
import PriorityAgents.Proofs.World.Calls

/-!
Timers and pending reconsiderations, whatever a host does.

Between two calls every armed timer is the pending reconsideration of a live agent and the other
way round, and no timer is overdue. The timers may stand one tick behind the clock, and then all
that is armed is still ahead of them; when an agent's code has run since the last tick they stand
at the clock, where a timer may be due that the next tick is about to hand out.
-/

set_option autoImplicit false

namespace PriorityAgents.World

variable {vocabulary : Vocabulary} {world : World vocabulary} {issued : Nat} {docket : Docket}
  {agent : AgentId} {handle : TimerHandle}

def armed (world : World vocabulary) : List Timer := world.roster.timers.timers

def timersNow (world : World vocabulary) : Tick := world.roster.timers.now

def pendingOf (slot : Option (Controller vocabulary)) : Option (AgentId × TimerHandle) :=
  slot.bind fun controller => controller.pending.map fun handle => (controller.id, handle)

/-- The live agents with a pending reconsideration, each with the handle that it holds. -/
def pendings (world : World vocabulary) : List (AgentId × TimerHandle) :=
  world.roster.controllers.toList.filterMap pendingOf

/-- Timers and pending reconsiderations are in step, and so are the timers and the clock. -/
structure Settled (world : World vocabulary) : Prop where
  correspondence :
    (world.armed.map fun timer => (timer.owner, timer.handle)).Perm world.pendings
  distinctOwners : (world.armed.map Timer.owner).Nodup
  distinctHandles : (world.armed.map Timer.handle).Nodup
  indexed : ∀ timer ∈ world.armed, world.roster.timers.dueTick? timer.handle = some timer.due
  living : ∀ timer ∈ world.armed, ∃ controller,
    world.controller? timer.owner = some controller ∧ controller.pending = some timer.handle
  notOverdue : ∀ timer ∈ world.armed, world.clock.now ≤ timer.due
  ahead : world.timersNow < world.clock.now → ∀ timer ∈ world.armed, world.timersNow < timer.due
  behind : world.timersNow ≤ world.clock.now
  close : world.clock.now.index ≤ world.timersNow.index + 1
  slots : ∀ (index : Nat) (controller : Controller vocabulary),
    world.roster.controllers[index]? = some (some controller) → controller.id.index = index

namespace Keeps

theorem slots (keeps : world.Keeps issued docket) {index : Nat}
    {controller : Controller vocabulary}
    (found : world.roster.controllers[index]? = some (some controller)) :
    controller.id.index = index :=
  keeps.roster.slots index controller found

theorem mem_armed (keeps : world.Keeps issued docket) {timer : Timer} :
    timer ∈ world.armed ↔ timer ∈ docket.timers :=
  keeps.roster.holds.of_advanceTo.mem_timers

theorem mem_pendings (keeps : world.Keeps issued docket) :
    (agent, handle) ∈ world.pendings ↔
      (world.controller? agent).bind Controller.pending = some handle := by
  unfold pendings
  rw [List.mem_filterMap]
  constructor
  · intro given
    rcases given with ⟨slot, member, held⟩
    obtain ⟨index, within, found⟩ := List.mem_iff_getElem.mp member
    cases slot with
    | none => cases held
    | some controller =>
        obtain ⟨pending, isPending, same⟩ := Option.map_eq_some_iff.mp held
        cases same
        have atIndex : world.roster.controllers[index]? = some (some controller) := by
          rw [← Array.getElem?_toList, List.getElem?_eq_getElem within, found]
        have ownIndex := keeps.slots atIndex
        rw [← ownIndex] at atIndex
        have occupied : world.controller? controller.id = some controller :=
          Roster.controller?_eq_some.mpr atIndex
        rw [occupied, Option.bind_some]
        exact isPending
  · intro held
    obtain ⟨controller, occupied, pending⟩ := Option.bind_eq_some_iff.mp held
    have found := Roster.controller?_eq_some.mp occupied
    refine ⟨some controller, ?_, ?_⟩
    · exact List.mem_of_getElem? (by rw [Array.getElem?_toList]; exact found)
    · have id : controller.id = agent := AgentId.ext (keeps.slots found)
      rw [pendingOf, Option.bind_some, pending, Option.map_some, id]

private theorem nodup_pendings (keeps : world.Keeps issued docket) : world.pendings.Nodup := by
  refine Roster.nodup_filterMap (fun pair => pair.1.index) fun index slot pair found held => ?_
  obtain ⟨controller, rfl, pending⟩ := Option.bind_eq_some_iff.mp held
  obtain ⟨handle, _, rfl⟩ := Option.map_eq_some_iff.mp pending
  exact keeps.slots found

private theorem settled (keeps : world.Keeps issued docket) : world.Settled := by
  have holds := keeps.roster.holds.of_advanceTo
  have permuted : world.armed.Perm docket.timers := by
    unfold armed
    rw [holds.timers_eq]
    exact Timer.inDueOrder_perm docket.timers
  have owners : (world.armed.map Timer.owner).Nodup :=
    (permuted.map Timer.owner).nodup_iff.mpr keeps.roster.single
  have pending (agent : AgentId) (handle : TimerHandle) :
      (world.controller? agent).bind Controller.pending = some handle ↔
        ∃ timer ∈ world.armed, timer.owner = agent ∧ timer.handle = handle := by
    have slot := keeps.roster.pending agent handle
    rw [List.nil_append] at slot
    simp only [keeps.mem_armed]
    exact slot
  have notOverdue : ∀ timer ∈ world.armed, world.clock.now ≤ timer.due := fun timer member =>
    keeps.due timer (keeps.mem_armed.mp member)
  refine
    { correspondence := ?_
      distinctOwners := owners
      distinctHandles := (permuted.map Timer.handle).nodup_iff.mpr holds.nodup_handles
      indexed := fun timer member => holds.dueTick?_of_mem (keeps.mem_armed.mp member)
      living := ?_
      notOverdue
      ahead := fun lagging timer member =>
        Nat.lt_of_lt_of_le lagging (notOverdue timer member)
      behind := keeps.behind
      close := keeps.close
      slots := fun index controller found => keeps.slots found }
  · refine (List.perm_ext_iff_of_nodup ?_ keeps.nodup_pendings).mpr ?_
    · apply List.Nodup.of_map Prod.fst
      rw [List.map_map]
      exact owners
    · intro given
      rcases given with ⟨agent, handle⟩
      rw [keeps.mem_pendings, pending, List.mem_map]
      simp only [Prod.mk.injEq]
  · intro timer member
    exact Option.bind_eq_some_iff.mp ((pending timer.owner timer.handle).mpr
      ⟨timer, member, rfl, rfl⟩)

end Keeps

/-- Between any two calls of a host, whatever agents are spawned with and whatever their code
does, the timers and the pending reconsiderations are in step. -/
theorem settled_of_play {repertoire : Repertoire vocabulary} {config : Config}
    {reconsiderNow : Option Span} {later : World vocabulary} {calls : List (Call vocabulary)}
    (created : World.create config reconsiderNow = .ok world)
    (played : (world.play repertoire calls).outcome = .ok later)
    (few : (world.play repertoire calls).armings ≤ 2 ^ 32 - 1) : later.Settled := by
  have begun := (keeps_of_create created).1
  have kept := begun.play (Journaled.gives_of_outcome played) (by rwa [Nat.zero_add])
  exact kept.1.settled

/-- Two ships set out, one is attacked and goes down, and the other has its plans changed. -/
theorem settled_of_play_patrol :
    let calls : List (Call Patrol.ships) :=
      [.spawn (.fresh "Ada") "patrol" Patrol.start, .spawn (.fresh "Grace") "patrol" Patrol.start,
        .runTicks 2, .post ⟨0, by decide⟩ Patrol.shipBeingAttacked ⟨"Krait", 45⟩, .runTicks 1,
        .destroy ⟨0, by decide⟩ ⟨"Krait", 100⟩,
        .withAgent ⟨1, by decide⟩ (Program.request (.schedule (Patrol.seconds 2))), .runTicks 1]
    ∃ world later, World.create .standard none = .ok world ∧
      (world.play Patrol.repertoire calls).outcome = .ok later ∧
      (world.play Patrol.repertoire calls).armings ≤ 2 ^ 32 - 1 ∧
      later.armed.map (·.owner.index) = [1] ∧ later.Settled := by
  intro calls
  obtain ⟨world, created, rest⟩ : ∃ world, World.create .standard none = .ok world ∧
      ((world.play Patrol.repertoire calls).outcome.toOption.any fun later =>
        decide ((world.play Patrol.repertoire calls).armings ≤ 2 ^ 32 - 1 ∧
          later.armed.map (·.owner.index) = [1])) = true :=
    exists_ok (by decide +kernel)
  obtain ⟨later, played, facts⟩ := exists_ok rest
  obtain ⟨few, owners⟩ := of_decide_eq_true facts
  exact ⟨world, later, created, played, few, owners, settled_of_play created played few⟩

/-- Code of an agent that runs between two ticks moves the timers to the clock, where a timer may
be due: not every timer is later than the tick at which the timers stand. -/
theorem armed_at_timersNow :
    let calls : List (Call Patrol.ships) :=
      [.spawn (.fresh "Ada") "patrol" Patrol.start, .runTicks 1,
        .withAgent ⟨0, by decide⟩ (Program.pure ())]
    ∃ world later, World.create .standard none = .ok world ∧
      (world.play Patrol.repertoire calls).outcome = .ok later ∧
      (world.play Patrol.repertoire calls).armings ≤ 2 ^ 32 - 1 ∧
      ¬∀ timer ∈ later.armed, later.timersNow < timer.due := by
  intro calls
  obtain ⟨world, created, rest⟩ : ∃ world, World.create .standard none = .ok world ∧
      ((world.play Patrol.repertoire calls).outcome.toOption.any fun later =>
        decide ((world.play Patrol.repertoire calls).armings ≤ 2 ^ 32 - 1 ∧
          ¬∀ timer ∈ later.armed, later.timersNow < timer.due)) = true :=
    exists_ok (by decide +kernel)
  obtain ⟨later, played, facts⟩ := exists_ok rest
  obtain ⟨few, overtaken⟩ := of_decide_eq_true facts
  exact ⟨world, later, created, played, few, overtaken⟩

end PriorityAgents.World
