import PriorityAgents.Patrol.Rules
import PriorityAgents.Proofs.World.Calls

/-!
The two ways of moving a world on: to the end that its settings give, and by a number of ticks.

The first is a loop that holds the clock against the settings before each turn, and the second
counts. No agent's code can move the clock or the end, and a turn takes the clock one tick further,
so the loop takes as many turns as there are ticks left, whatever happens in them.
-/

set_option autoImplicit false

namespace PriorityAgents.World

variable {vocabulary : Vocabulary} {world later : World vocabulary} {journal : List Entry}
  {turns count : Nat}

/-- The loop of a run to the end, with the number of its turns and what it enters in the journal.
The clock and the settings are those that the last turn has left. -/
inductive Loop (repertoire : Repertoire vocabulary) :
    World vocabulary → Nat → World vocabulary → List Entry → Prop where
  | ended {world : World vocabulary} (reached : world.config.endTick ≤ world.clock.now) :
      Loop repertoire world 0 world [.noticed (.runEnd world.clock.now)]
  | turn {world middle later : World vocabulary} {turns : Nat} {first rest : List Entry}
      (before : world.clock.now < world.config.endTick)
      (ticked : (world.tick repertoire).Gives middle first)
      (loop : Loop repertoire middle turns later rest) :
      Loop repertoire world (turns + 1) later (first ++ rest)

/-- No tick of the next so many is abandoned. -/
def Unbroken (repertoire : Repertoire vocabulary) (world : World vocabulary) (count : Nat) : Prop :=
  ∀ done reached, done < count → (world.ticks repertoire done).outcome = .ok reached →
    ∃ later, (reached.tick repertoire).outcome = .ok later

variable {repertoire : Repertoire vocabulary}

/-! ### The loop -/

/-- The loop never ends in another way or after another number of turns than the run to the end. -/
theorem Loop.gives (loop : world.Loop repertoire turns later journal) :
    (world.toEnd repertoire).Gives later journal ∧
      turns = world.config.endTick.index - world.clock.now.index := by
  induction loop with
  | ended reached =>
      rw [toEnd_of_reached repertoire reached]
      rw [Tick.le_def] at reached
      exact ⟨rfl, by omega⟩
  | turn before ticked _ ih =>
      obtain ⟨rest, turns⟩ := ih
      obtain ⟨config, clock⟩ := config_clock_of_tick ticked.outcome
      rw [toEnd_of_before repertoire before]
      rw [config, clock] at turns
      rw [Tick.lt_def] at before
      exact ⟨Journaled.gives_bind.mpr ⟨_, _, _, ticked, rest, rfl⟩, by omega⟩

private theorem loop_of_gives (given : (world.toEnd repertoire).Gives later journal) :
    world.Loop repertoire (world.config.endTick.index - world.clock.now.index) later journal := by
  generalize left : world.config.endTick.index - world.clock.now.index = count
  induction count generalizing world journal with
  | zero =>
      have reached : world.config.endTick ≤ world.clock.now := by
        rw [Tick.le_def]
        omega
      rw [toEnd_of_reached repertoire reached] at given
      cases given
      exact .ended reached
  | succ count ih =>
      have before : world.clock.now < world.config.endTick := by
        rw [Tick.lt_def]
        omega
      rw [toEnd_of_before repertoire before] at given
      obtain ⟨middle, first, rest, ticked, ran, rfl⟩ := Journaled.gives_bind.mp given
      obtain ⟨config, clock⟩ := config_clock_of_tick ticked.outcome
      have next : middle.config.endTick.index - middle.clock.now.index = count := by
        rw [config, clock]
        omega
      exact .turn before ticked (ih ran next)

theorem loop_iff : world.Loop repertoire turns later journal ↔
    (world.toEnd repertoire).Gives later journal ∧
      turns = world.config.endTick.index - world.clock.now.index := by
  constructor
  · exact Loop.gives
  · rintro ⟨given, rfl⟩
    exact loop_of_gives given

/-! ### The count -/

theorem config_clock_of_ticks (ticked : (world.ticks repertoire count).outcome = .ok later) :
    later.config = world.config ∧
      later.clock.now.index = world.clock.now.index + count := by
  induction count generalizing world with
  | zero =>
      cases ticked
      exact ⟨rfl, rfl⟩
  | succ count ih =>
      obtain ⟨middle, _, _, first, rest, _⟩ :=
        Journaled.gives_bind.mp (Journaled.gives_of_outcome ticked)
      obtain ⟨config, clock⟩ := config_clock_of_tick first.outcome
      obtain ⟨laterConfig, laterClock⟩ := ih rest.outcome
      exact ⟨laterConfig.trans config, by omega⟩

private theorem now_of_ticks_left
    (ticked : (world.ticks repertoire
      (world.config.endTick.index - world.clock.now.index)).outcome = .ok later) :
    later.clock.now = world.clock.now.latest world.config.endTick := by
  have moved := (config_clock_of_ticks ticked).2
  apply Tick.ext
  rw [Tick.index_latest, moved]
  omega

private theorem Unbroken.exists_ticks (unbroken : world.Unbroken repertoire count) :
    ∃ later, (world.ticks repertoire count).outcome = .ok later := by
  induction count generalizing world with
  | zero => exact ⟨world, rfl⟩
  | succ count ih =>
      obtain ⟨middle, ticked⟩ := unbroken 0 world (Nat.succ_pos count) rfl
      have next : ∀ done, (world.ticks repertoire (done + 1)).outcome =
          (middle.ticks repertoire done).outcome := by
        intro done
        rw [ticks, Journaled.outcome_bind, ticked]
        rfl
      rw [next]
      apply ih
      intro done reached within given
      exact unbroken (done + 1) reached (Nat.succ_lt_succ within) ((next done).trans given)

private theorem unbroken_of_ticks (ticked : (world.ticks repertoire count).outcome = .ok later) :
    world.Unbroken repertoire count := by
  induction count generalizing world with
  | zero => exact fun _ _ within => absurd within (Nat.not_lt_zero _)
  | succ count ih =>
      obtain ⟨middle, _, _, first, rest, _⟩ :=
        Journaled.gives_bind.mp (Journaled.gives_of_outcome ticked)
      intro done reached within given
      cases done with
      | zero =>
          cases given
          exact ⟨middle, first.outcome⟩
      | succ done =>
          rw [ticks, Journaled.outcome_bind, first.outcome] at given
          exact ih rest.outcome done reached (Nat.lt_of_succ_lt_succ within) given

/-! ### One against the other -/

/-- How a run to the end compares with a run by number, where so many ticks are left to the end and
the clock stands at `finish` after them. -/
structure Counts (repertoire : Repertoire vocabulary) (world : World vocabulary) (left : Nat)
    (finish : Tick) : Prop where
  /-- To run to the end is to run the ticks that are left and then to tell the observer of the end,
  also where one of the ticks is abandoned. -/
  same : world.run repertoire = (do
    let (noticed, later) ← world.runTicks repertoire left
    Logged.notify (.runEnd finish)
    pure (noticed ++ [.runEnd finish], later))
  /-- Where no tick is abandoned the loop ends, after that number of turns and no other. -/
  ends : world.Unbroken repertoire left → ∃ noticed later journal,
    (world.runTicks repertoire left).Gives (noticed, later) journal ∧
    (world.run repertoire).Gives (noticed ++ [.runEnd finish], later)
      (journal ++ [.noticed (.runEnd finish)]) ∧
    (∀ turns other entries, world.Loop repertoire turns other entries ↔
      turns = left ∧ other = later ∧ entries = journal ++ [.noticed (.runEnd finish)]) ∧
    later.config = world.config ∧ later.clock.now = finish
  /-- At the end or beyond it there is no tick to run, and nothing is changed. -/
  rests : world.config.endTick ≤ world.clock.now → left = 0 ∧ finish = world.clock.now ∧
    (world.run repertoire).Gives ([.runEnd finish], world) [.noticed (.runEnd finish)]

private theorem observed_notify {α : Type} (logged : Logged α) (notice : α → Notice) :
    Logged.observed (do
      let answer ← logged
      Logged.notify (notice answer)
      pure answer) = (do
    let (noticed, answer) ← logged.observed
    Logged.notify (notice answer)
    pure (noticed ++ [notice answer], answer)) := by
  obtain ⟨outcome, journal⟩ := logged
  cases outcome with
  | error fault => rfl
  | ok answer =>
      change (⟨.ok ((journal ++ [Entry.noticed (notice answer)]).filterMap Entry.notice?, answer),
          journal ++ [.noticed (notice answer)]⟩ : Logged (List Notice × α)) =
        ⟨.ok (journal.filterMap Entry.notice? ++ [notice answer], answer),
          journal ++ [.noticed (notice answer)]⟩
      rw [List.filterMap_append]
      rfl

private theorem run_eq_runTicks (repertoire : Repertoire vocabulary) (world : World vocabulary) :
    world.run repertoire = (do
      let (noticed, later) ←
        world.runTicks repertoire (world.config.endTick.index - world.clock.now.index)
      Logged.notify (.runEnd (world.clock.now.latest world.config.endTick))
      pure (noticed ++ [.runEnd (world.clock.now.latest world.config.endTick)], later)) := by
  unfold run runTicks
  rw [toEnd_eq_ticks, observed_notify]
  apply Journaled.bind_congr
  rintro ⟨noticed, later⟩ observed
  obtain ⟨ticked, _⟩ := Logged.gives_observed.mp (Journaled.gives_of_outcome observed)
  simp only [now_of_ticks_left ticked.outcome]

/-- Whatever world a run to the end sets out from, and whatever the agents' code does in it, it runs
the ticks that are left to the end and no more, and then tells its observer of the end. -/
theorem run_counts (repertoire : Repertoire vocabulary) (world : World vocabulary) :
    world.Counts repertoire (world.config.endTick.index - world.clock.now.index)
      (world.clock.now.latest world.config.endTick) := by
  refine
    { same := run_eq_runTicks repertoire world
      ends := ?_
      rests := ?_ }
  · intro unbroken
    obtain ⟨later, ticked⟩ := unbroken.exists_ticks
    obtain ⟨noticed, journal, counted⟩ : ∃ noticed journal, (world.runTicks repertoire
        (world.config.endTick.index - world.clock.now.index)).Gives (noticed, later) journal :=
      ⟨_, _, Logged.gives_observed.mpr ⟨Journaled.gives_of_outcome ticked, rfl⟩⟩
    have ran : (world.run repertoire).Gives
        (noticed ++ [.runEnd (world.clock.now.latest world.config.endTick)], later)
        (journal ++ [.noticed (.runEnd (world.clock.now.latest world.config.endTick))]) := by
      rw [run_eq_runTicks]
      exact Journaled.gives_bind.mpr ⟨_, _, _, counted, rfl, rfl⟩
    have finished := (Logged.gives_observed.mp ran).1
    refine ⟨noticed, later, journal, counted, ran, ?_, (config_clock_of_ticks ticked).1,
      now_of_ticks_left ticked⟩
    intro turns other entries
    rw [loop_iff]
    constructor
    · rintro ⟨ended, rfl⟩
      cases ended.symm.trans finished
      exact ⟨rfl, rfl, rfl⟩
    · rintro ⟨rfl, rfl, rfl⟩
      exact ⟨finished, rfl⟩
  · intro reached
    rw [Tick.le_def] at reached
    have none : world.config.endTick.index - world.clock.now.index = 0 := by omega
    have finish : world.clock.now.latest world.config.endTick = world.clock.now := by
      apply Tick.ext
      rw [Tick.index_latest]
      exact Nat.max_eq_left reached
    refine ⟨none, finish, ?_⟩
    rw [run_eq_runTicks, none]
    rfl

/-- A ship in a world that ends after sixteen ticks. -/
theorem run_counts_patrol :
    let config : Config := { Config.standard with totalTicks := 16 }
    let calls : List (Call Patrol.ships) := [.spawn (.fresh "Ada") "patrol" Patrol.start]
    ∃ start world noticed later, World.create config none = .ok start ∧
      (start.play Patrol.repertoire calls).outcome = .ok world ∧
      world.Unbroken Patrol.repertoire 16 ∧
      (world.runTicks Patrol.repertoire 16).outcome = .ok (noticed, later) ∧
      (world.run Patrol.repertoire).outcome =
        .ok (noticed ++ [.runEnd config.endTick], later) ∧
      later.clock.now = config.endTick := by
  intro config calls
  obtain ⟨start, created, rest⟩ : ∃ start, World.create config none = .ok start ∧
      ((start.play Patrol.repertoire calls).outcome.toOption.any fun world =>
        decide (world.config = config ∧ world.clock.now = .zero) &&
          (world.ticks Patrol.repertoire 16).outcome.toOption.any fun _ => true) = true :=
    exists_ok (by decide +kernel)
  obtain ⟨world, played, rest⟩ := exists_ok rest
  rw [Bool.and_eq_true] at rest
  obtain ⟨settings, now⟩ := of_decide_eq_true rest.1
  obtain ⟨reached, ticked, _⟩ := exists_ok rest.2
  have unbroken := unbroken_of_ticks ticked
  have counts := run_counts Patrol.repertoire world
  rw [settings, now] at counts
  obtain ⟨noticed, later, _, counted, ran, _, _, last⟩ := counts.ends unbroken
  exact ⟨start, world, noticed, later, created, played, unbroken, counted.outcome, ran.outcome,
    last⟩

end PriorityAgents.World
