import PriorityAgents.Proofs.World.Rounds
import PriorityAgents.World.Run

/-!
What a world keeps between two requests of its host.

The timers may be one tick behind the clock: they are moved when an agent's code is about to run.
The docket that is read off the whole history is always up to date.
-/

set_option autoImplicit false

namespace PriorityAgents.World

variable {vocabulary : Vocabulary} {world later : World vocabulary} {journal : List Entry}
  {issued : Nat} {docket : Docket} {agent : AgentId} {repertoire : Repertoire vocabulary}

structure Keeps (world : World vocabulary) (issued : Nat) (docket : Docket) : Prop where
  clock : docket.clock = world.clock
  roster : (world.roster.advanceTo world.clock.now).Keeps issued docket []
  behind : world.roster.timers.now ≤ world.clock.now
  close : world.clock.now.index ≤ world.roster.timers.now.index + 1
  due : ∀ timer ∈ docket.timers, world.clock.now ≤ timer.due

theorem latest_of_le {earlier tick : Tick} (ordered : earlier ≤ tick) :
    earlier.latest tick = tick := by
  apply Tick.ext
  rw [Tick.index_latest]
  exact Nat.max_eq_right ordered

theorem of_create {config : Config} {reconsiderNow : Option Span}
    (created : World.create config reconsiderNow = .ok world) :
    ∃ timers, TimerQueue.start config.tickMillis = .ok timers ∧
      timers.clock.tickMillis = config.tickMillis.toNat ∧ timers.now = .zero ∧
      world =
        { config
          clock := timers.clock
          reconsiderNow := reconsiderNow.getD config.reconsiderNow
          roster := { controllers := #[], timers }
          events := [] } := by
  unfold World.create at created
  by_cases zero : config.tickMillis = 0
  · rw [if_pos zero] at created
    cases created
  · rw [if_neg zero] at created
    unfold TimerQueue.start Config.clock at created
    unfold TimerQueue.start
    by_cases positive : 0 < config.tickMillis.toNat
    · simp only [Clock.start, dif_pos positive] at created ⊢
      cases created
      exact ⟨_, rfl, rfl, rfl, rfl⟩
    · simp only [Clock.start, dif_neg positive] at created
      cases created

theorem keeps_of_create {config : Config} {reconsiderNow : Option Span}
    (created : World.create config reconsiderNow = .ok world) :
    world.Keeps 0 ⟨world.clock, []⟩ ∧ world.clock.now.index = 0 := by
  obtain ⟨timers, started, _, zero, rfl⟩ := of_create created
  have holds := TimerQueue.Holds.start started
  have index : timers.clock.now.index = 0 := congrArg Tick.index zero
  refine ⟨?_, index⟩
  refine
    { clock := rfl
      roster := ?_
      behind := Nat.le_refl _
      close := Nat.le_succ _
      due := nofun }
  refine
    { clock := ?_
      holds := holds.advanceTo _
      slots := nofun
      owners := List.nodup_nil
      pending := ?_ }
  · change ({ timers.clock with now := timers.clock.now.latest timers.clock.now } : Clock) = _
    rw [latest_of_le (Nat.le_refl _)]
  · intro agent handle
    constructor
    · intro impossible
      cases impossible
    · intro given
      rcases given with ⟨timer, member, _⟩
      exact absurd member List.not_mem_nil

/-! ### Ticks -/

theorem gives_tick :
    (world.tick repertoire).Gives later journal ↔
      ∃ delivering firing fired middle roster clock,
        ((world.roster.advanceTo world.clock.now).deliverAll repertoire world.clock.now
          world.events).Gives middle delivering ∧
        (middle.fire repertoire world.clock.now).Gives (fired, roster) firing ∧
        world.clock.advance = .ok clock ∧
        later = { world with roster, clock, events := [] } ∧
        journal = .noticed (.tickStart world.clock.now) ::
          (delivering ++ (firing ++ [.noticed (.tickEnd world.clock.now fired)])) := by
  simp only [tick, Journaled.gives_bind, Logged.gives_notify, Journaled.gives_lift,
    Journaled.gives_pure, Prod.exists]
  constructor
  · intro given
    rcases given with ⟨_, _, _, rfl, ⟨middle, delivering, _, delivered, ⟨fired, roster, firing, _,
      given, ⟨_, _, _, rfl, ⟨clock, _, _, ⟨advanced, rfl⟩, ⟨rfl, rfl⟩, rfl⟩, rfl⟩, rfl⟩, rfl⟩, rfl⟩
    exact ⟨delivering, firing, fired, middle, roster, clock, delivered, given, advanced, rfl, rfl⟩
  · intro given
    rcases given with ⟨delivering, firing, fired, middle, roster, clock, delivered, given,
      advanced, rfl, rfl⟩
    exact ⟨(), _, _, rfl, ⟨middle, delivering, _, delivered, ⟨fired, roster, firing, _, given,
      ⟨(), _, _, rfl, ⟨clock, _, _, ⟨advanced, rfl⟩, ⟨rfl, rfl⟩, rfl⟩, rfl⟩, rfl⟩, rfl⟩, rfl⟩

theorem inDueOrder_due {timers : List Timer} {now : Tick}
    (due : ∀ timer ∈ timers, now ≤ timer.due) :
    Timer.inDueOrder (timers.filter (·.due ≤ now)) = timers.filter (·.due = now) := by
  have same : timers.filter (·.due ≤ now) = timers.filter (·.due = now) := by
    apply List.filter_congr
    intro timer member
    have bound := due timer member
    rw [Tick.le_def] at bound
    rw [decide_eq_decide, Tick.le_def, Tick.ext_iff]
    omega
  rw [same]
  exact Timer.inDueOrder_of_due fun timer member => by simpa using (List.mem_filter.mp member).2

/-- A tick is a round, and the world is in order after it. -/
theorem Keeps.tick (keeps : world.Keeps issued docket)
    (given : (world.tick repertoire).Gives later journal)
    (room : issued + journal.countP Entry.isArming ≤ 2 ^ 32 - 1) :
    later.Keeps (issued + journal.countP Entry.isArming) (docket.read journal) ∧
      docket.Round journal := by
  obtain ⟨dockClock, timers⟩ := docket
  obtain rfl : dockClock = world.clock := keeps.clock
  obtain ⟨delivering, firing, fired, middle, roster, clock, delivered, fires, advanced, rfl, rfl⟩ :=
    gives_tick.mp given
  obtain ⟨rfl, nextIndex⟩ := Clock.eq_next_of_advance advanced
  simp only [List.countP_cons, List.countP_append, List.countP_nil] at room
  have first := Roster.deliverAll_served keeps.roster delivered (by omega)
  obtain ⟨routing, rfl, next, count, second⟩ := Roster.fire_served first.keeps
    (congrArg Clock.now first.clock) fires (by omega)
  have sameClock := second.clock.trans first.clock
  have settled := second.keeps
  have notOverdue : ∀ timer ∈ (Docket.read ⟨world.clock, timers⟩ delivering).timers,
      world.clock.now ≤ timer.due := by
    intro timer member
    rcases first.due timer member with before | later
    · exact keeps.due timer before
    · exact Nat.le_of_lt later
  have reports := second.reports
  rw [inDueOrder_due notOverdue] at reports
  have sameCount : fired = (routing.filterMap Entry.reported?).length := by
    rw [count, reports, List.length_map, ← inDueOrder_due notOverdue,
      (Timer.inDueOrder_perm _).length_eq]
  have armings : (Entry.noticed (.tickStart world.clock.now) :: (delivering ++
      (.drained world.clock.now :: routing ++ [.noticed (.tickEnd world.clock.now fired)]))).countP
        Entry.isArming = delivering.countP Entry.isArming + routing.countP Entry.isArming := by
    simp [Entry.isArming]
  have read : Docket.read ⟨world.clock, timers⟩ (.noticed (.tickStart world.clock.now) ::
      (delivering ++ (.drained world.clock.now :: routing ++
        [.noticed (.tickEnd world.clock.now fired)]))) =
        ⟨world.clock.next, (((Docket.read ⟨world.clock, timers⟩ delivering).enter
          (.drained world.clock.now)).read routing).timers⟩ := by
    rw [Docket.read_cons, Docket.read_append, Docket.read_append]
    exact Docket.ext (congrArg Clock.next sameClock) rfl
  rw [armings, read, ← Nat.add_assoc]
  constructor
  · refine
      { clock := rfl
        roster := ?_
        behind := ?_
        close := ?_
        due := ?_ }
    · have moved := settled.advanceTo world.clock.next.now
      rw [sameClock, latest_of_le (by rw [Tick.le_def, nextIndex]; exact Nat.le_succ _)] at moved
      exact moved
    · change roster.timers.clock.now ≤ world.clock.next.now
      rw [settled.clock, sameClock, Tick.le_def, nextIndex]
      exact Nat.le_succ _
    · change world.clock.next.now.index ≤ roster.timers.clock.now.index + 1
      rw [settled.clock, sameClock, nextIndex]
    · intro timer member
      change world.clock.next.now.index ≤ timer.due.index
      rw [nextIndex]
      rcases second.due timer member with before | later
      · exact of_decide_eq_true (List.mem_filter.mp before).2
      · exact Nat.lt_of_le_of_lt (Nat.le_of_eq (congrArg (·.now.index) first.clock).symm) later
  · rw [sameCount]
    exact Docket.Round.intro delivering routing next first.routine first.reports second.routine
      reports

theorem Keeps.ticks {count : Nat} (keeps : world.Keeps issued docket)
    (given : (world.ticks repertoire count).Gives later journal)
    (room : issued + journal.countP Entry.isArming ≤ 2 ^ 32 - 1) :
    later.Keeps (issued + journal.countP Entry.isArming) (docket.read journal) ∧
      docket.Chronicle journal := by
  induction count generalizing world issued docket journal with
  | zero =>
      obtain ⟨rfl, rfl⟩ := Journaled.gives_pure.mp given
      exact ⟨keeps, .nil docket⟩
  | succ count ih =>
      obtain ⟨middle, first, second, ticked, rest, rfl⟩ := Journaled.gives_bind.mp given
      rw [List.countP_append] at room ⊢
      obtain ⟨kept, round⟩ := keeps.tick ticked (by omega)
      obtain ⟨laterKeeps, chronicle⟩ := ih kept rest (by omega)
      rw [Docket.read_append, ← Nat.add_assoc]
      exact ⟨laterKeeps, .round round chronicle⟩

theorem toEnd_of_reached (repertoire : Repertoire vocabulary) {world : World vocabulary}
    (reached : world.config.endTick ≤ world.clock.now) :
    world.toEnd repertoire = (do
      Logged.notify (.runEnd world.clock.now)
      pure world) := by
  rw [toEnd, dif_neg (by rw [Tick.lt_def]; exact Nat.not_lt.mpr reached)]

theorem toEnd_of_before (repertoire : Repertoire vocabulary) {world : World vocabulary}
    (before : world.clock.now < world.config.endTick) :
    world.toEnd repertoire = (do
      let later ← world.tick repertoire
      later.toEnd repertoire) := by
  rw [toEnd, dif_pos before]
  exact Journaled.attach_bind (world.tick repertoire) fun later => later.toEnd repertoire

theorem toEnd_eq_ticks (repertoire : Repertoire vocabulary) (world : World vocabulary) :
    world.toEnd repertoire = (do
      let later ← world.ticks repertoire (world.config.endTick.index - world.clock.now.index)
      Logged.notify (.runEnd later.clock.now)
      pure later) := by
  generalize left : world.config.endTick.index - world.clock.now.index = count
  induction count generalizing world with
  | zero => exact toEnd_of_reached repertoire (by rw [Tick.le_def]; omega)
  | succ count ih =>
      rw [toEnd_of_before repertoire (by rw [Tick.lt_def]; omega), World.ticks, bind_assoc]
      apply Journaled.bind_congr
      intro later ticked
      obtain ⟨config, clock⟩ := config_clock_of_tick ticked
      apply ih
      rw [config, clock]
      omega

theorem Keeps.toEnd (keeps : world.Keeps issued docket)
    (given : (world.toEnd repertoire).Gives later journal)
    (room : issued + journal.countP Entry.isArming ≤ 2 ^ 32 - 1) :
    later.Keeps (issued + journal.countP Entry.isArming) (docket.read journal) ∧
      docket.Chronicle journal := by
  rw [toEnd_eq_ticks] at given
  obtain ⟨middle, first, second, ticked, rest, rfl⟩ := Journaled.gives_bind.mp given
  obtain ⟨_, notice, _, told, final, rfl⟩ := Journaled.gives_bind.mp rest
  obtain ⟨rfl, rfl⟩ := Journaled.gives_pure.mp final
  rw [Logged.gives_notify.mp told] at room ⊢
  rw [List.countP_append] at room ⊢
  obtain ⟨kept, chronicle⟩ := keeps.ticks ticked (by omega)
  rw [Docket.read_append]
  exact ⟨kept, chronicle.append (.of_between fun entry member => by
    rw [List.append_nil, List.mem_singleton] at member
    rw [member]
    exact trivial)⟩

end PriorityAgents.World
