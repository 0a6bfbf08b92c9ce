import PriorityAgents.Proofs.Patrol.Voyage

/-!
Raids on their way to the ships.

However raids are written down, the ones of a tick are at the head of those that are left when the
tick comes: the sort keeps the order of raids at one tick, and every turn takes away all raids up to
its own. So each tick is told what its raids are, and no more is needed of timers, hulls or what the
ships do than who has been taken out of the world so far.
-/

set_option autoImplicit false

namespace PriorityAgents.Patrol

variable {journal : List Entry} {campaign : Campaign}

namespace Campaign

/-! ### Turns -/

private structure Proceeds (campaign : Campaign) (notices : List Notice) (next : Campaign)
    (journal : List Entry) : Prop where
  raided : campaign.raided.run.outcome = .ok (.ok campaign.raiding)
  turned : campaign.turn.run.outcome = .ok (.ok (notices, next))
  offered : notices.filterMap Notice.offered? =
    campaign.attacks.map fun event => (campaign.now, event.agent, event.name)
  fleet : next.fleet = campaign.fleet
  raids : next.raids = campaign.raids.dropWhile fun raid => raid.tick.toNat ≤ campaign.now
  now : next.now = campaign.now + 1
  quiet : next.world.events = []
  seated : next.world.roster.Seated
  there (agent : AgentId) : (next.world.controller? agent).isSome =
    ((campaign.world.controller? agent).isSome && decide (agent ∉ lost journal))

private theorem proceeds_of_turn {answer : Except WorldError (List Notice × Campaign)}
    (seated : campaign.world.roster.Seated) (quiet : campaign.world.events = [])
    (given : campaign.turn.run.Gives answer journal) :
    ∃ notices next, answer = .ok (notices, next) ∧ campaign.Proceeds notices next journal := by
  have turned := given.outcome
  obtain ⟨posting, stepped, ticking, next, clearing, rfl, rfl, raided, silent, ticked, clears⟩ :=
    gives_turn seated given
  obtain ⟨offers, none, later⟩ := World.offers_of_tick ticked
  have queue : campaign.raiding.world.events = campaign.attacks := by
    change campaign.world.events ++ campaign.attacks = _
    rw [quiet, List.nil_append]
  have spared : lost posting = [] :=
    lost_hushed fun entry member => ((silent entry member).isOwn .invalid).isHushed
  have gone : lost (posting ++ (ticking ++ clearing)) = lost clearing := by
    rw [lost_append, lost_append, spared, offers.lost, List.nil_append, List.nil_append]
  refine ⟨_, next, rfl, raided.outcome, turned, ?_, clears.fleet, clears.raids, ?_,
    clears.events.trans none, clears.seated (offers.seated seated), fun agent => ?_⟩
  · exact offers.offered.trans (congrArg _ queue)
  · exact (congrArg (Tick.index ∘ Clock.now) clears.clock).trans later
  · rw [gone, clears.lost]
    exact (clears.there agent).trans (congrArg (· && _) (offers.there agent))

structure BetweenTurns (campaign : Campaign) : Prop where
  seated : campaign.world.roster.Seated
  quiet : campaign.world.events = []
  ordered : campaign.raids.Pairwise fun earlier later => earlier.tick.toNat ≤ later.tick.toNat
  ahead (raid : Raid) : raid ∈ campaign.raids → campaign.now ≤ raid.tick.toNat

private theorem takeWhile_dropWhile_of_ordered {raids : List Raid} {now : Nat}
    (ordered : raids.Pairwise fun earlier later => earlier.tick.toNat ≤ later.tick.toNat) :
    raids.takeWhile (fun raid => raid.tick.toNat ≤ now) =
        raids.filter (fun raid => raid.tick.toNat ≤ now) ∧
      raids.dropWhile (fun raid => raid.tick.toNat ≤ now) =
        raids.filter fun raid => now < raid.tick.toNat := by
  induction raids with
  | nil => exact ⟨rfl, rfl⟩
  | cons raid raids ih =>
      obtain ⟨least, rest⟩ := List.pairwise_cons.mp ordered
      by_cases due : raid.tick.toNat ≤ now
      · obtain ⟨taken, dropped⟩ := ih rest
        simp [due, taken, dropped]
      · have late : ∀ later ∈ raid :: raids, now < later.tick.toNat := by
          intro later member
          rcases List.mem_cons.mp member with rfl | member
          · exact Nat.lt_of_not_le due
          · exact Nat.lt_of_lt_of_le (Nat.lt_of_not_le due) (least later member)
        constructor
        · rw [List.takeWhile_cons_of_neg (by simpa using due), List.filter_eq_nil_iff.mpr]
          intro later member
          simpa using late later member
        · rw [List.dropWhile_cons_of_neg (by simpa using due), List.filter_eq_self.mpr]
          intro later member
          simpa using late later member

private theorem BetweenTurns.proceed {notices : List Notice} {next : Campaign}
    (ready : campaign.BetweenTurns) (proceeds : campaign.Proceeds notices next journal) :
    next.BetweenTurns where
  seated := proceeds.seated
  quiet := proceeds.quiet
  ordered := by
    rw [proceeds.raids]
    exact ready.ordered.sublist (List.dropWhile_sublist _)
  ahead raid member := by
    rw [proceeds.raids, (takeWhile_dropWhile_of_ordered ready.ordered).2] at member
    rw [proceeds.now]
    exact of_decide_eq_true (List.mem_filter.mp member).2

/-! ### Arrivals -/

/-- The attacks of the turn that comes after so many: each raid of its tick, in the order of the
list, on a ship that is there now and is not taken out in the turns before. -/
def arrivals (campaign : Campaign) (count : Nat) : List (PendingEvent ships) :=
  (campaign.raids.filter fun raid => raid.tick.toNat = campaign.now + count).filterMap fun raid =>
    ((campaign.target? raid).filter fun agent =>
      agent ∉ lost (campaign.turns count).run.journal).map raid.attackOn

private theorem attacks_eq_arrivals (ready : campaign.BetweenTurns) :
    campaign.attacks = campaign.arrivals 0 := by
  unfold attacks arrivals
  rw [(takeWhile_dropWhile_of_ordered ready.ordered).1]
  have current : ∀ raid ∈ campaign.raids, decide (raid.tick.toNat ≤ campaign.now) =
      decide (raid.tick.toNat = campaign.now + 0) := by
    intro raid member
    have late := ready.ahead raid member
    exact decide_eq_decide.mpr (by omega)
  rw [List.filter_congr current]
  refine List.filterMap_congr fun raid _ => ?_
  have nobody : lost (campaign.turns 0).run.journal = [] := rfl
  unfold attack?
  rw [nobody]
  cases campaign.target? raid <;> simp

private theorem arrivals_succ {notices : List Notice} {next : Campaign}
    (ready : campaign.BetweenTurns)
    (proceeds : campaign.Proceeds notices next campaign.turn.run.journal) (count : Nat) :
    campaign.arrivals (count + 1) = next.arrivals count := by
  have journals : (campaign.turns (count + 1)).run.journal =
      campaign.turn.run.journal ++ (next.turns count).run.journal := by
    rw [turns, Play.journal_bind proceeds.turned]
    exact congrArg _ (Play.journal_bind_pure (next.turns count) _)
  have later : ∀ raid : Raid, decide (raid.tick.toNat = campaign.now + (count + 1)) =
      (decide (raid.tick.toNat = next.now + count) && decide (campaign.now < raid.tick.toNat)) := by
    intro raid
    rw [proceeds.now, ← Bool.decide_and]
    exact decide_eq_decide.mpr (by omega)
  unfold arrivals
  rw [proceeds.raids, (takeWhile_dropWhile_of_ordered ready.ordered).2, List.filter_filter,
    List.filter_congr fun raid _ => later raid]
  refine List.filterMap_congr fun raid _ => congrArg _ ?_
  unfold target?
  rw [proceeds.fleet, Option.filter_filter, Option.filter_filter]
  congr 1
  funext agent
  rw [proceeds.there, journals, lost_append]
  simp [Bool.and_assoc]

/-- What a campaign is told and what waits for its ships in each of so many turns. -/
theorem arrivals_of_turns {count : Nat} {answer : Except WorldError (List Notice × Campaign)}
    (ready : campaign.BetweenTurns) (given : (campaign.turns count).run.Gives answer journal) :
    ∃ notices final, answer = .ok (notices, final) ∧
      notices.filterMap Notice.offered? =
        ((List.range count).flatMap fun earlier => (campaign.arrivals earlier).map fun event =>
          (campaign.now + earlier, event.agent, event.name)) ∧
      ∀ earlier < count, ∃ noticed middle posted,
        (campaign.turns earlier).run.outcome = .ok (.ok (noticed, middle)) ∧
        middle.raided.run.outcome = .ok (.ok posted) ∧ posted.now = campaign.now + earlier ∧
        posted.world.events = campaign.arrivals earlier := by
  induction count generalizing campaign journal answer with
  | zero =>
      obtain ⟨rfl, rfl⟩ := Play.gives_pure.mp given
      exact ⟨[], campaign, rfl, rfl, fun earlier before => absurd before (Nat.not_lt_zero _)⟩
  | succ count ih =>
      obtain ⟨_, early, rest, turning, rfl, given⟩ := Play.gives_bind given
      obtain ⟨notices, next, rfl, proceeds⟩ := proceeds_of_turn ready.seated ready.quiet turning
      obtain ⟨_, late, last, others, rfl, given⟩ := Play.gives_bind given
      obtain ⟨later, final, rfl, offered, told⟩ := ih (ready.proceed proceeds) others
      obtain ⟨rfl, rfl⟩ := Play.gives_pure.mp given
      rw [← turning.journal_eq] at proceeds
      have shift := arrivals_succ ready proceeds
      have current := attacks_eq_arrivals ready
      refine ⟨notices ++ later, final, rfl, ?_, ?_⟩
      · rw [List.filterMap_append, proceeds.offered, offered, List.range_succ_eq_map,
          List.flatMap_cons, List.flatMap_map, current, Nat.add_zero]
        congr 1
        refine List.flatMap_congr fun earlier _ => ?_
        rw [shift, proceeds.now, Nat.succ_eq_add_one, Nat.add_assoc, Nat.add_comm 1]
      · intro earlier before
        cases earlier with
        | zero =>
            refine ⟨[], campaign, _, rfl, proceeds.raided, rfl, ?_⟩
            change campaign.world.events ++ campaign.attacks = _
            rw [ready.quiet, List.nil_append, current]
        | succ earlier =>
            obtain ⟨noticed, middle, posted, reached, raided, now, events⟩ :=
              told earlier (Nat.lt_of_succ_lt_succ before)
            refine ⟨notices ++ noticed, middle, posted, ?_, raided, ?_,
              events.trans (shift _).symm⟩
            · rw [turns, Play.outcome_bind turning.outcome, Play.outcome_bind reached]
              rfl
            · rw [now, proceeds.now, Nat.add_assoc, Nat.add_comm 1]

private theorem handled_add_unhandled (notices : List Notice) :
    (Tally.ofNotices notices).handled + (Tally.ofNotices notices).unhandled =
      (notices.filterMap Notice.offered?).length := by
  have counted (tally : Tally) :
      (notices.foldl Tally.count tally).handled + (notices.foldl Tally.count tally).unhandled =
        tally.handled + tally.unhandled + (notices.filterMap Notice.offered?).length := by
    induction notices generalizing tally with
    | nil => rfl
    | cons notice notices ih =>
        rw [List.foldl_cons, ih]
        cases notice with
        | event tick agent name handled =>
            rw [List.filterMap_cons_some (f := Notice.offered?) rfl, List.length_cons]
            cases handled <;> simp only [Tally.count] <;> omega
        | reconsider tick agent outcome => cases outcome <;> rfl
        | tickStart tick => rfl
        | tickEnd tick fired => rfl
        | runEnd tick => rfl
  rw [Tally.ofNotices, counted]
  exact Nat.zero_add _

/-! ### Launches -/

/-- The raids as they are taken up: by their ticks, and else as they are written down. -/
def byTick (raids : List Raid) : List Raid :=
  raids.mergeSort fun earlier later => earlier.tick ≤ later.tick

private theorem tick_le_trans (first second third : Raid)
    (early : decide (first.tick ≤ second.tick))
    (late : decide (second.tick ≤ third.tick)) : decide (first.tick ≤ third.tick) :=
  decide_eq_true (UInt64.le_trans (of_decide_eq_true early) (of_decide_eq_true late))

private theorem tick_le_total (first second : Raid) :
    decide (first.tick ≤ second.tick) || decide (second.tick ≤ first.tick) := by
  rw [← Bool.decide_or]
  exact decide_eq_true (UInt64.le_total _ _)

private theorem pairwise_byTick (raids : List Raid) :
    (byTick raids).Pairwise fun earlier later => earlier.tick.toNat ≤ later.tick.toNat :=
  (List.pairwise_mergeSort tick_le_trans tick_le_total raids).imp fun ordered =>
    UInt64.le_iff_toNat_le.mp (of_decide_eq_true ordered)

private theorem filter_byTick (raids : List Raid) (tick : Nat) :
    (byTick raids).filter (fun raid => raid.tick.toNat = tick) =
      raids.filter fun raid => raid.tick.toNat = tick := by
  let during (raid : Raid) : Bool := raid.tick.toNat = tick
  have together : (raids.filter during).Pairwise fun earlier later =>
      decide (earlier.tick ≤ later.tick) := by
    refine List.pairwise_of_forall_mem_list fun earlier first later second => ?_
    have same := (of_decide_eq_true (List.mem_filter.mp first).2).trans
      (of_decide_eq_true (List.mem_filter.mp second).2).symm
    exact decide_eq_true (UInt64.le_iff_toNat_le.mpr (Nat.le_of_eq same))
  have kept : (raids.filter during).Sublist (byTick raids) :=
    List.sublist_mergeSort tick_le_trans tick_le_total together List.filter_sublist
  have found : (raids.filter during).Sublist ((byTick raids).filter during) := by
    have twice := kept.filter during
    rwa [List.filter_filter, List.filter_congr fun raid _ => Bool.and_self (during raid)] at twice
  have many : ((byTick raids).filter during).length = (raids.filter during).length :=
    ((List.mergeSort_perm raids _).filter during).length_eq
  exact (found.eq_of_length many.symm).symm

private structure Begins (scenario : Scenario) (campaign : Campaign) : Prop where
  ready : campaign.BetweenTurns
  now : campaign.now = 0
  config : campaign.world.config = scenario.config
  raids : campaign.raids = byTick scenario.raids
  seats : campaign.fleet.map AgentId.index = List.range scenario.ships.length
  there : ∀ agent ∈ campaign.fleet, (campaign.world.controller? agent).isSome = true

private theorem begins_of_launch {scenario : Scenario}
    (given : (launch scenario).run.Gives (.ok campaign) journal) : Begins scenario campaign := by
  obtain ⟨world, created, mans, raids⟩ := gives_launch given
  obtain ⟨_, zero⟩ := World.keeps_of_create created
  obtain ⟨_, _, _, _, fresh⟩ := World.of_create created
  have empty : world.roster.controllers.size = 0 := by rw [fresh]; rfl
  have now : campaign.now = 0 := by rw [Campaign.now, mans.clock, zero]
  refine ⟨⟨mans.seated ?_, ?_, ?_, fun raid _ => ?_⟩, now, ?_, raids, ?_, mans.there⟩
  · intro index controller member
    rw [Array.getElem?_eq_none (empty ▸ Nat.zero_le _)] at member
    cases member
  · rw [mans.events, fresh]
  · rw [raids]
    exact pairwise_byTick _
  · exact Nat.le_trans (Nat.le_of_eq now) (Nat.zero_le _)
  · rw [mans.config, fresh]
  · rw [mans.seats, empty, List.range_eq_range']

/-- The attacks that the raids have for a tick: each raid of that tick, as they are written down, on
its own ship, but for raids on a ship that never was and on one that has been taken out in the
ticks before. -/
def strikes (campaign : Campaign) (raids : List Raid) (tick : Nat) : List (PendingEvent ships) :=
  (raids.filter fun raid => raid.tick.toNat = tick).filterMap fun raid =>
    (campaign.fleet[raid.ship.toNat]?.filter fun agent =>
      agent ∉ lost (campaign.turns tick).run.journal).map raid.attackOn

private theorem Begins.arrivals_eq {scenario : Scenario} (begins : Begins scenario campaign)
    (tick : Nat) : campaign.arrivals tick = campaign.strikes scenario.raids tick := by
  unfold arrivals strikes
  rw [begins.now, begins.raids, Nat.zero_add, filter_byTick]
  refine List.filterMap_congr fun raid _ => ?_
  have present : campaign.target? raid = campaign.fleet[raid.ship.toNat]? := by
    unfold target?
    cases aimed : campaign.fleet[raid.ship.toNat]? with
    | none => rfl
    | some target => exact Option.filter_some_pos (begins.there target (List.mem_of_getElem? aimed))
  rw [present]

/-- Raids are neither lost nor doubled nor put off. However they are written down and whatever the
ships do, the events that a campaign offers are the attacks of each tick before the end, one tick
after the other and within a tick in the order of the list; each waits for its ship with its own
attacker and damage when its tick begins, and all of them are counted. -/
theorem raids_of_playOut {scenario : Scenario}
    {answer : Except WorldError (List Notice × Campaign)}
    (launched : (launch scenario).run.outcome = .ok (.ok campaign))
    (played : campaign.playOut.run.outcome = .ok answer) :
    let ticks := List.range scenario.config.totalTicks.toNat
    let strikes := campaign.strikes scenario.raids
    campaign.fleet.map AgentId.index = List.range scenario.ships.length ∧
      ∃ notices final, answer = .ok (notices, final) ∧
        notices.filterMap Notice.offered? =
          (ticks.flatMap fun tick => (strikes tick).map fun event =>
            (tick, event.agent, event.name)) ∧
        (∀ tick < scenario.config.totalTicks.toNat, ∃ noticed middle posted,
          (campaign.turns tick).run.outcome = .ok (.ok (noticed, middle)) ∧
          middle.raided.run.outcome = .ok (.ok posted) ∧
          posted.now = tick ∧ posted.world.events = strikes tick) ∧
        (Tally.ofNotices notices).handled + (Tally.ofNotices notices).unhandled =
          (ticks.flatMap strikes).length := by
  intro ticks strikes
  have begins := begins_of_launch (Journaled.gives_of_outcome launched)
  have length : campaign.world.config.endTick.index - campaign.world.clock.now.index =
      scenario.config.totalTicks.toNat := by
    rw [begins.config, show campaign.world.clock.now.index = 0 from begins.now]
    rfl
  unfold playOut at played
  rw [length] at played
  obtain ⟨notices, final, rfl, offered, told⟩ :=
    arrivals_of_turns begins.ready (Journaled.gives_of_outcome played)
  have arrivals : campaign.arrivals = strikes := funext begins.arrivals_eq
  have settled : notices.filterMap Notice.offered? =
      ticks.flatMap fun tick => (strikes tick).map fun event =>
        (tick, event.agent, event.name) := by
    rw [offered, arrivals, begins.now]
    simp only [Nat.zero_add, ticks]
  refine ⟨begins.seats, notices, final, rfl, settled, fun tick before => ?_, ?_⟩
  · obtain ⟨noticed, middle, posted, reached, raided, now, events⟩ := told tick before
    rw [begins.now, Nat.zero_add] at now
    exact ⟨noticed, middle, posted, reached, raided, now, events.trans (congrFun arrivals tick)⟩
  · rw [handled_add_unhandled, settled, List.length_flatMap, List.length_flatMap]
    simp only [List.length_map]

/-- Six raids, listed in no order. One is beyond the end and one is on a ship that never was; the
second ship goes down in tick 2, so the raid on it in tick 3 finds nobody. -/
theorem raids_of_playOut_shuffled :
    let scenario : Scenario :=
      { config := { Config.standard with totalTicks := 4 }
        ships := ["Viper", "Cobra"]
        raids :=
          [{ tick := 9, ship := 0, attacker := "Krait", damage := 5 },
            { tick := 2, ship := 1, attacker := "Krait", damage := 200 },
            { tick := 3, ship := 1, attacker := "Krait", damage := 5 },
            { tick := 1, ship := 1, attacker := "Mamba", damage := 20 },
            { tick := 1, ship := 7, attacker := "Mamba", damage := 5 },
            { tick := 1, ship := 0, attacker := "Krait", damage := 30 }] }
    ∃ campaign notices final,
      (launch scenario).run.outcome = .ok (.ok campaign) ∧
      campaign.playOut.run.outcome = .ok (.ok (notices, final)) ∧
      notices.filterMap Notice.offered? =
        [(1, ⟨1, by decide⟩, shipBeingAttacked), (1, ⟨0, by decide⟩, shipBeingAttacked),
          (2, ⟨1, by decide⟩, shipBeingAttacked)] ∧
      (Tally.ofNotices notices).handled + (Tally.ofNotices notices).unhandled = 3 := by
  intro scenario
  have sorted : (scenario.raids.mergeSort fun earlier later => earlier.tick ≤ later.tick) =
      [{ tick := 1, ship := 1, attacker := "Mamba", damage := 20 },
        { tick := 1, ship := 7, attacker := "Mamba", damage := 5 },
        { tick := 1, ship := 0, attacker := "Krait", damage := 30 },
        { tick := 2, ship := 1, attacker := "Krait", damage := 200 },
        { tick := 3, ship := 1, attacker := "Krait", damage := 5 },
        { tick := 9, ship := 0, attacker := "Krait", damage := 5 }] := by
    simp [scenario, List.mergeSort]
  obtain ⟨reached, launched, rest⟩ : ∃ reached, (launch scenario).run.outcome = .ok reached ∧
      (reached.toOption.any fun campaign => campaign.playOut.run.outcome.toOption.any fun _ =>
        decide ((List.range 4).flatMap (fun tick =>
          (campaign.strikes scenario.raids tick).map fun event =>
            (tick, event.agent, event.name)) =
          [(1, ⟨1, by decide⟩, shipBeingAttacked), (1, ⟨0, by decide⟩, shipBeingAttacked),
            (2, ⟨1, by decide⟩, shipBeingAttacked)] ∧
          ((List.range 4).flatMap (campaign.strikes scenario.raids)).length = 3)) = true := by
    unfold launch
    rw [sorted]
    exact exists_ok (by decide +kernel)
  obtain ⟨campaign, rfl, voyage⟩ := exists_ok rest
  obtain ⟨answer, played, account⟩ := exists_ok voyage
  obtain ⟨struck, many⟩ := of_decide_eq_true account
  obtain ⟨_, notices, final, rfl, offered, _, counted⟩ := raids_of_playOut launched played
  exact ⟨campaign, notices, final, launched, played, offered.trans struck, counted.trans many⟩

end Campaign

end PriorityAgents.Patrol
