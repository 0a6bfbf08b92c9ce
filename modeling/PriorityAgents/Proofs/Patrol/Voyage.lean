import PriorityAgents.Patrol.Campaign
import PriorityAgents.Proofs.Patrol.Watchkeeping
import PriorityAgents.Proofs.World.Offers

/-!
Campaigns from the launch to the end.

Between two turns every ship that is there is afloat and nothing waits to be delivered. In a turn
only attacks are posted; the tick leaves wrecks with a reconsideration that is still to come, and
they are cleared away before it can come due.
-/

set_option autoImplicit false

namespace PriorityAgents.Patrol

variable {α β : Type} {journal : List Entry} {campaign posted : Campaign} {issued : Nat}
  {docket : Docket}

/-! ### Computations that a world may refuse -/

namespace Play

theorem gives_bind {first : Play α} {next : α → Play β} {answer : Except WorldError β}
    (given : (first >>= next).run.Gives answer journal) :
    ∃ reached early late, first.run.Gives reached early ∧ journal = early ++ late ∧
      match reached with
      | .ok middle => (next middle).run.Gives answer late
      | .error cause => answer = .error cause ∧ late = [] := by
  rw [ExceptT.run_bind] at given
  obtain ⟨reached, early, late, ran, rest, rfl⟩ := Journaled.gives_bind.mp given
  refine ⟨reached, early, late, ran, rfl, ?_⟩
  cases reached with
  | ok middle => exact rest
  | error cause =>
      obtain ⟨same, rfl⟩ := Journaled.gives_pure.mp rest
      exact ⟨same.symm, rfl⟩

theorem gives_pure {reached : α} {answer : Except WorldError α} :
    (pure reached : Play α).run.Gives answer journal ↔ answer = .ok reached ∧ journal = [] := by
  rw [ExceptT.run_pure, Journaled.gives_pure, eq_comm]

private theorem gives_lift {logged : Logged α} {answer : Except WorldError α} :
    (liftM logged : Play α).run.Gives answer journal ↔
      ∃ reached, logged.Gives reached journal ∧ answer = .ok reached := by
  change (Except.ok <$> logged : Logged (Except WorldError α)).Gives answer journal ↔ _
  rw [Journaled.gives_map]
  simp only [eq_comm]

private theorem gives_settled {outcome answer : Except WorldError α} :
    (ExceptT.mk (pure outcome) : Play α).run.Gives answer journal ↔
      answer = outcome ∧ journal = [] := by
  change (pure outcome : Logged (Except WorldError α)).Gives answer journal ↔ _
  rw [Journaled.gives_pure, eq_comm]

theorem outcome_bind {first : Play α} {next : α → Play β} {middle : α}
    (reached : first.run.outcome = .ok (.ok middle)) :
    (first >>= next).run.outcome = (next middle).run.outcome := by
  rw [ExceptT.run_bind, Journaled.outcome_bind, reached]
  rfl

theorem journal_bind {first : Play α} {next : α → Play β} {middle : α}
    (reached : first.run.outcome = .ok (.ok middle)) :
    (first >>= next).run.journal = first.run.journal ++ (next middle).run.journal := by
  rw [ExceptT.run_bind]
  change (Journaled.bind first.run _).journal = _
  unfold Journaled.bind
  rw [reached]
  exact Journaled.continued_eq _ _

theorem journal_bind_pure (first : Play α) (change : α → β) :
    (first >>= fun answer => pure (change answer)).run.journal = first.run.journal := by
  rw [ExceptT.run_bind]
  generalize first.run = ran
  obtain ⟨outcome, journal⟩ := ran
  rcases outcome with fault | refused | answer <;> rfl

end Play

def Raid.attackOn (raid : Raid) (agent : AgentId) : PendingEvent ships where
  agent
  name := shipBeingAttacked
  payload := { attacker := raid.attacker, damage := raid.damage }

namespace Campaign

def now (campaign : Campaign) : Nat := campaign.world.clock.now.index

def raided (campaign : Campaign) : Play Campaign :=
  let due (raid : Raid) : Bool := raid.tick.toNat ≤ campaign.world.clock.now.index
  (campaign.raids.takeWhile due).foldlM postRaid
    { campaign with raids := campaign.raids.dropWhile due }

private def cleared (campaign : Campaign) : Play Campaign :=
  campaign.wrecks.foldlM clearWreck campaign

private theorem turn_eq (campaign : Campaign) :
    campaign.turn = (do
      let posted ← campaign.raided
      let (notices, world) ← posted.world.step repertoire
      let cleared ← { posted with world }.cleared
      pure (notices, cleared)) := rfl

/-! ### Raids -/

def target? (campaign : Campaign) (raid : Raid) : Option AgentId :=
  campaign.fleet[raid.ship.toNat]?.filter fun agent => (campaign.world.controller? agent).isSome

def attack? (campaign : Campaign) (raid : Raid) : Option (PendingEvent ships) :=
  (campaign.target? raid).map raid.attackOn

def awaiting (campaign : Campaign) (events : List (PendingEvent ships)) : Campaign :=
  { campaign with
    world := { campaign.world with events := campaign.world.events ++ events } }

theorem awaiting_nil (campaign : Campaign) : campaign.awaiting [] = campaign := by
  unfold awaiting
  rw [List.append_nil]

private theorem awaiting_awaiting (campaign : Campaign) (first second : List (PendingEvent ships)) :
    (campaign.awaiting first).awaiting second = campaign.awaiting (first ++ second) := by
  unfold awaiting
  rw [List.append_assoc]

private theorem posted_of_postRaid {raid : Raid} {answer : Except WorldError Campaign}
    (given : (campaign.postRaid raid).run.Gives answer journal) :
    answer = .ok (campaign.awaiting (campaign.attack? raid).toList) ∧
      ∀ entry ∈ journal, entry.IsSilent := by
  have passed (missed : campaign.target? raid = none) :
      Except.ok campaign = (.ok (campaign.awaiting (campaign.attack? raid).toList) :
        Except WorldError Campaign) := by
    rw [attack?, missed]
    exact congrArg Except.ok campaign.awaiting_nil.symm
  unfold postRaid at given
  cases aimed : campaign.fleet[raid.ship.toNat]? with
  | none =>
      rw [aimed] at given
      obtain ⟨_, early, late, reporting, rfl, rest⟩ := Play.gives_bind given
      obtain ⟨_, told, rfl⟩ := Play.gives_lift.mp reporting
      obtain ⟨rfl, rfl⟩ := Play.gives_pure.mp rest
      refine ⟨passed (congrArg (Option.filter _) aimed), fun entry member => ?_⟩
      rw [Logged.gives_report.mp told, List.append_nil, List.mem_singleton] at member
      rw [member]
      exact trivial
  | some target =>
      rw [aimed] at given
      have aims : campaign.target? raid =
          (some target).filter fun agent => (campaign.world.controller? agent).isSome :=
        congrArg (Option.filter _) aimed
      by_cases there : (campaign.world.controller? target).isSome = true
      · simp only [if_pos there] at given
        obtain ⟨_, _, _, posting, rfl, rest⟩ := Play.gives_bind given
        obtain ⟨rfl, rfl⟩ := Play.gives_settled.mp posting
        obtain ⟨controller, occupied⟩ := Option.isSome_iff_exists.mp there
        unfold World.post at rest
        rw [occupied] at rest
        obtain ⟨rfl, rfl⟩ := Play.gives_pure.mp rest
        rw [attack?, show campaign.target? raid = some target from
          aims.trans (Option.filter_some_pos there)]
        exact ⟨rfl, nofun⟩
      · simp only [if_neg there] at given
        obtain ⟨rfl, rfl⟩ := Play.gives_pure.mp given
        have none : campaign.target? raid = none :=
          aims.trans (Option.filter_some_neg (Bool.eq_false_of_not_eq_true there))
        exact ⟨passed none, nofun⟩

private theorem posted_of_postRaids {raids : List Raid} {answer : Except WorldError Campaign}
    (given : (raids.foldlM postRaid campaign).run.Gives answer journal) :
    answer = .ok (campaign.awaiting (raids.filterMap campaign.attack?)) ∧
      ∀ entry ∈ journal, entry.IsSilent := by
  induction raids generalizing campaign journal with
  | nil =>
      obtain ⟨rfl, rfl⟩ := Play.gives_pure.mp given
      exact ⟨congrArg Except.ok campaign.awaiting_nil.symm, nofun⟩
  | cons raid raids ih =>
      rw [List.foldlM_cons] at given
      obtain ⟨_, early, late, posting, rfl, rest⟩ := Play.gives_bind given
      obtain ⟨rfl, first⟩ := posted_of_postRaid posting
      obtain ⟨rfl, others⟩ := ih rest
      -- What has been posted so far has no part in who is there.
      have same : (campaign.awaiting (campaign.attack? raid).toList).attack? = campaign.attack? :=
        rfl
      refine ⟨?_, List.forall_mem_append.mpr ⟨first, others⟩⟩
      rw [same, awaiting_awaiting]
      cases attack : campaign.attack? raid with
      | none => rw [List.filterMap_cons_none attack, Option.toList_none, List.nil_append]
      | some event => rw [List.filterMap_cons_some attack]; rfl

def attacks (campaign : Campaign) : List (PendingEvent ships) :=
  (campaign.raids.takeWhile fun raid => raid.tick.toNat ≤ campaign.now).filterMap
    campaign.attack?

/-- What is posted when the raids of a tick come up, and what remains. -/
def raiding (campaign : Campaign) : Campaign :=
  { campaign with
    raids := campaign.raids.dropWhile fun raid => raid.tick.toNat ≤ campaign.now }.awaiting
      campaign.attacks

private theorem raiding_of_raided {answer : Except WorldError Campaign}
    (given : campaign.raided.run.Gives answer journal) :
    answer = .ok campaign.raiding ∧ ∀ entry ∈ journal, entry.IsSilent :=
  posted_of_postRaids given

def Attacked (campaign posted : Campaign) : Prop :=
  ∃ attacks, posted.world = { campaign.world with events := campaign.world.events ++ attacks } ∧
    ∀ event ∈ attacks, event.name = shipBeingAttacked

private theorem attacked_raiding (campaign : Campaign) : campaign.Attacked campaign.raiding := by
  refine ⟨campaign.attacks, rfl, fun event member => ?_⟩
  obtain ⟨raid, _, found⟩ := List.mem_filterMap.mp member
  obtain ⟨target, _, rfl⟩ := Option.map_eq_some_iff.mp found
  rfl

/-! ### Wrecks -/

/-- Some are taken out of the world, and nothing else is done. -/
structure Clears (campaign : Campaign) (agents : List AgentId) (later : Campaign)
    (journal : List Entry) : Prop where
  fleet : later.fleet = campaign.fleet
  raids : later.raids = campaign.raids
  clock : later.world.clock = campaign.world.clock
  events : later.world.events = campaign.world.events
  lost : lost journal = agents
  slots (agent : AgentId) : later.world.controller? agent =
    if agent ∈ agents then none else campaign.world.controller? agent
  seated : campaign.world.roster.Seated → later.world.roster.Seated
  keeps {issued : Nat} {docket : Docket} : campaign.world.Keeps issued docket →
    issued + journal.countP Entry.isArming ≤ 2 ^ 32 - 1 →
    later.world.Keeps (issued + journal.countP Entry.isArming) (docket.read journal)

private theorem Clears.nobody (campaign : Campaign) : campaign.Clears [] campaign [] :=
  ⟨rfl, rfl, rfl, rfl, rfl, fun _ => rfl, id, fun keeps _ => keeps⟩

theorem Clears.cons {middle later : Campaign} {agent : AgentId} {agents : List AgentId}
    {early late : List Entry} (first : campaign.Clears [agent] middle early)
    (rest : middle.Clears agents later late) :
    campaign.Clears (agent :: agents) later (early ++ late) where
  fleet := rest.fleet.trans first.fleet
  raids := rest.raids.trans first.raids
  clock := rest.clock.trans first.clock
  events := rest.events.trans first.events
  lost := by rw [lost_append, first.lost, rest.lost, List.singleton_append]
  slots other := by
    rw [rest.slots, first.slots]
    by_cases same : other = agent
    · rw [if_pos (List.mem_singleton.mpr same), ite_self, if_pos (same ▸ List.mem_cons_self)]
    · simp only [List.mem_cons, List.not_mem_nil, same, false_or, or_false, if_false]
  seated := rest.seated ∘ first.seated
  keeps kept room := by
    rw [List.countP_append] at room ⊢
    rw [Docket.read_append, ← Nat.add_assoc]
    exact rest.keeps (first.keeps kept (by omega)) (by omega)

theorem Clears.there {agents : List AgentId} {later : Campaign}
    (clears : campaign.Clears agents later journal) (agent : AgentId) :
    (later.world.controller? agent).isSome =
      ((campaign.world.controller? agent).isSome && decide (agent ∉ agents)) := by
  rw [clears.slots]
  by_cases gone : agent ∈ agents
  · simp [gone]
  · simp [gone]

private theorem clears_of_clearWreck {agent : AgentId} {answer : Except WorldError Campaign}
    (there : (campaign.world.controller? agent).isSome = true)
    (given : (campaign.clearWreck agent).run.Gives answer journal) :
    ∃ later, answer = .ok later ∧ campaign.Clears [agent] later journal := by
  obtain ⟨_, early, late, destroying, rfl, rest⟩ := Play.gives_bind given
  have destroyed := World.gives_destroy.mp destroying
  obtain ⟨controller, occupied⟩ := Option.isSome_iff_exists.mp there
  have found : campaign.world.roster.context? agent =
      some ⟨controller, campaign.world.roster.timers⟩ :=
    Roster.context?_eq_some.mpr ⟨occupied, rfl⟩
  rw [found] at destroyed
  obtain ⟨_, told, done, first, second, heard, torn, rfl, rfl⟩ := destroyed
  obtain ⟨rfl, rfl⟩ := Play.gives_pure.mp rest
  have own := ((Context.Works.handleEvent heard).trans (Context.Works.teardown torn)).own
  rw [List.append_nil]
  refine ⟨_, rfl, rfl, rfl, rfl, rfl, ?_, fun other => ?_, ?_,
    fun kept room => (kept.destroy destroying room).1⟩
  · rw [lost_append, lost_hushed fun entry member => (own entry member).isHushed]
    rfl
  · refine (Roster.controller?_discharge _ agent done.timers other).trans ?_
    simp only [List.mem_singleton]
    rfl
  · intro seated index controller member
    change (campaign.world.roster.discharge agent done.timers).controllers[index]? = _ at member
    rw [Roster.getElem?_discharge] at member
    split at member
    · obtain ⟨_, _, impossible⟩ := Option.map_eq_some_iff.mp member
      cases impossible
    · exact seated index controller member

private theorem clears_of_clearWrecks {agents : List AgentId} {answer : Except WorldError Campaign}
    (distinct : agents.Nodup)
    (there : ∀ agent ∈ agents, (campaign.world.controller? agent).isSome = true)
    (given : (agents.foldlM clearWreck campaign).run.Gives answer journal) :
    ∃ later, answer = .ok later ∧ campaign.Clears agents later journal := by
  induction agents generalizing campaign journal with
  | nil =>
      obtain ⟨rfl, rfl⟩ := Play.gives_pure.mp given
      exact ⟨campaign, rfl, .nobody campaign⟩
  | cons agent agents ih =>
      rw [List.foldlM_cons] at given
      obtain ⟨_, early, late, clearing, rfl, rest⟩ := Play.gives_bind given
      obtain ⟨middle, rfl, first⟩ := clears_of_clearWreck (there agent List.mem_cons_self) clearing
      obtain ⟨fresh, others⟩ := List.nodup_cons.mp distinct
      have remain : ∀ other ∈ agents, (middle.world.controller? other).isSome = true := by
        intro other member
        have different : other ∉ [agent] := fun same =>
          fresh (List.mem_singleton.mp same ▸ member)
        rw [first.slots, if_neg different]
        exact there other (List.mem_cons_of_mem _ member)
      obtain ⟨later, rfl, second⟩ := ih others remain rest
      exact ⟨later, rfl, first.cons second⟩

private theorem clears_of_cleared {answer : Except WorldError Campaign}
    (seated : campaign.world.roster.Seated) (given : campaign.cleared.run.Gives answer journal) :
    ∃ later, answer = .ok later ∧ campaign.Clears campaign.wrecks later journal := by
  refine clears_of_clearWrecks (seated.nodup_liveAgents.filter _) ?_ given
  intro agent member
  obtain ⟨controller, occupied, _⟩ := (Option.any_eq_true _ _).mp (List.mem_filter.mp member).2
  exact Option.isSome_iff_exists.mpr ⟨controller, occupied⟩

theorem mem_wrecks (keeps : campaign.world.Keeps issued docket) {agent : AgentId} :
    agent ∈ campaign.wrecks ↔ hullOf campaign.world.roster agent = some 0 := by
  have live : agent ∈ campaign.world.liveAgents ↔
      (campaign.world.controller? agent).isSome = true := keeps.roster.mem_liveAgents
  unfold wrecks hullOf
  rw [List.mem_filter, live]
  change _ ↔ (campaign.world.controller? agent).map _ = some 0
  cases campaign.world.controller? agent with
  | none => simp
  | some controller => simp

private theorem Clears.wreckless {later : Campaign}
    (clears : campaign.Clears campaign.wrecks later journal)
    (keeps : campaign.world.Keeps issued docket) (agent : AgentId) :
    later.world.controller? agent =
      (campaign.world.controller? agent).filter fun controller => controller.agent.hull ≠ 0 := by
  rw [clears.slots]
  cases occupied : campaign.world.controller? agent with
  | none => exact ite_self none
  | some controller =>
      have hull : hullOf campaign.world.roster agent = some controller.agent.hull :=
        congrArg (Option.map _) occupied
      by_cases gone : controller.agent.hull = 0
      · rw [if_pos ((mem_wrecks keeps).mpr (hull.trans (congrArg some gone)))]
        exact (Option.filter_some_neg (by simp [gone])).symm
      · have sound : agent ∉ campaign.wrecks := fun wreck =>
          gone (Option.some.inj (hull.symm.trans ((mem_wrecks keeps).mp wreck)))
        rw [if_neg sound]
        exact (Option.filter_some_pos (by simp [gone])).symm

/-! ### Turns -/

/-- A turn is never refused: the raids that are due are posted, the world ticks and the wrecks are
cleared away. -/
theorem gives_turn {answer : Except WorldError (List Notice × Campaign)}
    (seated : campaign.world.roster.Seated) (given : campaign.turn.run.Gives answer journal) :
    ∃ raiding stepped ticking later clearing,
      answer = .ok (ticking.filterMap Entry.notice?, later) ∧
      journal = raiding ++ (ticking ++ clearing) ∧
      campaign.raided.run.Gives (.ok campaign.raiding) raiding ∧
      (∀ entry ∈ raiding, entry.IsSilent) ∧
      (campaign.raiding.world.tick repertoire).Gives stepped ticking ∧
      let wrecked : Campaign := { campaign.raiding with world := stepped }
      wrecked.Clears wrecked.wrecks later clearing := by
  rw [turn_eq] at given
  obtain ⟨_, raiding, rest, posting, rfl, given⟩ := Play.gives_bind given
  obtain ⟨rfl, silent⟩ := raiding_of_raided posting
  obtain ⟨_, ticking, last, stepping, rfl, given⟩ := Play.gives_bind given
  obtain ⟨⟨notices, stepped⟩, observed, rfl⟩ := Play.gives_lift.mp stepping
  obtain ⟨ticked, rfl⟩ := Logged.gives_observed.mp observed
  obtain ⟨_, clearing, final, clears, rfl, given⟩ := Play.gives_bind given
  obtain ⟨later, rfl, clear⟩ :=
    clears_of_cleared ((World.offers_of_tick ticked).1.seated seated) clears
  obtain ⟨rfl, rfl⟩ := Play.gives_pure.mp given
  rw [List.append_nil]
  exact ⟨raiding, stepped, ticking, later, clearing, rfl, rfl, posting, silent, ticked, clear⟩

/-- What holds between two turns. -/
structure Underway (world : World ships) (issued : Nat) (docket : Docket) : Prop where
  keeps : world.Keeps issued docket
  afloat (agent : AgentId) (controller : Controller ships) :
    world.controller? agent = some controller → Afloat controller
  quiet : world.events = []

/-- A turn that goes as it should, from what is posted in it to what is cleared away. -/
structure Orderly (campaign posted : Campaign) (stepped : World ships)
    (history : List (Happening ships)) (notices : List Notice) (cleared : Campaign) : Prop where
  raided : campaign.raided.run.outcome = .ok (.ok posted)
  attacked : campaign.Attacked posted
  ticked : (posted.world.watchedTick repertoire).Gives stepped history
  turned : campaign.turn.run.outcome = .ok (.ok (notices, cleared))
  noticed : notices = (history.filterMap Happening.entry?).filterMap Entry.notice?
  /-- No wreck is there when the tick begins. -/
  afloat (agent : AgentId) : hullOf posted.world.roster agent ≠ some 0
  sailed : Sailed posted.world stepped history
  /-- The wrecks that the tick has left are taken out, and nobody else. -/
  slots (agent : AgentId) : cleared.world.controller? agent =
    (stepped.controller? agent).filter fun controller => controller.agent.hull ≠ 0
  selected (tick : Tick) (agent : AgentId) (outcome : Reconsideration) :
    .reconsider tick agent outcome ∈ notices → outcome = .selected

private theorem Attacked.ready (attacked : campaign.Attacked posted)
    (underway : Underway campaign.world issued docket) :
    posted.world.Keeps issued docket ∧
      (∀ agent controller, posted.world.controller? agent = some controller → Afloat controller) ∧
      ∀ event ∈ posted.world.events, event.name = shipBeingAttacked := by
  obtain ⟨attacks, world, named⟩ := attacked
  obtain ⟨keeps, afloat, quiet⟩ := underway
  rw [world, quiet]
  exact ⟨⟨keeps.clock, keeps.roster, keeps.behind, keeps.close, keeps.due⟩, afloat, named⟩

private theorem orderly_of_turn {answer : Except WorldError (List Notice × Campaign)}
    (underway : Underway campaign.world issued docket)
    (given : campaign.turn.run.Gives answer journal)
    (room : issued + journal.countP Entry.isArming ≤ 2 ^ 32 - 1) :
    ∃ posted stepped history notices cleared, answer = .ok (notices, cleared) ∧
      campaign.Orderly posted stepped history notices cleared ∧
      Underway cleared.world (issued + journal.countP Entry.isArming) (docket.read journal) := by
  have turned := given.outcome
  obtain ⟨raiding, stepped, ticking, cleared, clearing, rfl, rfl, raided, silent, ticked, clears⟩ :=
    gives_turn underway.keeps.roster.slots given
  rw [List.countP_append, armings_silent silent, Nat.zero_add, List.countP_append] at room
  obtain ⟨keeps, afloat, attacks⟩ := (attacked_raiding campaign).ready underway
  obtain ⟨history, watched, entries, sailed⟩ :=
    sailed_of_tick keeps afloat attacks ticked (by omega)
  have kept : stepped.Keeps _ _ := (keeps.tick ticked (by omega)).1
  have slots := clears.wreckless kept
  refine ⟨campaign.raiding, stepped, history, _, cleared, rfl, ?_, ?_⟩
  · refine
      { raided := raided.outcome
        attacked := attacked_raiding campaign
        ticked := watched
        turned
        noticed := by rw [entries]
        afloat := ?_
        sailed
        slots
        selected := ?_ }
    · intro agent wreck
      obtain ⟨controller, occupied, gone⟩ := Option.map_eq_some_iff.mp wreck
      exact (afloat agent controller occupied).hull gone
    · intro tick agent outcome member
      rw [← entries] at member
      exact sailed.reported member
  · rw [List.countP_append, armings_silent silent, Nat.zero_add, List.countP_append,
      Docket.read_append, Docket.read_silent silent, Docket.read_append, ← Nat.add_assoc]
    refine ⟨clears.keeps kept (by omega), ?_, clears.events.trans sailed.quiet⟩
    intro agent controller occupied
    rw [slots] at occupied
    obtain ⟨there, sound⟩ := Option.filter_eq_some_iff.mp occupied
    exact (sailed.shipshape agent controller there).imp fun _ => of_decide_eq_true sound

def InOrder (campaign : Campaign) : Prop :=
  ∃ posted stepped history notices cleared,
    campaign.Orderly posted stepped history notices cleared

private theorem orderly_of_turns {count : Nat} {answer : Except WorldError (List Notice × Campaign)}
    (underway : Underway campaign.world issued docket)
    (given : (campaign.turns count).run.Gives answer journal)
    (room : issued + journal.countP Entry.isArming ≤ 2 ^ 32 - 1) :
    ∃ notices final, answer = .ok (notices, final) ∧
      (∀ tick agent outcome, .reconsider tick agent outcome ∈ notices → outcome = .selected) ∧
      ∀ earlier < count, ∃ noticed middle,
        (campaign.turns earlier).run.outcome = .ok (.ok (noticed, middle)) ∧ middle.InOrder := by
  induction count generalizing campaign issued docket journal answer with
  | zero =>
      obtain ⟨rfl, rfl⟩ := Play.gives_pure.mp given
      exact ⟨[], campaign, rfl, nofun, fun earlier before => absurd before (Nat.not_lt_zero _)⟩
  | succ count ih =>
      obtain ⟨reached, early, rest, turning, rfl, given⟩ := Play.gives_bind given
      rw [List.countP_append] at room
      obtain ⟨posted, stepped, history, notices, cleared, rfl, orderly, next⟩ :=
        orderly_of_turn underway turning (by omega)
      obtain ⟨reached, late, last, others, rfl, given⟩ := Play.gives_bind given
      rw [List.countP_append] at room
      obtain ⟨later, final, rfl, selected, inOrder⟩ := ih next others (by omega)
      obtain ⟨rfl, rfl⟩ := Play.gives_pure.mp given
      refine ⟨notices ++ later, final, rfl, ?_, ?_⟩
      · intro tick agent outcome member
        rcases List.mem_append.mp member with before | after
        · exact orderly.selected tick agent outcome before
        · exact selected tick agent outcome after
      · intro earlier before
        cases earlier with
        | zero => exact ⟨[], campaign, rfl, posted, stepped, history, notices, cleared, orderly⟩
        | succ earlier =>
            obtain ⟨noticed, middle, reached, well⟩ :=
              inOrder earlier (Nat.lt_of_succ_lt_succ before)
            refine ⟨notices ++ noticed, middle, ?_, well⟩
            rw [turns, Play.outcome_bind turning.outcome, Play.outcome_bind reached]
            rfl

/-! ### Launches -/

structure Mans (world : World ships) (count : Nat) (fleet : List AgentId) (later : World ships)
    (journal : List Entry) : Prop where
  config : later.config = world.config
  clock : later.clock = world.clock
  events : later.events = world.events
  size : later.roster.controllers.size = world.roster.controllers.size + count
  seats : fleet.map AgentId.index = List.range' world.roster.controllers.size count
  there : ∀ agent ∈ fleet, (later.controller? agent).isSome = true
  stay (agent : AgentId) :
    (world.controller? agent).isSome = true → (later.controller? agent).isSome = true
  seated : world.roster.Seated → later.roster.Seated
  underway {issued : Nat} {docket : Docket} : Underway world issued docket →
    issued + journal.countP Entry.isArming ≤ 2 ^ 32 - 1 →
    Underway later (issued + journal.countP Entry.isArming) (docket.read journal)

private theorem Mans.nobody (world : World ships) : Mans world 0 [] world [] :=
  ⟨rfl, rfl, rfl, rfl, rfl, fun _ member => absurd member List.not_mem_nil, fun _ => id, id,
    fun underway _ => underway⟩

theorem Mans.cons {world middle later : World ships} {agent : AgentId} {agents : List AgentId}
    {count : Nat} {early late : List Entry} (first : Mans world 1 [agent] middle early)
    (rest : Mans middle count agents later late) :
    Mans world (count + 1) (agent :: agents) later (early ++ late) where
  config := rest.config.trans first.config
  clock := rest.clock.trans first.clock
  events := rest.events.trans first.events
  size := by rw [rest.size, first.size, Nat.add_assoc, Nat.add_comm 1]
  seats := by
    rw [List.map_cons, rest.seats, first.size, List.range'_succ]
    exact congrArg (· :: _) (List.cons.inj first.seats).1
  there := by
    intro other member
    rcases List.mem_cons.mp member with rfl | member
    · exact rest.stay _ (first.there _ List.mem_cons_self)
    · exact rest.there other member
  stay other before := rest.stay other (first.stay other before)
  seated := rest.seated ∘ first.seated
  underway begun room := by
    rw [List.countP_append] at room ⊢
    rw [Docket.read_append, ← Nat.add_assoc]
    exact rest.underway (first.underway begun (by omega)) (by omega)

private theorem mans_of_spawn {world later : World ships} {callsign name : String} {agent : AgentId}
    (given : (world.spawn repertoire (.fresh callsign) name start).Gives (.ok (agent, later))
      journal) : Mans world 1 [agent] later journal := by
  have spawned := World.gives_spawn.mp given
  cases free : World.agentIdFor world.roster.controllers.size with
  | error cause =>
      rw [free] at spawned
      cases spawned.1
  | ok identity =>
      rw [free] at spawned
      obtain ⟨done, entries, ran, same, _⟩ := spawned
      cases same
      have id : done.controller.id = agent := (Context.Works.run ran).id
      have next : agent.index = world.roster.controllers.size :=
        (World.agentIdFor_eq_ok.mp free).1
      have last : done.controller.id.index =
          (world.roster.advanceTo world.clock.now).controllers.size := id ▸ next
      have slots (other : AgentId) : ((world.roster.advanceTo world.clock.now).enlist
          done).controller? other =
            if other = agent then some done.controller else world.controller? other := by
        rw [Roster.controller?_enlist last, id]
        rfl
      refine ⟨rfl, rfl, rfl, Array.size_push _, ?_, ?_, fun other before => ?_, ?_,
        fun begun room => ⟨(begun.keeps.spawn given room).1, fun other controller occupied => ?_,
          begun.quiet⟩⟩
      · rw [List.map_singleton, next]
        rfl
      · intro other member
        rw [List.mem_singleton.mp member]
        exact congrArg Option.isSome ((slots agent).trans (if_pos rfl))
      · refine (congrArg Option.isSome (slots other)).trans ?_
        split
        · rfl
        · exact before
      · intro seated
        have before : (world.roster.advanceTo world.clock.now).Seated := seated
        exact before.enlist last
      · have fresh : New (world.newcomer agent (.fresh callsign) name).controller :=
          ⟨(by decide : (100 : UInt32) ≠ 0), Std.ExtTreeMap.getElem?_empty⟩
        by_cases newcomer : other = agent
        · cases ((slots other).trans (if_pos newcomer)).symm.trans occupied
          exact start_meets _ _ _ _ ran fresh
        · exact begun.afloat other controller
            (((slots other).trans (if_neg newcomer)).symm.trans occupied)

private theorem mans_of_launchAll {callsigns : List String} {world later : World ships}
    {fleet : List AgentId}
    (given : (launchAll callsigns world).run.Gives (.ok (fleet, later)) journal) :
    Mans world callsigns.length fleet later journal := by
  induction callsigns generalizing world journal fleet with
  | nil =>
      obtain ⟨same, rfl⟩ := Play.gives_pure.mp given
      cases same
      exact .nobody _
  | cons callsign callsigns ih =>
      obtain ⟨reached, _, _, spawned, rfl, given⟩ := Play.gives_bind given
      cases reached with
      | error cause => cases given.1
      | ok first =>
          obtain ⟨reached, _, _, others, rfl, given⟩ := Play.gives_bind given
          cases reached with
          | error cause => cases given.1
          | ok second =>
              obtain ⟨same, rfl⟩ := Play.gives_pure.mp given
              cases same
              rw [List.append_nil]
              exact (mans_of_spawn spawned).cons (ih others)

theorem gives_launch {scenario : Scenario}
    (given : (launch scenario).run.Gives (.ok campaign) journal) :
    ∃ world, World.create scenario.config none = .ok world ∧
      Mans world scenario.ships.length campaign.fleet campaign.world journal ∧
      campaign.raids = scenario.raids.mergeSort fun earlier later => earlier.tick ≤ later.tick := by
  obtain ⟨_, _, _, creating, rfl, following⟩ := Play.gives_bind given
  obtain ⟨rfl, rfl⟩ := Play.gives_settled.mp creating
  cases created : World.create scenario.config none with
  | error cause =>
      rw [created] at following
      cases following.1
  | ok world =>
      rw [created] at following
      obtain ⟨reached, _, _, launching, rfl, final⟩ := Play.gives_bind following
      cases reached with
      | error cause => cases final.1
      | ok launched =>
          obtain ⟨same, rfl⟩ := Play.gives_pure.mp final
          cases same
          rw [List.append_nil, List.nil_append]
          exact ⟨world, rfl, mans_of_launchAll launching, rfl⟩

private theorem underway_of_launch {scenario : Scenario}
    (given : (launch scenario).run.Gives (.ok campaign) journal)
    (room : journal.countP Entry.isArming ≤ 2 ^ 32 - 1) :
    (∃ docket, Underway campaign.world (journal.countP Entry.isArming) docket) ∧
      campaign.world.config = scenario.config ∧ campaign.world.clock.now.index = 0 := by
  obtain ⟨world, created, mans, _⟩ := gives_launch given
  obtain ⟨keeps, zero⟩ := World.keeps_of_create created
  obtain ⟨_, _, _, _, fresh⟩ := World.of_create created
  have begun : Underway world 0 ⟨world.clock, []⟩ := by
    refine ⟨keeps, ?_, ?_⟩
    · rw [fresh]
      exact nofun
    · rw [fresh]
  have underway := mans.underway begun (by omega)
  rw [Nat.zero_add] at underway
  refine ⟨⟨_, underway⟩, ?_, ?_⟩
  · rw [mans.config, fresh]
  · rw [mans.clock, zero]

private theorem tally_of_selected {notices : List Notice} (tally : Tally)
    (selected : ∀ tick agent outcome, .reconsider tick agent outcome ∈ notices →
      outcome = .selected) :
    let final := notices.foldl Tally.count tally
    final.noMatch = tally.noMatch ∧ final.gone = tally.gone ∧ final.stale = tally.stale := by
  induction notices generalizing tally with
  | nil => exact ⟨rfl, rfl, rfl⟩
  | cons notice notices ih =>
      have rest := ih (tally.count notice) fun tick agent outcome member =>
        selected tick agent outcome (List.mem_cons_of_mem _ member)
      have same : (tally.count notice).noMatch = tally.noMatch ∧
          (tally.count notice).gone = tally.gone ∧ (tally.count notice).stale = tally.stale := by
        cases notice with
        | reconsider tick agent outcome =>
            rw [selected tick agent outcome List.mem_cons_self]
            exact ⟨rfl, rfl, rfl⟩
        | event tick agent name handled => cases handled <;> exact ⟨rfl, rfl, rfl⟩
        | tickStart tick => exact ⟨rfl, rfl, rfl⟩
        | tickEnd tick fired => exact ⟨rfl, rfl, rfl⟩
        | runEnd tick => exact ⟨rfl, rfl, rfl⟩
      exact ⟨rest.1.trans same.1, rest.2.1.trans same.2.1, rest.2.2.trans same.2.2⟩

/-- Whatever ships there are and however they are raided, a campaign that is played out to its end
finds every reconsideration answered with a behaviour, and every one of its turns goes as it
should. -/
theorem orderly_of_playOut {scenario : Scenario}
    {answer : Except WorldError (List Notice × Campaign)}
    (launched : (launch scenario).run.outcome = .ok (.ok campaign))
    (played : campaign.playOut.run.outcome = .ok answer)
    (few : (launch scenario).run.armings + campaign.playOut.run.armings ≤ 2 ^ 32 - 1) :
    ∃ notices final, answer = .ok (notices, final) ∧
      (Tally.ofNotices notices).noMatch = 0 ∧ (Tally.ofNotices notices).gone = 0 ∧
      (Tally.ofNotices notices).stale = 0 ∧
      (∀ tick agent outcome, .reconsider tick agent outcome ∈ notices → outcome = .selected) ∧
      ∀ count < scenario.config.totalTicks.toNat, ∃ noticed middle,
        (campaign.turns count).run.outcome = .ok (.ok (noticed, middle)) ∧ middle.InOrder := by
  have room : (launch scenario).run.journal.countP Entry.isArming +
      campaign.playOut.run.journal.countP Entry.isArming ≤ 2 ^ 32 - 1 := few
  obtain ⟨⟨docket, underway⟩, config, zero⟩ :=
    underway_of_launch (Journaled.gives_of_outcome launched) (by omega)
  have given := Journaled.gives_of_outcome played
  obtain ⟨notices, final, rfl, selected, inOrder⟩ := orderly_of_turns underway given (by omega)
  obtain ⟨noMatch, gone, stale⟩ := tally_of_selected .zero selected
  refine ⟨notices, final, rfl, noMatch, gone, stale, selected, ?_⟩
  intro count before
  apply inOrder
  rw [config, zero]
  exact before

/-- Three raids at one tick: one ship is hit twice and goes down by the second hit, and is gone at
the end of that tick; the other one gets away and is patched up in the next. -/
theorem orderly_of_playOut_raided :
    let scenario : Scenario :=
      { config := { Config.standard with totalTicks := 4 }
        ships := ["Viper", "Cobra"]
        raids :=
          [{ tick := 2, ship := 0, attacker := "Krait", damage := 60 },
            { tick := 2, ship := 1, attacker := "Krait", damage := 70 },
            { tick := 2, ship := 0, attacker := "Krait", damage := 60 }] }
    ∃ campaign notices final,
      (launch scenario).run.outcome = .ok (.ok campaign) ∧
      campaign.playOut.run.outcome = .ok (.ok (notices, final)) ∧
      (launch scenario).run.armings + campaign.playOut.run.armings ≤ 2 ^ 32 - 1 ∧
      hullOf final.world.roster ⟨0, by decide⟩ = none ∧
      hullOf final.world.roster ⟨1, by decide⟩ = some 45 ∧
      Tally.ofNotices notices =
        { selected := 3, noMatch := 0, gone := 0, stale := 0, handled := 3, unhandled := 0 } ∧
      ∀ count < 4, ∃ noticed middle,
        (campaign.turns count).run.outcome = .ok (.ok (noticed, middle)) ∧ middle.InOrder := by
  intro scenario
  have sorted : (scenario.raids.mergeSort fun earlier later => earlier.tick ≤ later.tick) =
      scenario.raids := List.mergeSort_of_pairwise (by decide)
  obtain ⟨reached, launched, rest⟩ : ∃ reached, (launch scenario).run.outcome = .ok reached ∧
      (reached.toOption.any fun campaign =>
        campaign.playOut.run.outcome.toOption.any fun answer => answer.toOption.any fun played =>
          decide ((launch scenario).run.armings + campaign.playOut.run.armings ≤ 2 ^ 32 - 1 ∧
            hullOf played.2.world.roster ⟨0, by decide⟩ = none ∧
            hullOf played.2.world.roster ⟨1, by decide⟩ = some 45 ∧
            Tally.ofNotices played.1 =
              { selected := 3, noMatch := 0, gone := 0, stale := 0, handled := 3,
                unhandled := 0 })) = true := by
    unfold launch
    rw [sorted]
    exact exists_ok (by decide +kernel)
  obtain ⟨campaign, rfl, voyage⟩ := exists_ok rest
  obtain ⟨answer, played, account⟩ := exists_ok voyage
  obtain ⟨⟨notices, final⟩, rfl, facts⟩ := exists_ok account
  obtain ⟨few, sunk, patched, tally⟩ := of_decide_eq_true facts
  refine ⟨campaign, notices, final, launched, played, few, sunk, patched, tally, ?_⟩
  obtain ⟨_, _, _, _, _, _, _, inOrder⟩ := orderly_of_playOut launched played few
  exact inOrder

end Campaign

end PriorityAgents.Patrol
