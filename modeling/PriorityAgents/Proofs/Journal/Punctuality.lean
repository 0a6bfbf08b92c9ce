import Mathlib.Algebra.Order.Floor.Div
import Mathlib.Data.List.Basic
import PriorityAgents.Config
import PriorityAgents.Proofs.Journal.Chronicle

/-!
Reconsiderations come when they were asked for.

A history tells, entry by entry, what was asked for and in which tick. From this alone it is said
here which agents are to be reported in a tick: those that asked for it and have neither asked
again nor been called off nor destroyed since. A history of the right shape reports exactly these.
-/

set_option autoImplicit false

namespace PriorityAgents

def Config.wait (config : Config) (delay : Span) : Nat :=
  max 1 (delay.nanoseconds ⌈/⌉ (config.tickMillis.toNat * 10 ^ 6))

namespace Entry

def endsTick : Entry → Bool
  | .noticed (.tickEnd _ _) => true
  | _ => false

/-- Whether an entry puts an end to what an agent asked for before. -/
def revokes (agent : AgentId) : Entry → Bool
  | .scheduled other _ _ | .withdrawn other | .destroyed other _ => other = agent
  | _ => false

def drained? : Entry → Option Tick
  | .drained tick => some tick
  | _ => none

end Entry

def ticksEnded (history : List Entry) : Nat := history.countP Entry.endsTick

/-- The agents that are reported in a tick, in the order of the reports. -/
def reportsAt (tick : Tick) (history : List Entry) : List AgentId :=
  ((history.filterMap Entry.reported?).filter (·.1 = tick)).map Prod.snd

/-- The agent whose request is for a tick and stands, whatever comes later. -/
def claimant? (config : Config) (tick ended : Nat) (later : List Entry) :
    Entry → Option AgentId
  | .scheduled agent _ delay =>
      if ended + config.wait delay = tick ∧ later.all (!·.revokes agent) then some agent else none
  | _ => none

/-- The agents whose reconsideration is to come in a tick, in the order in which they asked for it.
The history begins when a number of ticks have ended. -/
def claimants (config : Config) (tick : Nat) : Nat → List Entry → List AgentId
  | _, [] => []
  | ended, entry :: later =>
      (claimant? config tick ended later entry).toList ++
        claimants config tick (ended + if entry.endsTick then 1 else 0) later

/-- In this history every reconsideration that was asked for comes at its tick, unless it is
replaced, called off or lost before, and no other one comes. -/
structure Punctual (config : Config) (history : List Entry) : Prop where
  /-- The ticks are taken one by one, and the timers are drained once in each. -/
  stepped : (history.filterMap Entry.drained?).map Tick.index = List.range (ticksEnded history)
  answered : ∀ (earlier waiting rest : List Entry) (agent : AgentId) (handle : TimerHandle)
    (delay : Span) (tick : Tick),
    history = earlier ++ .scheduled agent handle delay :: (waiting ++ .drained tick :: rest) →
      tick.index = ticksEnded earlier + config.wait delay →
        (∀ entry ∈ waiting, entry.revokes agent = false) →
          (reportsAt tick history).count agent = 1
  only : ∀ (earlier rest : List Entry) (tick : Tick) (agent : AgentId)
    (outcome : Reconsideration),
    history = earlier ++ .noticed (.reconsider tick agent outcome) :: rest →
      outcome ≠ .stale ∧ tick.index = ticksEnded earlier ∧
        ∃ (before waiting routed : List Entry) (handle : TimerHandle) (delay : Span),
          earlier = before ++ .scheduled agent handle delay ::
            (waiting ++ .drained tick :: routed) ∧
          tick.index = ticksEnded before + config.wait delay ∧
          ∀ entry ∈ waiting, entry.revokes agent = false
  once : ∀ tick, (reportsAt tick history).Nodup
  ordered : ∀ (earlier rest : List Entry) (tick : Tick),
    history = earlier ++ .drained tick :: rest →
      reportsAt tick history = claimants config tick.index 0 earlier
  counted : ∀ (earlier rest : List Entry) (tick : Tick) (fired : Nat),
    history = earlier ++ .noticed (.tickEnd tick fired) :: rest →
      tick.index = ticksEnded earlier ∧ fired = (reportsAt tick history).length

variable {config : Config} {docket : Docket} {history earlier rest : List Entry} {agent : AgentId}
  {tick : Tick}

/-! ### Who is to be reported -/

theorem ticksEnded_append (first second : List Entry) :
    ticksEnded (first ++ second) = ticksEnded first + ticksEnded second := List.countP_append

theorem ticksEnded_cons (entry : Entry) (later : List Entry) :
    ticksEnded (entry :: later) = (if entry.endsTick then 1 else 0) + ticksEnded later := by
  unfold ticksEnded
  rw [List.countP_cons, Nat.add_comm]

theorem claimant?_eq_some {due ended : Nat} {entry : Entry} {later : List Entry} :
    claimant? config due ended later entry = some agent ↔
      ∃ handle delay, entry = .scheduled agent handle delay ∧
        due = ended + config.wait delay ∧ ∀ other ∈ later, other.revokes agent = false := by
  constructor
  · intro claimed
    cases entry with
    | scheduled asker handle delay =>
        simp only [claimant?, Option.ite_none_right_eq_some, Option.some.injEq, List.all_eq_true,
          Bool.not_eq_true'] at claimed
        obtain ⟨⟨rfl, standing⟩, rfl⟩ := claimed
        exact ⟨handle, delay, rfl, rfl, standing⟩
    | _ => cases claimed
  · intro given
    rcases given with ⟨handle, delay, rfl, rfl, standing⟩
    simp only [claimant?, Option.ite_none_right_eq_some, List.all_eq_true, Bool.not_eq_true',
      true_and, and_true]
    exact standing

theorem mem_claimants {due ended : Nat} :
    agent ∈ claimants config due ended history ↔
      ∃ before handle delay waiting, history = before ++ .scheduled agent handle delay :: waiting ∧
        due = ended + ticksEnded before + config.wait delay ∧
        ∀ entry ∈ waiting, entry.revokes agent = false := by
  induction history generalizing ended with
  | nil => simp [claimants]
  | cons entry later ih =>
      rw [claimants, List.mem_append, Option.mem_toList, claimant?_eq_some, ih]
      constructor
      · rintro (⟨handle, delay, rfl, due, standing⟩ |
          ⟨before, handle, delay, waiting, rfl, due, standing⟩)
        · exact ⟨[], handle, delay, later, rfl, due, standing⟩
        · refine ⟨entry :: before, handle, delay, waiting, rfl, ?_, standing⟩
          rw [due, ticksEnded_cons, ← Nat.add_assoc ended]
      · intro given
        rcases given with ⟨before, handle, delay, waiting, split, due, standing⟩
        cases before with
        | nil =>
            obtain ⟨rfl, rfl⟩ := List.cons.inj split
            exact .inl ⟨handle, delay, rfl, due, standing⟩
        | cons first before =>
            obtain ⟨rfl, rfl⟩ := List.cons.inj split
            refine .inr ⟨before, handle, delay, waiting, rfl, ?_, standing⟩
            rw [due, ticksEnded_cons, ← Nat.add_assoc ended]

/-! ### The docket knows who is to be reported -/

private theorem tickAfter_eq {clock : Clock} {delay : Span}
    (length : clock.tickMillis = config.tickMillis.toNat) (room : tick.index + 1 < 2 ^ 64) :
    clock.tickAfter delay = tick ↔ tick.index = clock.now.index + config.wait delay := by
  have ceiling : delay.nanoseconds ⌈/⌉ (config.tickMillis.toNat * 10 ^ 6) =
      (delay.nanoseconds + clock.tickNanoseconds - 1) / clock.tickNanoseconds := by
    rw [Nat.ceilDiv_eq_add_pred_div, Clock.tickNanoseconds, length]
  unfold Clock.tickAfter Config.wait Tick.later Clock.ticksFor
  rw [Tick.ext_iff, ceiling]
  generalize (delay.nanoseconds + clock.tickNanoseconds - 1) / clock.tickNanoseconds = covered
  change min (clock.now.index + max 1 (min covered (2 ^ 64 - 1))) (2 ^ 64 - 1) = tick.index ↔ _
  omega

private theorem enter_clock (docket : Docket) (entry : Entry) :
    (docket.enter entry).clock = if entry.endsTick then docket.clock.next else docket.clock := by
  cases entry with
  | noticed notice => cases notice <;> rfl
  | _ => rfl

def dueAt (docket : Docket) (tick : Tick) : List AgentId :=
  (docket.timers.filter (·.due = tick)).map Timer.owner

private theorem dueAt_others (docket : Docket) (agent : AgentId) (tick : Tick) :
    dueAt { docket with timers := docket.others agent } tick =
      (dueAt docket tick).filter (· ≠ agent) := by
  unfold dueAt Docket.others
  rw [List.filter_map, List.filter_comm]
  rfl

private theorem dueAt_scheduled (docket : Docket)
    (length : docket.clock.tickMillis = config.tickMillis.toNat) (room : tick.index + 1 < 2 ^ 64)
    (agent : AgentId) (handle : TimerHandle) (delay : Span) :
    dueAt (docket.enter (.scheduled agent handle delay)) tick =
      (dueAt docket tick).filter (· ≠ agent) ++
        if tick.index = docket.clock.now.index + config.wait delay then [agent] else [] := by
  rw [← dueAt_others]
  unfold dueAt
  change ((docket.others agent ++ [Timer.mk handle agent _]).filter (·.due = tick)).map
    Timer.owner = _
  rw [List.filter_append, List.map_append]
  congr 1
  by_cases due : docket.clock.tickAfter delay = tick
  · rw [if_pos ((tickAfter_eq length room).mp due), List.filter_cons_of_pos (by simpa using due)]
    rfl
  · rw [if_neg fun same => due ((tickAfter_eq length room).mpr same),
      List.filter_cons_of_neg (by simpa using due)]
    rfl

private theorem dueAt_drained (docket : Docket) {other : Tick} (before : other < tick) :
    dueAt (docket.enter (.drained other)) tick = dueAt docket tick := by
  unfold dueAt
  change ((docket.timers.filter (other < ·.due)).filter (·.due = tick)).map Timer.owner = _
  rw [List.filter_filter]
  congr 1
  apply List.filter_congr
  intro timer _
  by_cases due : timer.due = tick
  · simp [due, before]
  · simp [due]

private theorem dueAt_enter (docket : Docket)
    (length : docket.clock.tickMillis = config.tickMillis.toNat) (room : tick.index + 1 < 2 ^ 64)
    {entry : Entry} (before : ∀ other, entry = .drained other → other < tick)
    (later : List Entry) :
    (dueAt (docket.enter entry) tick).filter (fun owner => later.all (!·.revokes owner)) =
      (dueAt docket tick).filter (fun owner => (entry :: later).all (!·.revokes owner)) ++
        (claimant? config tick.index docket.clock.now.index later entry).toList := by
  have struck (agent : AgentId) :
      ((dueAt docket tick).filter (· ≠ agent)).filter (fun owner => later.all (!·.revokes owner)) =
        (dueAt docket tick).filter fun owner =>
          !decide (agent = owner) && later.all (!·.revokes owner) := by
    rw [List.filter_filter]
    apply List.filter_congr
    intro owner _
    have same : decide (owner ≠ agent) = !decide (agent = owner) := by simp [eq_comm]
    rw [Bool.and_comm, same]
  cases entry with
  | scheduled agent handle delay =>
      have last : (if tick.index = docket.clock.now.index + config.wait delay then [agent]
          else []).filter (fun owner => later.all (!·.revokes owner)) =
            (claimant? config tick.index docket.clock.now.index later
              (.scheduled agent handle delay)).toList := by
        unfold claimant?
        by_cases due : tick.index = docket.clock.now.index + config.wait delay
        · cases standing : later.all (!·.revokes agent) <;> simp [due, standing]
        · simp [due, Ne.symm due]
      rw [dueAt_scheduled docket length room, List.filter_append, struck, last]
      rfl
  | withdrawn agent =>
      change (dueAt { docket with timers := docket.others agent } tick).filter _ = _
      rw [dueAt_others, struck]
      exact (List.append_nil _).symm
  | destroyed agent name =>
      change (dueAt { docket with timers := docket.others agent } tick).filter _ = _
      rw [dueAt_others, struck]
      exact (List.append_nil _).symm
  | drained other =>
      rw [dueAt_drained docket (before other rfl)]
      exact (List.append_nil _).symm
  | told record => exact (List.append_nil _).symm
  | armed timer => exact (List.append_nil _).symm
  | disarmed handle due => exact (List.append_nil _).symm
  | noticed notice => cases notice <;> exact (List.append_nil _).symm

/-- Reading on, the lines for a tick are those that nothing strikes out and those that are still to
be written, as long as the tick itself has not come. -/
theorem dueAt_read (docket : Docket) (length : docket.clock.tickMillis = config.tickMillis.toNat)
    (room : tick.index + 1 < 2 ^ 64)
    (pending : docket.clock.now.index + ticksEnded history ≤ tick.index)
    (before : ∀ other, .drained other ∈ history → other < tick) :
    dueAt (docket.read history) tick =
      (dueAt docket tick).filter (fun owner => history.all (!·.revokes owner)) ++
        claimants config tick.index docket.clock.now.index history := by
  induction history generalizing docket with
  | nil => simp [claimants]
  | cons entry later ih =>
      rw [ticksEnded_cons] at pending
      have clock := enter_clock docket entry
      have laterLength : (docket.enter entry).clock.tickMillis = config.tickMillis.toNat := by
        rw [clock]
        split <;> exact length
      have laterNow : (docket.enter entry).clock.now.index =
          docket.clock.now.index + if entry.endsTick then 1 else 0 := by
        rw [clock]
        cases ends : entry.endsTick with
        | false => rfl
        | true =>
            rw [ends, if_pos rfl] at pending
            change min (docket.clock.now.index + 1) (2 ^ 64 - 1) = docket.clock.now.index + 1
            omega
      rw [Docket.read_cons, ih (docket.enter entry) laterLength (by omega) fun other member =>
        before other (List.mem_cons_of_mem _ member), laterNow, claimants, ← List.append_assoc,
        dueAt_enter docket length room (fun other same => before other (by simp [same]))]

/-! ### What a tick enters -/

theorem routine_facts {entry : Entry} {now : Tick} (routine : entry.IsRoutine now) :
    entry.endsTick = false ∧ entry.drained? = none := by
  cases entry with
  | noticed notice => cases notice <;> first | exact ⟨rfl, rfl⟩ | exact routine.elim
  | drained tick => exact routine.elim
  | destroyed agent name => exact routine.elim
  | _ => exact ⟨rfl, rfl⟩

private theorem ticksEnded_routine {now : Tick} (routine : ∀ entry ∈ history, entry.IsRoutine now) :
    ticksEnded history = 0 := by
  unfold ticksEnded
  rw [List.countP_eq_zero]
  intro entry member
  rw [(routine_facts (routine entry member)).1]
  exact Bool.false_ne_true

private theorem drained_routine {now : Tick} (routine : ∀ entry ∈ history, entry.IsRoutine now) :
    history.filterMap Entry.drained? = [] := by
  rw [List.filterMap_eq_nil_iff]
  exact fun entry member => (routine_facts (routine entry member)).2

theorem reportsAt_append (tick : Tick) (first second : List Entry) :
    reportsAt tick (first ++ second) = reportsAt tick first ++ reportsAt tick second := by
  unfold reportsAt
  rw [List.filterMap_append, List.filter_append, List.map_append]

theorem reportsAt_eq_nil (absent : ∀ report ∈ history.filterMap Entry.reported?, report.1 ≠ tick) :
    reportsAt tick history = [] := by
  unfold reportsAt
  rw [List.map_eq_nil_iff, List.filter_eq_nil_iff]
  intro report member
  simpa using absent report member

private theorem reportsAt_parts {delivering routing : List Entry} {agents : List AgentId}
    {fired : Nat} (unreported : delivering.filterMap Entry.reported? = [])
    (reports : routing.filterMap Entry.reported? = agents.map (Prod.mk tick)) :
    reportsAt tick (.noticed (.tickStart tick) :: (delivering ++
      .drained tick :: (routing ++ [.noticed (.tickEnd tick fired)]))) = agents := by
  have all : (agents.map (Prod.mk tick)).filter (·.1 = tick) = agents.map (Prod.mk tick) := by
    rw [List.filter_eq_self]
    intro report member
    obtain ⟨_, _, rfl⟩ := List.mem_map.mp member
    exact decide_eq_true rfl
  have last : [Entry.noticed (.tickEnd tick fired)].filterMap Entry.reported? = [] := rfl
  unfold reportsAt
  rw [List.filterMap_cons_none rfl, List.filterMap_append, unreported, List.nil_append,
    List.filterMap_cons_none rfl, List.filterMap_append, reports, last, List.append_nil, all,
    List.map_map]
  exact List.map_id _

namespace Docket

theorem Round.parts {round : List Entry} (given : docket.Round round) :
    ∃ delivering routing fired,
      round = .noticed (.tickStart docket.clock.now) :: (delivering ++
        .drained docket.clock.now :: (routing ++ [.noticed (.tickEnd docket.clock.now fired)])) ∧
      docket.clock.now.index + 1 < 2 ^ 64 ∧
      (∀ entry ∈ delivering, entry.IsRoutine docket.clock.now) ∧
      (∀ entry ∈ routing, entry.IsRoutine docket.clock.now) ∧
      delivering.filterMap Entry.reported? = [] ∧
      routing.filterMap Entry.reported? =
        (dueAt (docket.read delivering) docket.clock.now).map (Prod.mk docket.clock.now) ∧
      fired = (dueAt (docket.read delivering) docket.clock.now).length := by
  obtain ⟨delivering, routing, next, delivered, unreported, routed, reports⟩ := given
  have due : routing.filterMap Entry.reported? =
      (dueAt (docket.read delivering) docket.clock.now).map (Prod.mk docket.clock.now) := by
    rw [reports, dueAt, List.map_map]
    rfl
  refine ⟨delivering, routing, _, rfl, next, delivered, routed, unreported, due, ?_⟩
  rw [due, List.length_map]

theorem Round.facts {round : List Entry} (given : docket.Round round) :
    ticksEnded round = 1 ∧ round.filterMap Entry.drained? = [docket.clock.now] ∧
      (docket.read round).clock = docket.clock.next ∧
      (docket.read round).clock.now.index = docket.clock.now.index + 1 ∧
      ∀ report ∈ round.filterMap Entry.reported?, report.1 = docket.clock.now := by
  obtain ⟨delivering, routing, fired, rfl, next, delivered, routed, unreported, reports, _⟩ :=
    given.parts
  have clock : (docket.read (.noticed (.tickStart docket.clock.now) :: (delivering ++
      .drained docket.clock.now ::
        (routing ++ [.noticed (.tickEnd docket.clock.now fired)])))).clock =
          docket.clock.next := by
    rw [read_cons, read_append, read_cons, read_append]
    change Clock.next _ = _
    rw [(read_routine _ routed).1]
    exact congrArg Clock.next (read_routine docket delivered).1
  refine ⟨?_, ?_, clock, ?_, ?_⟩
  · rw [ticksEnded_cons, ticksEnded_append, ticksEnded_cons, ticksEnded_append,
      ticksEnded_routine delivered, ticksEnded_routine routed]
    rfl
  · rw [List.filterMap_cons_none rfl, List.filterMap_append, drained_routine delivered,
      List.nil_append, List.filterMap_cons_some
        (show Entry.drained? (.drained docket.clock.now) = some docket.clock.now from rfl),
      List.filterMap_append, drained_routine routed]
    rfl
  · rw [clock]
    change min (docket.clock.now.index + 1) (2 ^ 64 - 1) = docket.clock.now.index + 1
    omega
  · intro report member
    rw [List.filterMap_cons_none rfl, List.filterMap_append, unreported, List.nil_append,
      List.filterMap_cons_none rfl, List.filterMap_append, reports] at member
    rcases List.mem_append.mp member with inRouting | impossible
    · obtain ⟨agent, _, rfl⟩ := List.mem_map.mp inRouting
      rfl
    · cases impossible

namespace Chronicle

theorem clock_read (chronicle : docket.Chronicle history) :
    (docket.read history).clock.tickMillis = docket.clock.tickMillis ∧
      (docket.read history).clock.now.index = docket.clock.now.index + ticksEnded history := by
  induction chronicle with
  | nil docket => exact ⟨rfl, rfl⟩
  | @between docket entry later here _ ih =>
      have stays : entry.endsTick = false := by
        cases entry with
        | noticed notice => cases notice <;> first | rfl | exact here.elim
        | _ => rfl
      have clock : (docket.enter entry).clock = docket.clock := by
        rw [enter_clock, stays]
        rfl
      rw [read_cons, ticksEnded_cons, stays, ← clock]
      simpa using ih
  | @round docket first later here _ ih =>
      obtain ⟨one, _, clock, index, _⟩ := here.facts
      rw [read_append, ticksEnded_append, one]
      have length : (docket.read first).clock.tickMillis = docket.clock.next.tickMillis :=
        congrArg Clock.tickMillis clock
      refine ⟨ih.1.trans length, ?_⟩
      rw [ih.2, index, Nat.add_assoc]

private theorem drained_eq (chronicle : docket.Chronicle history) :
    (history.filterMap Entry.drained?).map Tick.index =
      List.range' docket.clock.now.index (ticksEnded history) := by
  induction chronicle with
  | nil docket => rfl
  | @between docket entry later here _ ih =>
      have stays : entry.endsTick = false ∧ entry.drained? = none := by
        cases entry with
        | noticed notice => cases notice <;> first | exact ⟨rfl, rfl⟩ | exact here.elim
        | drained tick => exact here.elim
        | _ => exact ⟨rfl, rfl⟩
      rw [List.filterMap_cons_none stays.2, ih, ticksEnded_cons, stays.1, enter_clock, stays.1]
      simp
  | @round docket first later here _ ih =>
      obtain ⟨one, drained, _, index, _⟩ := here.facts
      rw [List.filterMap_append, List.map_append, ih, drained, ticksEnded_append, one, index,
        Nat.add_comm 1, List.range'_succ]
      rfl

private theorem reported_between (chronicle : docket.Chronicle history) :
    ∀ report ∈ history.filterMap Entry.reported?, docket.clock.now.index ≤ report.1.index ∧
      report.1.index < docket.clock.now.index + ticksEnded history := by
  induction chronicle with
  | nil docket => exact nofun
  | @between docket entry later here _ ih =>
      have stays : entry.endsTick = false ∧ entry.reported? = none := by
        cases entry with
        | noticed notice => cases notice <;> first | exact ⟨rfl, rfl⟩ | exact here.elim
        | _ => exact ⟨rfl, rfl⟩
      rw [List.filterMap_cons_none stays.2, ticksEnded_cons, stays.1]
      rw [enter_clock, stays.1] at ih
      simpa using ih
  | @round docket first later here _ ih =>
      obtain ⟨one, _, _, index, reports⟩ := here.facts
      intro report member
      rw [List.filterMap_append] at member
      rw [ticksEnded_append, one]
      rcases List.mem_append.mp member with early | late
      · rw [reports report early]
        omega
      · have bounds := ih report late
        rw [index] at bounds
        omega

private theorem reportsAt_round {before round after : List Entry} (early : docket.Chronicle before)
    (here : (docket.read before).Round round)
    (late : ((docket.read before).read round).Chronicle after) :
    reportsAt (docket.read before).clock.now (before ++ (round ++ after)) =
      reportsAt (docket.read before).clock.now round := by
  obtain ⟨_, index⟩ := early.clock_read
  obtain ⟨_, _, _, next, _⟩ := here.facts
  have noneBefore : reportsAt (docket.read before).clock.now before = [] := by
    apply reportsAt_eq_nil
    intro report member same
    have bounds := early.reported_between report member
    rw [same, index] at bounds
    omega
  have noneAfter : reportsAt (docket.read before).clock.now after = [] := by
    apply reportsAt_eq_nil
    intro report member same
    have bounds := late.reported_between report member
    rw [same, next] at bounds
    omega
  rw [reportsAt_append, reportsAt_append, noneBefore, noneAfter, List.nil_append, List.append_nil]

private theorem drained_before (chronicle : docket.Chronicle history) {other : Tick}
    (member : .drained other ∈ history) : other < (docket.read history).clock.now := by
  have listed : other.index ∈ (history.filterMap Entry.drained?).map Tick.index :=
    List.mem_map_of_mem (List.mem_filterMap.mpr ⟨_, member, rfl⟩)
  rw [chronicle.drained_eq, List.mem_range'_1] at listed
  rw [Tick.lt_def, chronicle.clock_read.2]
  exact listed.2

end Chronicle

end Docket

/-! ### One tick of a history -/

/-- A tick of a history: what has been entered when its timers are drained, and what is entered
while they are handed out. -/
structure TickOf (config : Config) (history opening routing : List Entry) (now : Tick)
    (fired : Nat) : Prop where
  ended : now.index = ticksEnded opening
  routine : ∀ entry ∈ routing, entry.IsRoutine now
  claimed : reportsAt now history = claimants config now.index 0 opening
  single : (reportsAt now history).Nodup
  count : fired = (reportsAt now history).length

private theorem split_cases {first second inside outside : List Entry} {middle entry : Entry}
    (same : first ++ middle :: second = inside ++ entry :: outside) :
    (∃ between, first = inside ++ entry :: between) ∨ (inside = first ∧ entry = middle) ∨
      ∃ between, inside = first ++ middle :: between ∧ second = between ++ entry :: outside := by
  rcases List.append_eq_append_iff.mp same with ⟨bridge, rfl, tail⟩ | ⟨bridge, rfl, tail⟩
  · cases bridge with
    | nil =>
        obtain ⟨rfl, rfl⟩ := List.cons.inj tail
        exact .inr (.inl ⟨List.append_nil _, rfl⟩)
    | cons head between =>
        obtain ⟨rfl, rfl⟩ := List.cons.inj tail
        exact .inr (.inr ⟨between, rfl, rfl⟩)
  · cases bridge with
    | nil =>
        obtain ⟨rfl, rfl⟩ := List.cons.inj tail
        exact .inr (.inl ⟨(List.append_nil _).symm, rfl⟩)
    | cons head between =>
        obtain ⟨rfl, _⟩ := List.cons.inj tail
        exact .inl ⟨between, rfl⟩

private theorem place_cases {opening closing middle entry : Entry}
    {delivering routing inside outside : List Entry}
    (shape : opening :: (delivering ++ middle :: (routing ++ [closing])) =
      inside ++ entry :: outside) :
    (entry = opening ∨ entry ∈ delivering) ∨
      (inside = opening :: delivering ∧ entry = middle) ∨
      (∃ routed remaining, inside = opening :: (delivering ++ middle :: routed) ∧
        routing = routed ++ entry :: remaining) ∨
      (inside = opening :: (delivering ++ middle :: routing) ∧ entry = closing) := by
  rw [← List.cons_append] at shape
  rcases split_cases shape with ⟨between, early⟩ | ⟨rfl, rfl⟩ | ⟨routed, rfl, tail⟩
  · left
    apply List.mem_cons.mp
    rw [early]
    exact List.mem_append_right _ List.mem_cons_self
  · exact .inr (.inl ⟨rfl, rfl⟩)
  · rcases split_cases tail with ⟨remaining, inRouting⟩ | ⟨rfl, rfl⟩ | ⟨_, _, impossible⟩
    · exact .inr (.inr (.inl ⟨routed, remaining, rfl, inRouting⟩))
    · exact .inr (.inr (.inr ⟨rfl, rfl⟩))
    · exact absurd impossible (by simp)

private theorem Docket.Chronicle.tickOf {entry : Entry} (chronicle : docket.Chronicle history)
    (start : docket.clock.now.index = 0) (blank : docket.timers = [])
    (length : docket.clock.tickMillis = config.tickMillis.toNat)
    (split : history = earlier ++ entry :: rest) (inTick : ¬entry.IsBetween) :
    ∃ opening routing now fired, TickOf config history opening routing now fired ∧
      (entry = .noticed (.tickStart now) ∨ (entry.IsRoutine now ∧ entry.reported? = none) ∨
        (earlier = opening ∧ entry = .drained now) ∨
        (∃ routed remaining, earlier = opening ++ .drained now :: routed ∧
          routing = routed ++ entry :: remaining) ∨
        (earlier = opening ++ .drained now :: routing ∧
          entry = .noticed (.tickEnd now fired))) := by
  obtain ⟨before, inside, outside, after, whole, rfl, early, round, late⟩ :=
    chronicle.locate split inTick
  obtain ⟨delivering, routing, fired, shape, next, delivered, routed, unreported, reports, count⟩ :=
    round.parts
  have index := early.clock_read.2
  have same := early.reportsAt_round round late
  rw [← whole, shape, reportsAt_parts unreported reports] at same
  generalize moment : (docket.read before).clock.now = now at *
  have opened : docket.read (before ++ .noticed (.tickStart now) :: delivering) =
      (docket.read before).read delivering := Docket.read_append _ _ _
  have ended : ticksEnded (before ++ .noticed (.tickStart now) :: delivering) =
      ticksEnded before := by
    rw [ticksEnded_append, ticksEnded_cons, ticksEnded_routine delivered]
    rfl
  have single : docket.Single := by
    unfold Docket.Single
    rw [blank]
    exact List.nodup_nil
  have future : ∀ other, .drained other ∈ before ++ .noticed (.tickStart now) :: delivering →
      other < now := by
    intro other member
    rcases List.mem_append.mp member with inBefore | inRound
    · rw [← moment]
      exact early.drained_before inBefore
    · rcases List.mem_cons.mp inRound with impossible | inDelivering
      · cases impossible
      · exact (delivered _ inDelivering).elim
  refine ⟨before ++ .noticed (.tickStart now) :: delivering, routing, now, fired, ?_, ?_⟩
  · refine
      { ended := ?_
        routine := routed
        claimed := ?_
        single := ?_
        count := ?_ }
    · rw [ended, index, start, Nat.zero_add]
    · rw [same, ← opened, dueAt_read docket length next]
      · simp [dueAt, blank, start]
      · rw [ended, index]
      · exact future
    · rw [same, ← opened]
      exact (single.read _).sublist (List.filter_sublist.map _)
    · rw [same, count]
  · rcases place_cases shape.symm with (rfl | member) | ⟨rfl, rfl⟩ |
      ⟨between, remaining, rfl, tail⟩ | ⟨rfl, rfl⟩
    · exact .inl rfl
    · exact .inr (.inl ⟨delivered _ member, List.filterMap_eq_nil_iff.mp unreported _ member⟩)
    · exact .inr (.inr (.inl ⟨rfl, rfl⟩))
    · refine .inr (.inr (.inr (.inl ⟨between, remaining, ?_, tail⟩)))
      rw [List.append_assoc, List.cons_append]
    · refine .inr (.inr (.inr (.inr ⟨?_, rfl⟩)))
      rw [List.append_assoc, List.cons_append]

private theorem Docket.Chronicle.drainedAt (chronicle : docket.Chronicle history)
    (start : docket.clock.now.index = 0) (blank : docket.timers = [])
    (length : docket.clock.tickMillis = config.tickMillis.toNat)
    (split : history = earlier ++ .drained tick :: rest) :
    ∃ routing fired, TickOf config history earlier routing tick fired := by
  obtain ⟨opening, routing, now, fired, inTick, place⟩ :=
    chronicle.tickOf start blank length split id
  rcases place with impossible | ⟨impossible, _⟩ | ⟨rfl, same⟩ | ⟨_, _, _, same⟩ | ⟨_, impossible⟩
  · cases impossible
  · exact impossible.elim
  · cases same
    exact ⟨routing, fired, inTick⟩
  · have member : .drained tick ∈ routing := same ▸ List.mem_append_right _ List.mem_cons_self
    exact (inTick.routine _ member).elim
  · cases impossible

private theorem Docket.Chronicle.reportedAt {outcome : Reconsideration}
    (chronicle : docket.Chronicle history) (start : docket.clock.now.index = 0)
    (blank : docket.timers = []) (length : docket.clock.tickMillis = config.tickMillis.toNat)
    (split : history = earlier ++ .noticed (.reconsider tick agent outcome) :: rest) :
    ∃ opening routing fired routed, TickOf config history opening routing tick fired ∧
      earlier = opening ++ .drained tick :: routed ∧ (∀ entry ∈ routed, entry.IsRoutine tick) ∧
      outcome ≠ .stale := by
  obtain ⟨opening, routing, now, fired, inTick, place⟩ :=
    chronicle.tickOf start blank length split id
  rcases place with impossible | ⟨_, impossible⟩ | ⟨_, impossible⟩ |
    ⟨routed, remaining, rfl, same⟩ | ⟨_, impossible⟩
  · cases impossible
  · cases impossible
  · cases impossible
  · have member : Entry.noticed (.reconsider tick agent outcome) ∈ routing :=
      same ▸ List.mem_append_right _ List.mem_cons_self
    obtain ⟨rfl, notStale⟩ := inTick.routine _ member
    exact ⟨opening, routing, fired, routed, inTick, rfl, fun entry inRouted =>
      inTick.routine entry (same ▸ List.mem_append_left _ inRouted), notStale⟩
  · cases impossible

theorem mem_reportsAt :
    agent ∈ reportsAt tick history ↔
      ∃ outcome, .noticed (.reconsider tick agent outcome) ∈ history := by
  unfold reportsAt
  simp only [List.mem_map, List.mem_filter, List.mem_filterMap, Prod.exists, exists_eq_right,
    decide_eq_true_eq]
  constructor
  · intro given
    rcases given with ⟨entry, member, reported⟩
    cases entry with
    | noticed notice =>
        cases notice with
        | reconsider other owner outcome =>
            cases reported
            exact ⟨outcome, member⟩
        | _ => cases reported
    | _ => cases reported
  · intro given
    rcases given with ⟨outcome, member⟩
    exact ⟨_, member, rfl⟩

theorem Docket.Chronicle.punctual (chronicle : docket.Chronicle history)
    (start : docket.clock.now.index = 0) (blank : docket.timers = [])
    (length : docket.clock.tickMillis = config.tickMillis.toNat) : Punctual config history := by
  refine
    { stepped := ?_
      answered := ?_
      only := ?_
      once := ?_
      ordered := ?_
      counted := ?_ }
  · rw [chronicle.drained_eq, start, List.range_eq_range']
  · intro earlier waiting rest agent handle delay tick split due standing
    rw [← List.cons_append, ← List.append_assoc] at split
    obtain ⟨routing, fired, inTick⟩ := chronicle.drainedAt start blank length split
    apply List.count_eq_one_of_mem inTick.single
    rw [inTick.claimed, mem_claimants]
    exact ⟨earlier, handle, delay, waiting, rfl, by rw [due, Nat.zero_add], standing⟩
  · intro earlier rest tick agent outcome split
    obtain ⟨opening, routing, fired, routed, inTick, rfl, routine, notStale⟩ :=
      chronicle.reportedAt start blank length split
    refine ⟨notStale, ?_, ?_⟩
    · rw [ticksEnded_append, ticksEnded_cons, ticksEnded_routine routine, inTick.ended]
      rfl
    · have reported : agent ∈ reportsAt tick history :=
        mem_reportsAt.mpr ⟨outcome, split ▸ List.mem_append_right _ List.mem_cons_self⟩
      rw [inTick.claimed, mem_claimants] at reported
      obtain ⟨before, handle, delay, waiting, rfl, due, standing⟩ := reported
      rw [Nat.zero_add] at due
      refine ⟨before, waiting, routed, handle, delay, ?_, due, standing⟩
      rw [List.append_assoc, List.cons_append]
  · intro tick
    cases reports : reportsAt tick history with
    | nil => exact List.nodup_nil
    | cons agent others =>
        obtain ⟨outcome, member⟩ := mem_reportsAt.mp (reports ▸ List.mem_cons_self)
        obtain ⟨earlier, rest, split⟩ := List.append_of_mem member
        obtain ⟨_, _, _, _, inTick, _⟩ := chronicle.reportedAt start blank length split
        rw [← reports]
        exact inTick.single
  · intro earlier rest tick split
    obtain ⟨routing, fired, inTick⟩ := chronicle.drainedAt start blank length split
    exact inTick.claimed
  · intro earlier rest tick fired split
    obtain ⟨opening, routing, now, count, inTick, place⟩ :=
      chronicle.tickOf start blank length split id
    rcases place with impossible | ⟨impossible, _⟩ | ⟨_, impossible⟩ |
      ⟨routed, remaining, _, same⟩ | ⟨rfl, same⟩
    · cases impossible
    · exact impossible.elim
    · cases impossible
    · have member : .noticed (.tickEnd tick fired) ∈ routing :=
        same ▸ List.mem_append_right _ List.mem_cons_self
      exact (inTick.routine _ member).elim
    · cases same
      refine ⟨?_, inTick.count⟩
      rw [ticksEnded_append, ticksEnded_cons, ticksEnded_routine inTick.routine, inTick.ended]
      rfl

end PriorityAgents
