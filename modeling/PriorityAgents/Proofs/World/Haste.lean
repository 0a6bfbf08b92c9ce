import PriorityAgents.Patrol.Rules
import PriorityAgents.Proofs.Controller.Haste
import PriorityAgents.Proofs.World.Attest

/-!
Asking for a reconsideration at once, in the course of a world.

No timer is overdue when an agent's code runs, and in a walk none is due at once either, for the
timers of the tick have been drained by then. So whoever asks for the next tick puts off what is
pending only if that is due in the very tick, and only as long as the timers of the tick have not
been drained: for an event, or at the hands of a host.
-/

set_option autoImplicit false

namespace PriorityAgents

variable {vocabulary : Vocabulary} {α : Type} {clock : Clock} {tickMillis : Nat} {delay : Span}
  {bound : Nat}

private theorem Testimony.stays_carry {logged : Logged α} {holds : α → Prop}
    (fits : ∀ answer, logged.outcome = .ok answer → holds answer) :
    (carry logged : Testimony vocabulary α).Stays (Incident.IsTimely tickMillis delay) holds where
  entries := by
    intro incident member
    obtain ⟨entry, _, rfl⟩ := List.mem_map.mp member
    exact trivial
  answer := fits

/-- The tick at which the reconsideration of an agent is due, if one is pending. -/
def Context.dueNext? (context : Context vocabulary) : Option Tick :=
  context.controller.pending.bind context.timers.dueTick?

namespace Incident

/-- An agent asks for a reconsideration at once while one is pending. -/
def urgent? : Incident vocabulary → Option (Occasion × Context vocabulary × Tick)
  | .asked occasion context .reconsiderNow =>
      context.dueNext?.map fun due => (occasion, context, due)
  | _ => none

theorem urgent?_eq_some {incident : Incident vocabulary} {occasion : Occasion}
    {context : Context vocabulary} {due : Tick} :
    incident.urgent? = some (occasion, context, due) ↔
      incident = .asked occasion context .reconsiderNow ∧
        ∃ handle, context.controller.pending = some handle ∧
          context.timers.dueTick? handle = some due := by
  constructor
  · intro urgent
    unfold urgent? at urgent
    split at urgent
    · obtain ⟨_, dueNext, same⟩ := Option.map_eq_some_iff.mp urgent
      cases same
      exact ⟨rfl, Option.bind_eq_some_iff.mp dueNext⟩
    · cases urgent
  · rintro ⟨rfl, dueNext⟩
    exact Option.map_eq_some_iff.mpr ⟨due, Option.bind_eq_some_iff.mpr dueNext, rfl⟩

end Incident

namespace Roster

variable (repertoire : Repertoire vocabulary) {roster : Roster vocabulary}
  {context : Context vocabulary} {agent : AgentId}

/-- The clock is given, and the delay of every agent; nothing that the index knows is due before a
bound. -/
structure Steady (roster : Roster vocabulary) (clock : Clock) (delay : Span) (bound : Nat) :
    Prop where
  clock : roster.timers.clock = clock
  abreast : roster.timers.Abreast bound
  delay : ∀ controller, some controller ∈ roster.controllers → controller.reconsiderNow = delay

namespace Steady

private theorem context_of (steady : roster.Steady clock delay bound)
    (found : roster.context? agent = some context) : context.Steady clock delay bound := by
  obtain ⟨occupied, timers⟩ := context?_eq_some.mp found
  exact
    { clock := timers ▸ steady.clock
      abreast := timers ▸ steady.abreast
      delay := steady.delay _ (Array.mem_of_getElem? (controller?_eq_some.mp occupied)) }

private theorem keep (steady : roster.Steady clock delay bound)
    (done : context.Steady clock delay bound) (agent : AgentId) :
    (roster.keep agent context).Steady clock delay bound where
  clock := done.clock
  abreast := done.abreast
  delay := by
    intro controller member
    rcases Array.mem_or_eq_of_mem_setIfInBounds member with before | same
    · exact steady.delay controller before
    · cases same
      exact done.delay

private theorem enlist (steady : roster.Steady clock delay bound)
    (done : context.Steady clock delay bound) :
    (roster.enlist context).Steady clock delay bound where
  clock := done.clock
  abreast := done.abreast
  delay := by
    intro controller member
    rcases Array.mem_push.mp member with before | same
    · exact steady.delay controller before
    · cases same
      exact done.delay

private theorem discharge (steady : roster.Steady clock delay bound)
    (done : context.Steady clock delay bound) (agent : AgentId) :
    (roster.discharge agent context.timers).Steady clock delay bound where
  clock := done.clock
  abreast := done.abreast
  delay := by
    intro controller member
    rcases Array.mem_or_eq_of_mem_setIfInBounds member with before | same
    · exact steady.delay controller before
    · cases same

private theorem deliver (steady : roster.Steady clock delay clock.now.index) (now : Tick)
    (event : PendingEvent vocabulary) :
    (roster.attestedDeliver repertoire now event).Stays
      (Incident.IsTimely clock.tickMillis delay)
      fun later => later.Steady clock delay clock.now.index := by
  unfold attestedDeliver
  cases found : roster.context? event.agent with
  | none => exact (Testimony.stays_carry fun _ _ => trivial).bind fun _ _ => .pure steady
  | some context =>
      have heard := Attested.Upholds.handleEvent repertoire (Nat.le_refl _) (Nat.le_succ _)
        event.name event.payload context (steady.context_of found)
      exact heard.bind fun reached done =>
        (Testimony.stays_carry fun _ _ => trivial).bind fun _ (_ : True) =>
          .pure (steady.keep done event.agent)

private theorem deliverAll (steady : roster.Steady clock delay clock.now.index) (now : Tick)
    (events : List (PendingEvent vocabulary)) :
    (roster.attestedDeliverAll repertoire now events).Stays
      (Incident.IsTimely clock.tickMillis delay)
      fun later => later.Steady clock delay clock.now.index := by
  induction events generalizing roster with
  | nil => exact .pure steady
  | cons event events ih => exact (steady.deliver repertoire now event).bind fun _ => ih

private theorem routeAll (steady : roster.Steady clock delay (clock.now.index + 1)) (now : Tick)
    (timers : List Timer) :
    (roster.attestedRouteAll repertoire now timers).Stays
      (Incident.IsTimely clock.tickMillis delay)
      fun reached => reached.2.Steady clock delay (clock.now.index + 1) := by
  induction timers generalizing roster with
  | nil => exact .pure steady
  | cons timer timers ih =>
      unfold attestedRouteAll
      cases found : roster.context? timer.owner with
      | none => exact ih steady
      | some context =>
          have handed : Incident.IsTimely clock.tickMillis delay (.handed context timer) := trivial
          have walked := Attested.Upholds.onTimer repertoire rfl timer.handle context
            (steady.context_of found)
          refine (Journaled.Stays.enter handed trivial).bind fun _ (_ : True) =>
            walked.bind fun reached done => ?_
          exact (Testimony.stays_carry fun _ _ => trivial).bind fun _ (_ : True) =>
            (ih (steady.keep done timer.owner)).bind fun _ later => .pure later

/-- What stays behind when the timers of the tick have been drained is due in a tick to come. -/
theorem fire (steady : roster.Steady clock delay clock.now.index) :
    (roster.attestedFire repertoire clock.now).Stays (Incident.IsTimely clock.tickMillis delay)
      fun reached => reached.2.Steady clock delay (clock.now.index + 1) := by
  unfold attestedFire
  have drained : (liftM (roster.timers.drain clock.now) : Testimony vocabulary _).Stays
      (Incident.IsTimely clock.tickMillis delay) fun reached =>
        ({ roster with timers := reached.2 } : Roster vocabulary).Steady clock delay
          (clock.now.index + 1) := by
    refine .lift fun reached drained => ⟨?_, steady.abreast.drain drained, steady.delay⟩
    change reached.2.clock = clock
    rw [TimerQueue.clock_of_drain drained, TimerQueue.advanceTo, steady.clock,
      World.latest_of_le (Nat.le_refl _)]
  exact drained.bind fun reached later =>
    (Testimony.stays_carry fun _ _ => trivial).bind fun _ (_ : True) =>
      later.routeAll repertoire clock.now reached.1

end Steady

end Roster

namespace World

variable (repertoire : Repertoire vocabulary) {world : World vocabulary}

/-- Between two calls: the timers stand at the clock or a tick behind it, and nothing that the
index knows is overdue. -/
structure Steady (world : World vocabulary) (tickMillis : Nat) (delay : Span) : Prop where
  length : world.clock.tickMillis = tickMillis
  measured : world.roster.timers.clock.tickMillis = tickMillis
  newcomers : world.reconsiderNow = delay
  behind : world.roster.timers.now ≤ world.clock.now
  close : world.clock.now.index ≤ world.roster.timers.now.index + 1
  roster : world.roster.Steady world.roster.timers.clock delay world.clock.now.index

private abbrev Abides (testimony : Testimony vocabulary (World vocabulary)) (tickMillis : Nat)
    (delay : Span) : Prop :=
  testimony.Stays (Incident.IsTimely tickMillis delay) fun later => later.Steady tickMillis delay

namespace Steady

private theorem create {config : Config} {reconsiderNow : Option Span}
    (created : World.create config reconsiderNow = .ok world) :
    world.Steady world.clock.tickMillis world.reconsiderNow := by
  obtain ⟨timers, started, _, _, rfl⟩ := of_create created
  exact
    { length := rfl
      measured := rfl
      newcomers := rfl
      behind := Nat.le_refl _
      close := Nat.le_succ _
      roster :=
        { clock := rfl
          abreast := .start started _
          delay := fun _ member => absurd member (Array.not_mem_empty _) } }

private theorem advance (steady : world.Steady tickMillis delay) :
    (world.roster.advanceTo world.clock.now).Steady world.clock delay world.clock.now.index where
  clock := by
    refine Clock.ext (steady.measured.trans steady.length.symm) ?_
    exact latest_of_le steady.behind
  abreast := steady.roster.abreast.advanceTo _
  delay := steady.roster.delay

private theorem of_roster {roster : Roster vocabulary} (steady : world.Steady tickMillis delay)
    (done : roster.Steady world.clock delay world.clock.now.index) :
    { world with roster }.Steady tickMillis delay where
  length := steady.length
  measured := (congrArg Clock.tickMillis done.clock).trans steady.length
  newcomers := steady.newcomers
  behind := Nat.le_of_eq (congrArg (fun clock : Clock => clock.now.index) done.clock)
  close := by
    change _ ≤ roster.timers.clock.now.index + 1
    rw [done.clock]
    exact Nat.le_succ _
  roster := by
    change roster.Steady roster.timers.clock delay world.clock.now.index
    rw [done.clock]
    exact done

private theorem tick (steady : world.Steady tickMillis delay) :
    Abides (world.attestedTick repertoire) tickMillis delay := by
  have advanced := steady.advance
  obtain rfl := steady.length
  unfold attestedTick
  refine (Testimony.stays_carry fun _ _ => trivial).bind fun _ (_ : True) =>
    (advanced.deliverAll repertoire world.clock.now world.events).bind fun middle delivered =>
    (delivered.fire repertoire).bind fun reached fired =>
    (Testimony.stays_carry fun _ _ => trivial).bind fun _ (_ : True) => ?_
  have moved : (liftM world.clock.advance : Testimony vocabulary Clock).Stays
      (Incident.IsTimely world.clock.tickMillis delay) fun clock =>
        clock.tickMillis = world.clock.tickMillis ∧
          clock.now.index = world.clock.now.index + 1 := by
    refine .lift fun clock advanced => ?_
    unfold Clock.advance at advanced
    cases next : world.clock.now.offset 1 with
    | error fault =>
        rw [next] at advanced
        cases advanced
    | ok now =>
        rw [next] at advanced
        cases advanced
        exact ⟨rfl, Tick.offset_eq_ok.mp next⟩
  refine moved.bind fun clock same => .pure ?_
  -- The timers are left a tick behind the clock, and the bound that held for the walks is the
  -- clock's own now.
  have now : reached.2.timers.now = world.clock.now := congrArg Clock.now fired.clock
  exact
    { length := same.1
      measured := congrArg Clock.tickMillis fired.clock
      newcomers := steady.newcomers
      behind := by
        change reached.2.timers.now ≤ clock.now
        rw [Tick.le_def, now, same.2]
        exact Nat.le_succ _
      close := by
        change clock.now.index ≤ reached.2.timers.now.index + 1
        rw [now, same.2]
      roster := by
        change reached.2.Steady reached.2.timers.clock delay clock.now.index
        rw [same.2, fired.clock]
        exact fired }

private theorem ticks (steady : world.Steady tickMillis delay) (count : Nat) :
    Abides (world.attestedTicks repertoire count) tickMillis delay := by
  induction count generalizing world with
  | zero => exact .pure steady
  | succ count ih => exact (steady.tick repertoire).bind fun _ => ih

private theorem toEnd (steady : world.Steady tickMillis delay) :
    Abides (world.attestedToEnd repertoire) tickMillis delay :=
  (steady.ticks repertoire _).bind fun _ later =>
    (Testimony.stays_carry fun _ _ => trivial).bind fun _ (_ : True) => .pure later

private theorem attest {context : Context vocabulary} (program : Program vocabulary α)
    (steady : context.Steady clock delay clock.now.index) :
    (repertoire.attest .call program context).Stays (Incident.IsTimely clock.tickMillis delay)
      fun reached => reached.2.Steady clock delay clock.now.index := by
  have walking : Occasion.call = .walk → clock.now.index < clock.now.index := nofun
  exact Attested.Upholds.attest repertoire (Nat.le_refl _) (Nat.le_succ _) walking program context
    steady

private theorem spawn (steady : world.Steady tickMillis delay) (agent : vocabulary.State)
    (name : String) (setup : Program vocabulary Unit) :
    Abides (world.attestedSpawn repertoire agent name setup) tickMillis delay := by
  unfold attestedSpawn
  cases agentIdFor world.roster.controllers.size with
  | error cause => exact .pure steady
  | ok id =>
      have advanced := steady.advance
      have newcomer : (world.newcomer id agent name).Steady world.clock delay
          world.clock.now.index := ⟨advanced.clock, steady.newcomers, advanced.abreast⟩
      have set := attest repertoire setup newcomer
      rw [steady.length] at set
      exact set.bind fun reached done =>
        (Testimony.stays_carry fun _ _ => trivial).bind fun _ (_ : True) =>
          .pure (steady.of_roster (advanced.enlist done))

private theorem withAgent (steady : world.Steady tickMillis delay) (agent : AgentId)
    (program : Program vocabulary α) :
    Abides (world.attestedWithAgent repertoire agent program) tickMillis delay := by
  unfold attestedWithAgent
  cases found : (world.roster.advanceTo world.clock.now).context? agent with
  | none => exact .pure steady
  | some context =>
      have advanced := steady.advance
      have ran := attest repertoire program (advanced.context_of found)
      rw [steady.length] at ran
      refine ran.bind fun reached done => .pure (steady.of_roster ?_)
      exact ⟨done.clock, done.abreast, (advanced.keep done agent).delay⟩

private theorem destroy (steady : world.Steady tickMillis delay) (agent : AgentId)
    (payload : vocabulary.Payload) :
    Abides (world.attestedDestroy repertoire agent payload) tickMillis delay := by
  unfold attestedDestroy
  cases found : world.roster.context? agent with
  | none => exact .pure steady
  | some context =>
      have told := Attested.Upholds.handleEvent repertoire steady.behind steady.close
        .entityDestroyed payload context (steady.roster.context_of found)
      rw [steady.measured] at told
      refine told.bind fun reached heard => ?_
      have torn := Attested.Upholds.teardown steady.close reached.2 heard
      rw [steady.measured] at torn
      refine torn.bind fun left done =>
        (Testimony.stays_carry fun _ _ => trivial).bind fun _ (_ : True) => .pure ?_
      have discharged := steady.roster.discharge done agent
      have same : left.2.timers.clock = world.roster.timers.clock := done.clock
      exact
        { length := steady.length
          measured := (congrArg Clock.tickMillis same).trans steady.measured
          newcomers := steady.newcomers
          behind := by
            change left.2.timers.clock.now ≤ world.clock.now
            rw [same]
            exact steady.behind
          close := by
            change world.clock.now.index ≤ left.2.timers.clock.now.index + 1
            rw [same]
            exact steady.close
          roster := by
            change (world.roster.discharge agent left.2.timers).Steady left.2.timers.clock delay
              world.clock.now.index
            rw [same]
            exact discharged }

private theorem obey (steady : world.Steady tickMillis delay) (call : Call vocabulary) :
    Abides (world.attestedObey repertoire call) tickMillis delay := by
  cases call with
  | spawn agent name setup => exact steady.spawn repertoire agent name setup
  | spawnWithTree agent name tree => exact steady.spawn repertoire agent name _
  | withAgent agent program => exact steady.withAgent repertoire agent program
  | post agent name payload =>
      refine .pure ?_
      unfold World.post
      cases world.controller? agent with
      | none => exact steady
      | some _ => exact { steady with }
  | destroy agent payload => exact steady.destroy repertoire agent payload
  | run => exact steady.toEnd repertoire
  | runTicks count => exact steady.ticks repertoire count

private theorem play (steady : world.Steady tickMillis delay) (calls : List (Call vocabulary)) :
    Abides (world.attestedPlay repertoire calls) tickMillis delay := by
  induction calls generalizing world with
  | nil => exact .pure steady
  | cons call calls ih => exact (steady.obey repertoire call).bind fun _ => ih

end Steady

/-- In a world where a reconsideration asked for at once takes a tick at most, an agent that asks
for one while one is pending has it brought forward to the next tick, if it was not to come in the
next tick or in this one already. Only one that is due in this very tick is put off, by a tick, and
only by code that runs before the timers of the tick are drained. -/
theorem hastens_of_play {config : Config} {reconsiderNow : Option Span}
    {calls : List (Call vocabulary)} (created : World.create config reconsiderNow = .ok world)
    (short : world.reconsiderNow.nanoseconds ≤ world.clock.tickNanoseconds) :
    (world.attestedPlay repertoire calls).unattested = world.play repertoire calls ∧
      ∀ occasion context, .asked occasion context .reconsiderNow ∈
          (world.attestedPlay repertoire calls).journal →
        ∀ handle due, context.controller.pending = some handle →
          context.timers.dueTick? handle = some due →
          context.timers.now ≤ due ∧ context.Hastens occasion due := by
  refine ⟨world.unattested_play repertoire calls, ?_⟩
  intro occasion context asked handle due _ known
  have timely := ((Steady.create created).play repertoire calls).entries _ asked
  exact ⟨timely.due handle due known, timely.hastens short known⟩

/-- A ship on a long patrol comes under attack. -/
theorem hastens_of_play_patrol :
    let calls : List (Call Patrol.ships) :=
      [.spawn (.fresh "Ada") "patrol" Patrol.start, .runTicks 2,
        .post ⟨0, by decide⟩ Patrol.shipBeingAttacked ⟨"Krait", 45⟩, .runTicks 1]
    ∃ world context handle due, World.create .standard none = .ok world ∧
      world.reconsiderNow.nanoseconds ≤ world.clock.tickNanoseconds ∧
      .asked .event context .reconsiderNow ∈ (world.attestedPlay Patrol.repertoire calls).journal ∧
      context.controller.pending = some handle ∧ context.timers.dueTick? handle = some due ∧
      due.index = 13 ∧ context.timers.now ≤ due ∧ context.Hastens .event due := by
  intro calls
  obtain ⟨world, created, facts⟩ : ∃ world, World.create .standard none = .ok world ∧
      (decide (world.reconsiderNow.nanoseconds ≤ world.clock.tickNanoseconds) &&
        (world.attestedPlay Patrol.repertoire calls).journal.any fun incident =>
          incident.urgent?.any fun urgent =>
            urgent.1 = .event && urgent.2.2.index = 13) = true :=
    exists_ok (by decide +kernel)
  obtain ⟨short, urged⟩ := (Bool.and_eq_true _ _).mp facts
  have short := of_decide_eq_true short
  obtain ⟨incident, member, urged⟩ := List.any_eq_true.mp urged
  obtain ⟨⟨occasion, context, due⟩, urgent, facts⟩ := (Option.any_eq_true _ _).mp urged
  obtain ⟨event, index⟩ := (Bool.and_eq_true _ _).mp facts
  obtain ⟨rfl, handle, pending, known⟩ := Incident.urgent?_eq_some.mp urgent
  obtain rfl : occasion = .event := of_decide_eq_true event
  exact ⟨world, context, handle, due, created, short, member, pending, known,
    of_decide_eq_true index,
    (hastens_of_play Patrol.repertoire created short).2 .event context member handle due pending
      known⟩

/-- A ship comes under attack in the very tick of its next reconsideration, and asks for one at
once: it gets it a tick later than it would have had it. -/
theorem put_off_of_attack :
    let calls : List (Call Patrol.ships) :=
      [.spawn (.fresh "Ada") "patrol" Patrol.start, .runTicks 13,
        .post ⟨0, by decide⟩ Patrol.shipBeingAttacked ⟨"Krait", 45⟩, .runTicks 1]
    ∃ world occasion context later handle due renewed next,
      World.create .standard none = .ok world ∧
      world.reconsiderNow.nanoseconds ≤ world.clock.tickNanoseconds ∧
      .asked occasion context .reconsiderNow ∈
        (world.attestedPlay Patrol.repertoire calls).journal ∧
      context.controller.pending = some handle ∧ context.timers.dueTick? handle = some due ∧
      context.reconsiderNow.outcome = .ok later ∧ later.controller.pending = some renewed ∧
      later.timers.dueTick? renewed = some next ∧ due < next := by
  intro calls
  obtain ⟨world, created, facts⟩ : ∃ world, World.create .standard none = .ok world ∧
      (decide (world.reconsiderNow.nanoseconds ≤ world.clock.tickNanoseconds) &&
        (world.attestedPlay Patrol.repertoire calls).journal.any fun incident =>
          incident.urgent?.any fun urgent =>
            urgent.2.1.reconsiderNow.outcome.toOption.any fun later =>
              later.dueNext?.any (urgent.2.2 < ·)) = true :=
    exists_ok (by decide +kernel)
  obtain ⟨short, urged⟩ := (Bool.and_eq_true _ _).mp facts
  obtain ⟨incident, member, urged⟩ := List.any_eq_true.mp urged
  obtain ⟨⟨occasion, context, due⟩, urgent, facts⟩ := (Option.any_eq_true _ _).mp urged
  obtain ⟨rfl, handle, pending, known⟩ := Incident.urgent?_eq_some.mp urgent
  obtain ⟨later, asked, facts⟩ := exists_ok facts
  obtain ⟨next, dueNext, after⟩ := (Option.any_eq_true _ _).mp facts
  obtain ⟨renewed, again, indexed⟩ := Option.bind_eq_some_iff.mp dueNext
  exact ⟨world, occasion, context, later, handle, due, renewed, next, created,
    of_decide_eq_true short, member, pending, known, asked, again, indexed,
    of_decide_eq_true after⟩

end World

end PriorityAgents
