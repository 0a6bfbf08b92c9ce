import PriorityAgents.Proofs.Controller.Prospect
import PriorityAgents.Proofs.Journal.Punctuality
import PriorityAgents.Proofs.World.Attest

/-!
What agents have in prospect, in the course of a tick.

Whoever has a tree in prospect is there, goes by that tree and has its timer, in the queue or among
those that are still to be handed out. So the timer that it is handed is the one that it has been
waiting for.
-/

set_option autoImplicit false

namespace PriorityAgents

variable {vocabulary : Vocabulary} {α : Type} {repertoire : Repertoire vocabulary}
  {docket : Docket} {history earlier rest segment : List (Incident vocabulary)} {agent : AgentId}
  {clock : Clock} {now : Tick} {issued : Nat}

/-! ### What is to be said of an account -/

/-- What is to be said of an incident, by what came before it and what comes after it.

A timer is handed to its owner at the time for which it was in prospect, and to be walked is the
tree that was in prospect; its walk follows, and the notice of it. Until then no tick ends at that
time, and there is no other walk: a rule that is chosen, and a notice, are of the walk in which the
tree was put to use. -/
def Incident.Fulfils (repertoire : Repertoire vocabulary)
    (earlier rest : List (Incident vocabulary)) : Incident vocabulary → Prop
  | .handed start timer =>
      (start.controller.id = timer.owner ∧ start.controller.pending = some timer.handle ∧
        start.timers.now.index + 1 < 2 ^ 64) ∧
      (∀ held, outlook timer.owner none earlier = some held →
        start.controller.tree = held.tree ∧ start.timers.now = held.due) ∧
      ∃ outcome done walk after,
        (repertoire.attestedOnTimer timer.handle start).Gives (outcome, done) walk ∧
        rest = walk ++
          .entered (.noticed (.reconsider start.timers.now timer.owner outcome)) :: after
  | .ruled context _ => ∀ held, outlook context.controller.id none earlier = some held →
      held.clock = context.timers.clock
  | .entered (.noticed (.reconsider tick agent _)) =>
      ∀ held, outlook agent none earlier = some held → held.clock.now = tick
  | .entered (.noticed (.tickEnd tick _)) =>
      ∀ agent held, outlook agent none earlier = some held → tick < held.due
  | _ => True

/-- All that is to be said of a stretch of an account, by what came before. -/
def Fulfilled (repertoire : Repertoire vocabulary) :
    List (Incident vocabulary) → List (Incident vocabulary) → Prop
  | _, [] => True
  | earlier, incident :: rest =>
      incident.Fulfils repertoire earlier rest ∧ Fulfilled repertoire (earlier ++ [incident]) rest

private theorem Incident.Fulfils.continued {incident : Incident vocabulary}
    (fulfils : incident.Fulfils repertoire earlier rest) (more : List (Incident vocabulary)) :
    incident.Fulfils repertoire earlier (rest ++ more) := by
  cases incident with
  | handed start timer =>
      obtain ⟨own, held, outcome, done, walk, after, given, rfl⟩ := fulfils
      exact ⟨own, held, outcome, done, walk, after ++ more, given, by simp⟩
  | entered entry =>
      cases entry with
      | noticed notice => cases notice <;> exact fulfils
      | _ => exact trivial
  | ruled context delay => exact fulfils
  | _ => exact trivial

namespace Fulfilled

theorem append (first : Fulfilled repertoire earlier history)
    (second : Fulfilled repertoire (earlier ++ history) segment) :
    Fulfilled repertoire earlier (history ++ segment) := by
  induction history generalizing earlier with
  | nil => rwa [List.append_nil] at second
  | cons incident history ih =>
      refine ⟨first.1.continued segment, ih first.2 ?_⟩
      rwa [List.append_assoc]

theorem incident {next : Incident vocabulary}
    (fulfilled : Fulfilled repertoire segment (history ++ next :: rest)) :
    next.Fulfils repertoire (segment ++ history) rest := by
  induction history generalizing segment with
  | nil =>
      rw [List.append_nil]
      exact fulfilled.1
  | cons first history ih =>
      have later := ih fulfilled.2
      rwa [List.append_assoc] at later

/-- Nothing is to be said of what an agent's code brings about, but that rules are chosen in the
walk from which all dates that is in prospect. -/
theorem own {walking : Prop}
    (mine : ∀ incident ∈ segment, incident.IsOf walking agent clock)
    (fresh : walking → Fresh clock (outlook agent none earlier)) :
    Fulfilled repertoire earlier segment := by
  induction segment generalizing earlier with
  | nil => exact trivial
  | cons incident segment ih =>
      have first := mine incident List.mem_cons_self
      refine ⟨?_, ih (fun later member => mine later (List.mem_cons_of_mem _ member)) ?_⟩
      · cases incident with
        | entered entry =>
            cases entry with
            | noticed notice => exact first.elim
            | _ => exact trivial
        | asked occasion context request => exact trivial
        | ruled context delay =>
            obtain ⟨rfl, rfl, walks⟩ := first
            exact fresh walks
        | handed context timer => exact first.elim
        | tornDown context => exact trivial
      · intro walks
        rw [outlook_append]
        exact (fresh walks).outlook fun other member => List.mem_singleton.mp member ▸ first

private theorem entered {entries : List Entry}
    (quiet : ∀ entry ∈ entries, entry.endsTick = false ∧ entry.reported? = none) :
    Fulfilled repertoire earlier (entries.map .entered) := by
  induction entries generalizing earlier with
  | nil => exact trivial
  | cons entry entries ih =>
      refine ⟨?_, ih fun other member => quiet other (List.mem_cons_of_mem _ member)⟩
      have first := quiet entry List.mem_cons_self
      cases entry with
      | noticed notice =>
          cases notice with
          | reconsider tick agent outcome => cases first.2
          | tickEnd tick fired => cases first.1
          | _ => exact trivial
      | _ => exact trivial

theorem enter (entry : Entry) (ends : entry.endsTick = false) (reports : entry.reported? = none) :
    Fulfilled repertoire earlier [.entered entry] := by
  have quiet : ∀ other ∈ [entry], other.endsTick = false ∧ other.reported? = none :=
    fun _ member => List.mem_singleton.mp member ▸ ⟨ends, reports⟩
  exact entered quiet

end Fulfilled

theorem Testimony.gives_plain {testimony : Testimony vocabulary α} {answer : α}
    (given : testimony.Gives answer history) : testimony.unattested.Gives answer (plain history) :=
  given.reading Incident.entry?

/-! ### Rosters -/

namespace Roster

variable {roster later middle : Roster vocabulary} {waiting : List Timer}
  {context start done : Context vocabulary}

/-- Whoever has something in prospect is there, goes by the tree and has its timer. -/
def Expects (roster : Roster vocabulary) (docket : Docket) (waiting : List Timer)
    (history : List (Incident vocabulary)) : Prop :=
  ∀ agent held, outlook agent none history = some held →
    ∃ controller, roster.controller? agent = some controller ∧ controller.tree = held.tree ∧
      ∃ timer ∈ waiting ++ docket.timers, timer.owner = agent ∧ timer.due = held.due

namespace Expects

private theorem atWork (expects : roster.Expects docket [] history)
    (found : roster.context? agent = some context) (id : context.controller.id = agent) :
    context.Expects docket (outlook agent none history) := by
  intro held known
  obtain ⟨controller, occupied, tree, timer, member, owner, due⟩ := expects agent held known
  have same := Option.some.inj (occupied.symm.trans (context?_eq_some.mp found).1)
  rw [same] at tree
  exact ⟨tree, timer, member, owner.trans id.symm, due⟩

theorem worked {walking : Prop} (expects : roster.Expects docket waiting history)
    (id : start.controller.id = agent) (clock : docket.clock = start.timers.clock)
    (accounts : start.Accounts walking done segment)
    (fresh : walking → Fresh start.timers.clock (outlook agent none history))
    (mine : start.Expects docket (outlook agent none history))
    (others : ∀ timer ∈ waiting, timer.owner ≠ agent)
    (elsewhere : ∀ other, other ≠ agent → later.controller? other = roster.controller? other)
    (here : ∀ held, outlook agent none (history ++ segment) = some held →
      later.controller? agent = some done.controller) :
    later.Expects (docket.read (plain segment)) waiting (history ++ segment) := by
  subst id
  intro other held known
  by_cases same : other = start.controller.id
  · subst same
    have occupied := here held known
    rw [outlook_append] at known
    obtain ⟨tree, timer, member, owner, due⟩ :=
      accounts.expects docket _ clock fresh mine held known
    exact ⟨done.controller, occupied, tree, timer, List.mem_append_right _ member,
      owner.trans accounts.id, due⟩
  -- Whatever one agent's code enters is its own, so it strikes out no line of another's.
  · rw [outlook_append, outlook_of_other accounts.own same] at known
    obtain ⟨controller, occupied, tree, timer, member, owner, due⟩ := expects other held known
    refine ⟨controller, (elsewhere other same).trans occupied, tree, timer, ?_, owner, due⟩
    rcases List.mem_append.mp member with before | standing
    · exact List.mem_append_left _ before
    · have foreign : timer.owner ≠ start.controller.id := owner ▸ same
      have kept : timer ∈ docket.others start.controller.id :=
        Docket.mem_others.mpr ⟨standing, foreign⟩
      rw [← (docket.read_own (Context.Accounts.own_plain accounts.own)).2] at kept
      exact List.mem_append_right _ (Docket.mem_others.mp kept).1

private theorem entered {entries : List Entry} (expects : roster.Expects docket waiting history)
    (same : (docket.read entries).timers = docket.timers) :
    roster.Expects (docket.read entries) waiting (history ++ entries.map .entered) := by
  intro agent held known
  rw [outlook_append, outlook_entered] at known
  rw [same]
  exact expects agent held known

theorem enter (entry : Entry) (expects : roster.Expects docket waiting history)
    (same : (docket.enter entry).timers = docket.timers) :
    roster.Expects (docket.enter entry) waiting (history ++ [.entered entry]) := by
  change (docket.read [entry]).timers = docket.timers at same
  exact expects.entered same

end Expects

/-- What agents have in prospect is there, and so far all has been fulfilled. -/
structure Honours (repertoire : Repertoire vocabulary) (roster : Roster vocabulary)
    (docket : Docket) (waiting : List Timer) (history : List (Incident vocabulary)) : Prop where
  expects : roster.Expects docket waiting history
  fulfilled : Fulfilled repertoire [] history

namespace Honours

private theorem entered {entries : List Entry}
    (honours : roster.Honours repertoire docket waiting history)
    (same : (docket.read entries).timers = docket.timers)
    (quiet : ∀ entry ∈ entries, entry.endsTick = false ∧ entry.reported? = none) :
    roster.Honours repertoire (docket.read entries) waiting (history ++ entries.map .entered) where
  expects := honours.expects.entered same
  fulfilled := honours.fulfilled.append (.entered quiet)

theorem enter (entry : Entry) (honours : roster.Honours repertoire docket waiting history)
    (same : (docket.enter entry).timers = docket.timers) (ends : entry.endsTick = false)
    (reports : entry.reported? = none) :
    roster.Honours repertoire (docket.enter entry) waiting (history ++ [.entered entry]) where
  expects := honours.expects.enter entry same
  fulfilled := honours.fulfilled.append (.enter entry ends reports)

theorem keep {walking : Prop} (honours : roster.Honours repertoire docket [] history)
    (keeps : roster.Keeps issued docket []) (found : roster.context? agent = some context)
    (accounts : context.Accounts walking done segment) (idle : ¬walking) :
    (roster.keep agent done).Honours repertoire (docket.read (plain segment)) []
      (history ++ segment) := by
  obtain ⟨id, begun⟩ := keeps.atWork found
  have occupied := (context?_eq_some.mp found).1
  refine ⟨?_, honours.fulfilled.append (.own accounts.own fun walks => absurd walks idle)⟩
  refine honours.expects.worked id begun.clock.symm accounts (fun walks => absurd walks idle)
    (honours.expects.atWork found id) nofun ?_ ?_
  · intro other foreign
    rw [controller?_keep occupied, if_neg foreign]
  · intro _ _
    rw [controller?_keep occupied, if_pos rfl]

end Honours

/-! ### Events -/

private theorem gives_concluded {event : PendingEvent vocabulary} {handled : Bool} {answer : Unit} :
    (concluded now event handled : Testimony vocabulary Unit).Gives answer history ↔
      history = ((unheard event handled).map Entry.told ++
        [Entry.noticed (.event now event.agent event.name handled)]).map .entered := by
  unfold concluded
  rw [Testimony.gives_carry]
  constructor
  · rintro ⟨entries, given, rfl⟩
    cases given
    rfl
  · rintro rfl
    exact ⟨_, rfl, rfl⟩

private theorem honours_concluded {event : PendingEvent vocabulary} {handled : Bool} {answer : Unit}
    (honours : roster.Honours repertoire docket [] history)
    (given : (concluded now event handled : Testimony vocabulary Unit).Gives answer segment) :
    roster.Honours repertoire (docket.read (plain segment)) [] (history ++ segment) := by
  obtain rfl := gives_concluded.mp given
  obtain ⟨routine, unreported, _, same, _⟩ := ending_routine event handled now docket
  rw [plain_entered]
  refine honours.entered (congrArg Docket.timers same) fun entry member => ?_
  exact ⟨(routine_facts (routine entry member)).1, List.filterMap_eq_nil_iff.mp unreported _ member⟩

private theorem honours_deliver {event : PendingEvent vocabulary}
    (honours : roster.Honours repertoire docket [] history)
    (keeps : roster.Keeps issued docket [])
    (given : (roster.attestedDeliver repertoire now event).Gives later segment) :
    later.Honours repertoire (docket.read (plain segment)) [] (history ++ segment) := by
  unfold attestedDeliver at given
  cases found : roster.context? event.agent with
  | none =>
      rw [found] at given
      obtain ⟨_, closing, _, told, rest, rfl⟩ := Journaled.gives_bind.mp given
      obtain ⟨rfl, rfl⟩ := Journaled.gives_pure.mp rest
      rw [List.append_nil]
      exact honours_concluded honours told
  | some context =>
      rw [found] at given
      obtain ⟨⟨handled, done⟩, working, _, heard, rest, rfl⟩ := Journaled.gives_bind.mp given
      obtain ⟨_, closing, _, told, last, rfl⟩ := Journaled.gives_bind.mp rest
      obtain ⟨rfl, rfl⟩ := Journaled.gives_pure.mp last
      have accounts : context.Accounts False done working :=
        Attested.Accounted.handleEvent repertoire event.name event.payload context handled done
          working heard
      rw [List.append_nil, plain_append, Docket.read_append, ← List.append_assoc]
      exact honours_concluded (honours.keep keeps found accounts id) told

theorem honours_deliverAll {events : List (PendingEvent vocabulary)}
    (honours : roster.Honours repertoire docket [] history)
    (keeps : roster.Keeps issued docket [])
    (given : (roster.attestedDeliverAll repertoire now events).Gives later segment)
    (room : issued + (plain segment).countP Entry.isArming ≤ 2 ^ 32 - 1) :
    later.Honours repertoire (docket.read (plain segment)) [] (history ++ segment) := by
  induction events generalizing roster issued docket history segment with
  | nil =>
      obtain ⟨rfl, rfl⟩ := Journaled.gives_pure.mp given
      rw [List.append_nil]
      exact honours
  | cons event events ih =>
      obtain ⟨middle, first, second, delivered, rest, rfl⟩ := Journaled.gives_bind.mp given
      rw [plain_append, List.countP_append] at room
      have served := deliver_served keeps
        (roster.unattested_deliver repertoire now event ▸ Testimony.gives_plain delivered)
        (by omega)
      rw [plain_append, Docket.read_append, ← List.append_assoc]
      exact ih (honours_deliver honours keeps delivered) served.keeps rest (by omega)

/-! ### Fired timers -/

theorem gives_attestedRouteAll_cons {timer : Timer} {timers : List Timer} {fired : Nat}
    (found : roster.context? timer.owner = some context) :
    (roster.attestedRouteAll repertoire now (timer :: timers)).Gives (fired, later) history ↔
      ∃ outcome done walk others after,
        (repertoire.attestedOnTimer timer.handle context).Gives (outcome, done) walk ∧
        ((roster.keep timer.owner done).attestedRouteAll repertoire now timers).Gives
          (others, later) after ∧
        fired = others + 1 ∧
        history = .handed context timer ::
          (walk ++ [.entered (.noticed (.reconsider now timer.owner outcome))]) ++ after := by
  simp only [attestedRouteAll, found, Journaled.gives_bind, Journaled.gives_enter,
    Testimony.gives_carry, Logged.gives_notify, Journaled.gives_pure, Prod.exists, Prod.mk.injEq]
  constructor
  · rintro ⟨_, _, _, rfl, ⟨outcome, done, walk, _, walked, ⟨_, _, _, ⟨_, rfl, rfl⟩, ⟨others, _,
      after, _, routed, ⟨⟨rfl, rfl⟩, rfl⟩, rfl⟩, rfl⟩, rfl⟩, rfl⟩
    exact ⟨outcome, done, walk, others, after, walked, routed, rfl, by simp⟩
  · rintro ⟨outcome, done, walk, others, after, walked, routed, rfl, rfl⟩
    exact ⟨(), _, _, rfl, ⟨outcome, done, walk, _, walked, ⟨(), _, _, ⟨_, rfl, rfl⟩, ⟨others, later,
      after, [], routed, ⟨⟨rfl, rfl⟩, rfl⟩, rfl⟩, rfl⟩, rfl⟩, by simp⟩

/-- Whoever is handed its timer has nothing in prospect any more, until its walk is on. -/
theorem Expects.handOut {timer : Timer} (expects : roster.Expects docket (timer :: waiting) history)
    (context : Context vocabulary) :
    roster.Expects docket waiting (history ++ [.handed context timer]) := by
  intro agent held known
  rw [outlook_append] at known
  change (if timer.owner = agent then none else outlook agent none history) = some held at known
  by_cases mine : timer.owner = agent
  · rw [if_pos mine] at known
    cases known
  · rw [if_neg mine] at known
    obtain ⟨controller, occupied, tree, other, member, owner, due⟩ := expects agent held known
    refine ⟨controller, occupied, tree, other, ?_, owner, due⟩
    rw [List.cons_append] at member
    rcases List.mem_cons.mp member with rfl | member
    · exact absurd owner mine
    · exact member

private theorem outlook_handed (history : List (Incident vocabulary)) (context : Context vocabulary)
    (timer : Timer) :
    outlook timer.owner none (history ++ [.handed context timer]) = none := by
  rw [outlook_append]
  exact if_pos rfl

private theorem Keeps.fulfils {timer : Timer}
    (keeps : roster.Keeps issued docket (timer :: waiting))
    (expects : roster.Expects docket (timer :: waiting) history)
    (found : roster.context? timer.owner = some context) {held : Prospect vocabulary}
    (known : outlook timer.owner none history = some held) :
    context.controller.tree = held.tree ∧ timer.due = held.due := by
  obtain ⟨controller, occupied, tree, other, member, owner, due⟩ := expects _ held known
  have same := Option.some.inj (occupied.symm.trans (context?_eq_some.mp found).1)
  have one : other = timer :=
    List.inj_on_of_nodup_map keeps.owners member List.mem_cons_self owner
  rw [one] at due
  exact ⟨same ▸ tree, due⟩

private theorem Honours.handOut {timer : Timer} {outcome : Reconsideration}
    (honours : roster.Honours repertoire docket (timer :: waiting) history)
    (keeps : roster.Keeps issued docket (timer :: waiting)) (standing : docket.clock.now = now)
    (next : now.index + 1 < 2 ^ 64) (due : timer.due = now)
    (found : roster.context? timer.owner = some context)
    (walked : (repertoire.attestedOnTimer timer.handle context).Gives (outcome, done) segment) :
    (roster.keep timer.owner done).Honours repertoire (docket.read (plain segment)) waiting
      (history ++ .handed context timer ::
        (segment ++ [.entered (.noticed (.reconsider now timer.owner outcome))])) := by
  obtain ⟨_, alsoFound, pending, id, begun⟩ := keeps.detached
  cases alsoFound.symm.trans found
  have clock : context.timers.clock = docket.clock := begun.clock
  have reached : context.timers.now = now := (congrArg Clock.now clock).trans standing
  have accounts : context.detached.Accounts True done segment := by
    have given := walked
    rw [repertoire.attestedOnTimer_of_pending pending] at given
    split at given
    · exact Attested.Accounted.choice repertoire _ _ outcome done segment given
    · exact Attested.Accounted.pure Reconsideration.agentGone _ outcome done segment given
  -- From here on the walk alone can put something in prospect, and that dates from this tick.
  have nothing := outlook_handed history context timer
  have fresh : Fresh context.timers.clock
      (outlook timer.owner none (history ++ [.handed context timer])) := by
    rw [nothing]
    exact nofun
  have handed := honours.expects.handOut context
  have expects : (roster.keep timer.owner done).Expects (docket.read (plain segment)) waiting
      ((history ++ [.handed context timer]) ++ segment) := by
    have occupied := (context?_eq_some.mp found).1
    refine handed.worked id clock.symm accounts (fun _ => fresh) ?_ keeps.foreign ?_ ?_
    · rw [nothing]
      exact nofun
    · intro other foreign
      rw [controller?_keep occupied, if_neg foreign]
    · intro _ _
      rw [controller?_keep occupied, if_pos rfl]
  have own : ∀ incident ∈ segment, incident.IsOf True timer.owner context.timers.clock :=
    id ▸ accounts.own
  refine ⟨?_, honours.fulfilled.append ⟨⟨⟨id, pending, reached ▸ next⟩, ?_, ?_⟩,
    (Fulfilled.own own fun _ => fresh).append ⟨?_, trivial⟩⟩⟩
  · have told := expects.enter (.noticed (.reconsider now timer.owner outcome)) rfl
    rw [List.append_assoc, List.append_assoc] at told
    exact told
  · intro held known
    obtain ⟨tree, same⟩ := keeps.fulfils honours.expects found known
    exact ⟨tree, reached.trans (due.symm.trans same)⟩
  · exact ⟨outcome, done, segment, [], walked, by rw [reached]⟩
  · intro held known
    rw [outlook_append] at known
    rw [(fresh.outlook own) held known]
    exact reached

private theorem honours_routeAll {fired : Nat}
    (honours : roster.Honours repertoire docket waiting history)
    (keeps : roster.Keeps issued docket waiting) (standing : docket.clock.now = now)
    (next : now.index + 1 < 2 ^ 64) (due : ∀ timer ∈ waiting, timer.due = now)
    (given : (roster.attestedRouteAll repertoire now waiting).Gives (fired, later) segment)
    (room : issued + (plain segment).countP Entry.isArming ≤ 2 ^ 32 - 1) :
    later.Honours repertoire (docket.read (plain segment)) [] (history ++ segment) := by
  -- What is left to be handed out is still part of what is pending, and so of the invariant.
  induction waiting generalizing roster issued docket history segment fired with
  | nil =>
      obtain ⟨reached, rfl⟩ := Journaled.gives_pure.mp given
      cases reached
      rw [List.append_nil]
      exact honours
  | cons timer waiting ih =>
      obtain ⟨context, found, _⟩ := keeps.detached
      obtain ⟨outcome, done, walk, others, after, walked, routed, rfl, rfl⟩ :=
        (gives_attestedRouteAll_cons found).mp given
      let notice : Entry := .noticed (.reconsider now timer.owner outcome)
      have split : plain (.handed context timer :: (walk ++ [.entered notice]) ++ after) =
          (plain walk ++ [notice]) ++ plain after := by
        rw [plain_append]
        exact congrArg (· ++ plain after) (plain_append walk [.entered notice])
      rw [split, List.countP_append, armings_reconsidered] at room
      have ran : (context.onTimer repertoire timer.handle).Gives (outcome, done) (plain walk) :=
        repertoire.unattested_onTimer timer.handle context ▸ Testimony.gives_plain walked
      obtain ⟨kept, _, works, _⟩ := keeps.handOut found ran (by omega)
      have clock := (docket.read_own works.own).1
      rw [split, Docket.read_append, read_reconsidered, ← List.append_assoc]
      exact ih (honours.handOut keeps standing next (due timer List.mem_cons_self) found walked)
        kept ((congrArg Clock.now clock).trans standing)
        (fun other member => due other (List.mem_cons_of_mem _ member)) routed (by omega)

private theorem gives_attestedFire {fired : Nat} :
    (roster.attestedFire repertoire now).Gives (fired, later) history ↔
      ∃ due timers routing, roster.timers.drain now = .ok (due, timers) ∧
        (attestedRouteAll repertoire now { roster with timers } due).Gives (fired, later) routing ∧
        history = .entered (.drained now) :: routing := by
  simp only [attestedFire, Journaled.gives_bind, Journaled.gives_lift, Testimony.gives_carry,
    Journaled.gives_enter, Prod.exists]
  constructor
  · rintro ⟨due, timers, _, _, ⟨drained, rfl⟩, ⟨_, _, routing, ⟨_, rfl, rfl⟩, routed, rfl⟩, rfl⟩
    exact ⟨due, timers, routing, drained, routed, rfl⟩
  · rintro ⟨due, timers, routing, drained, routed, rfl⟩
    exact ⟨due, timers, _, _, ⟨drained, rfl⟩, ⟨(), _, routing, ⟨_, rfl, rfl⟩, routed, rfl⟩, rfl⟩

private theorem Expects.drain (expects : roster.Expects docket [] history) (timers : TimerQueue) :
    ({ roster with timers } : Roster vocabulary).Expects (docket.enter (.drained now))
      (Timer.inDueOrder (docket.timers.filter (·.due ≤ now)))
      (history ++ [.entered (.drained now)]) := by
  intro agent held known
  rw [outlook_append] at known
  obtain ⟨controller, occupied, tree, timer, member, owner, due⟩ := expects agent held known
  refine ⟨controller, occupied, tree, timer, ?_, owner, due⟩
  by_cases passed : timer.due ≤ now
  · refine List.mem_append_left _ ((Timer.inDueOrder_perm _).mem_iff.mpr ?_)
    exact List.mem_filter.mpr ⟨member, decide_eq_true passed⟩
  · refine List.mem_append_right _ (List.mem_filter.mpr ⟨member, decide_eq_true ?_⟩)
    rw [Tick.le_def] at passed
    exact Nat.lt_of_not_le passed

theorem honours_fire {fired : Nat} (honours : roster.Honours repertoire docket [] history)
    (keeps : roster.Keeps issued docket []) (standing : docket.clock.now = now)
    (due : ∀ timer ∈ docket.timers, now ≤ timer.due)
    (given : (roster.attestedFire repertoire now).Gives (fired, later) segment)
    (room : issued + (plain segment).countP Entry.isArming ≤ 2 ^ 32 - 1) :
    later.Honours repertoire (docket.read (plain segment)) [] (history ++ segment) := by
  have fires := roster.unattested_fire repertoire now ▸ Testimony.gives_plain given
  obtain ⟨_, _, next, _⟩ := fire_served keeps standing fires room
  obtain ⟨handed, timers, routing, drained, routed, rfl⟩ := gives_attestedFire.mp given
  obtain ⟨rfl, drainedKeeps⟩ := keeps.drain standing drained
  have begun : ({ roster with timers } : Roster vocabulary).Honours repertoire
      (docket.enter (.drained now)) (Timer.inDueOrder (docket.timers.filter (·.due ≤ now)))
      (history ++ [.entered (.drained now)]) :=
    ⟨honours.expects.drain timers, honours.fulfilled.append ⟨trivial, trivial⟩⟩
  have onTime : ∀ timer ∈ Timer.inDueOrder (docket.timers.filter (·.due ≤ now)),
      timer.due = now := by
    rw [World.inDueOrder_due due]
    exact fun timer member => of_decide_eq_true (List.mem_filter.mp member).2
  have routedHonours := honours_routeAll begun drainedKeeps standing next onTime routed room
  rwa [List.append_assoc] at routedHonours

end Roster

end PriorityAgents
