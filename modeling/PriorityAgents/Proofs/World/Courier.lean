import PriorityAgents.Patrol.Rules
import PriorityAgents.Proofs.Controller.Turn
import PriorityAgents.Proofs.World.Rounds

/-!
A host that is in no hurry: it drains timers when it likes, keeps what it has drained, and hands it
to the owners late, out of order, more than once or never.

Queue and slots are out of step most of the time here. A slot may hold a handle that has been
drained, and a drained timer may belong to an agent whose slot has been filled anew. What holds all
the same is that the queue has nothing but what is in the slots, and that a slot holds what its
agent is owed.
-/

set_option autoImplicit false

namespace PriorityAgents

variable {vocabulary : Vocabulary} {ε δ : Type}

/-- Agents and their timers in the hands of a host that keeps the timers it drains. -/
structure Courier (vocabulary : Vocabulary) where
  roster : Roster vocabulary
  /-- Everything that has been drained so far, whether it has been handed out or not. -/
  satchel : List Timer

inductive Errand (vocabulary : Vocabulary) where
  | work (agent : AgentId) (program : Program vocabulary Unit)
  | event (agent : AgentId) (name : EventName) (payload : vocabulary.Payload)
  | teardown (agent : AgentId)
  | advance (tick : Tick)
  | drain (tick : Tick)
  /-- Hand a timer of the satchel to its owner. It stays in the satchel. -/
  | handOut (place : Nat)

namespace Courier

def attend (courier : Courier vocabulary) (agent : AgentId)
    (take : Context vocabulary → Journaled ε (Unit × Context vocabulary)) :
    Journaled ε (Courier vocabulary) :=
  match courier.roster.context? agent with
  | none => pure courier
  | some context => do
      let (_, later) ← take context
      pure { courier with roster := courier.roster.keep agent later }

def serve (take : Turn vocabulary → Context vocabulary → Journaled ε (Unit × Context vocabulary))
    (courier : Courier vocabulary) : Errand vocabulary → Journaled ε (Courier vocabulary)
  | .work agent program => courier.attend agent (take (.work program))
  | .event agent name payload => courier.attend agent (take (.event name payload))
  | .teardown agent => courier.attend agent (take .teardown)
  | .advance tick => pure { courier with roster := courier.roster.advanceTo tick }
  | .drain tick => do
      let (due, timers) ← courier.roster.timers.drain tick
      pure { roster := { courier.roster with timers }, satchel := courier.satchel ++ due }
  | .handOut place =>
      match courier.satchel[place]? with
      | none => pure courier
      | some timer => courier.attend timer.owner (take (.fire timer.handle))

def serveAll (take : Turn vocabulary → Context vocabulary → Journaled ε (Unit × Context vocabulary))
    (courier : Courier vocabulary) : List (Errand vocabulary) → Journaled ε (Courier vocabulary)
  | [] => pure courier
  | errand :: errands => do
      let courier ← courier.serve take errand
      courier.serveAll take errands

/-! ### Errands under watch -/

section Reading

variable (select : ε → Option δ)
  (take : Turn vocabulary → Context vocabulary → Journaled ε (Unit × Context vocabulary))

private theorem reading_attend (courier : Courier vocabulary) (agent : AgentId)
    (turn : Turn vocabulary) :
    (courier.attend agent (take turn)).reading select =
      courier.attend agent fun context => (take turn context).reading select := by
  unfold attend
  cases courier.roster.context? agent with
  | none => rfl
  | some context => exact Journaled.reading_bind select (take turn context) _

private theorem reading_serve (courier : Courier vocabulary) (errand : Errand vocabulary) :
    (courier.serve take errand).reading select =
      courier.serve (fun turn context => (take turn context).reading select) errand := by
  cases errand with
  | work agent program => exact reading_attend select take courier agent _
  | event agent name payload => exact reading_attend select take courier agent _
  | teardown agent => exact reading_attend select take courier agent _
  | advance tick => rfl
  | drain tick => exact Journaled.reading_bind select _ _
  | handOut place =>
      simp only [serve]
      cases courier.satchel[place]? with
      | none => rfl
      | some timer => exact reading_attend select take courier _ _

private theorem reading_serveAll (courier : Courier vocabulary)
    (errands : List (Errand vocabulary)) :
    (courier.serveAll take errands).reading select =
      courier.serveAll (fun turn context => (take turn context).reading select) errands := by
  induction errands generalizing courier with
  | nil => rfl
  | cons errand errands ih =>
      rw [serveAll, serveAll, Journaled.reading_bind, reading_serve]
      exact congrArg _ (funext ih)

end Reading

theorem unwatched_serveAll (repertoire : Repertoire vocabulary) (courier : Courier vocabulary)
    (errands : List (Errand vocabulary)) :
    (courier.serveAll (Turn.watched repertoire) errands).reading Mark.entry? =
      courier.serveAll (Turn.take repertoire) errands := by
  rw [reading_serveAll]
  refine congrArg (courier.serveAll · errands) ?_
  funext turn context
  exact turn.unwatched_watched repertoire context

/-! ### Slots and queue -/

def slot (courier : Courier vocabulary) (agent : AgentId) : Option TimerHandle :=
  (courier.roster.controller? agent).bind Controller.pending

variable {courier : Courier vocabulary} {agent : AgentId} {context start later : Context vocabulary}
  {issued : Nat} {docket : Docket} {history marks : List (Mark vocabulary)}
  {journal : List Entry}

private theorem slot_of_found (found : courier.roster.context? agent = some context) :
    courier.slot agent = context.controller.pending := by
  rw [slot, (Roster.context?_eq_some.mp found).1, Option.bind_some]

def keep (courier : Courier vocabulary) (agent : AgentId) (context : Context vocabulary) :
    Courier vocabulary :=
  { courier with roster := courier.roster.keep agent context }

private theorem slot_keep (found : courier.roster.context? agent = some context)
    (later : Context vocabulary) (other : AgentId) :
    (courier.keep agent later).slot other =
      if other = agent then later.controller.pending else courier.slot other := by
  unfold slot keep
  rw [Roster.controller?_keep (Roster.context?_eq_some.mp found).1]
  split <;> rfl

theorem keep_self (found : courier.roster.context? agent = some context) :
    courier.keep agent context = courier := by
  unfold keep
  rw [Roster.keep_self found]

/-- The queue holds a docket of which every line is in the slot of its owner. No two slots hold the
same handle, and what is in the satchel is not in the queue. -/
structure Keeps (courier : Courier vocabulary) (issued : Nat) (docket : Docket) : Prop where
  clock : courier.roster.timers.clock = docket.clock
  holds : courier.roster.timers.Holds issued docket.timers
  seats (index : Nat) (controller : Controller vocabulary) :
    courier.roster.controllers[index]? = some (some controller) → controller.id.index = index
  backed : ∀ timer ∈ docket.timers, courier.slot timer.owner = some timer.handle
  sole (agent other : AgentId) (handle : TimerHandle) :
    courier.slot agent = some handle → courier.slot other = some handle → agent = other
  known (agent : AgentId) (handle : TimerHandle) :
    courier.slot agent = some handle → handle.index < issued
  drained : ∀ timer ∈ courier.satchel, timer.handle.index < issued ∧
    ∀ held ∈ docket.timers, held.handle ≠ timer.handle

namespace Keeps

theorem id_eq (keeps : courier.Keeps issued docket)
    (found : courier.roster.context? agent = some context) : context.controller.id = agent :=
  AgentId.ext (keeps.seats _ _
    (Roster.controller?_eq_some.mp (Roster.context?_eq_some.mp found).1))

theorem covers (keeps : courier.Keeps issued docket)
    (found : courier.roster.context? agent = some context) : context.Covers issued docket := by
  have timers := (Roster.context?_eq_some.mp found).2
  have id := keeps.id_eq found
  have filled := slot_of_found found
  refine
    { clock := timers ▸ keeps.clock
      holds := timers ▸ keeps.holds
      own := ?_
      sole := ?_
      known := fun handle pending => keeps.known agent handle (filled.trans pending) }
  · intro timer member mine
    rw [← filled, ← id, ← mine]
    exact keeps.backed timer member
  · intro timer member pending
    rw [id]
    exact keeps.sole _ _ _ (keeps.backed timer member) (filled.trans pending)

theorem covers_detached {timer : Timer} (keeps : courier.Keeps issued docket)
    (packed : timer ∈ courier.satchel)
    (found : courier.roster.context? agent = some context)
    (pending : context.controller.pending = some timer.handle) :
    context.detached.Covers issued docket := by
  have covers := keeps.covers found
  refine
    { clock := covers.clock
      holds := covers.holds
      own := fun held member mine => ?_
      sole := nofun
      known := nofun }
  have same := (covers.own held member mine).symm.trans pending
  exact absurd (Option.some.inj same) ((keeps.drained timer packed).2 held member)

private theorem course (keeps : courier.Keeps issued docket)
    (found : courier.roster.context? agent = some context) (covers : start.Covers issued docket)
    (id : start.controller.id = agent)
    (emptied : ∀ handle, start.controller.pending = some handle →
      courier.slot agent = some handle)
    (taken : Context.Course start later journal)
    (room : issued + journal.countP Entry.isArming ≤ 2 ^ 32 - 1) :
    (courier.keep agent later).Keeps (issued + journal.countP Entry.isArming)
      (docket.read journal) := by
  obtain ⟨kept, fresh, lines⟩ := covers.course taken room
  have works := Context.Works.of_course taken
  have laterId := works.id.trans id
  have slot := slot_keep found later
  have same := (docket.read_own works.own).2
  rw [id] at same
  refine
    { clock := kept.clock
      holds := kept.holds
      seats := Roster.slots_keep laterId keeps.seats
      backed := ?_
      sole := ?_
      known := ?_
      drained := ?_ }
  · intro timer member
    rw [slot]
    split
    · rename_i mine
      exact kept.own timer member (mine.trans laterId.symm)
    · rename_i foreign
      have other : timer ∈ (docket.read journal).others agent :=
        Docket.mem_others.mpr ⟨member, foreign⟩
      rw [same] at other
      exact keeps.backed timer (Docket.mem_others.mp other).1
  · have apart (other : AgentId) (foreign : other ≠ agent) (handle : TimerHandle)
        (mine : later.controller.pending = some handle) : courier.slot other ≠ some handle := by
      intro theirs
      rcases fresh handle mine with held | new
      · exact foreign (keeps.sole _ _ _ theirs (emptied handle held))
      · exact absurd (keeps.known other handle theirs) (Nat.not_lt_of_le new)
    intro first second handle left right
    rw [slot] at left right
    by_cases mine : first = agent
    · by_cases theirs : second = agent
      · rw [mine, theirs]
      · rw [if_pos mine] at left
        rw [if_neg theirs] at right
        exact absurd right (apart second theirs handle left)
    · rw [if_neg mine] at left
      by_cases theirs : second = agent
      · rw [if_pos theirs] at right
        exact absurd left (apart first mine handle right)
      · rw [if_neg theirs] at right
        exact keeps.sole _ _ _ left right
  · intro other handle filled
    rw [slot] at filled
    split at filled
    · exact kept.known handle filled
    · exact Nat.lt_add_right _ (keeps.known other handle filled)
  · intro timer packed
    obtain ⟨old, gone⟩ := keeps.drained timer packed
    refine ⟨Nat.lt_add_right _ old, fun held member equal => ?_⟩
    rcases lines held member with before | new
    · exact gone held before equal
    · rw [equal] at new
      exact absurd old (Nat.not_lt_of_le new)

private theorem advance (keeps : courier.Keeps issued docket) (tick : Tick) :
    ({ courier with roster := courier.roster.advanceTo tick } : Courier vocabulary).Keeps issued
      { docket with clock := { docket.clock with now := docket.clock.now.latest tick } } where
  clock := by
    change ({ courier.roster.timers.clock with
      now := courier.roster.timers.clock.now.latest tick } : Clock) = _
    rw [keeps.clock]
  holds := keeps.holds.advanceTo tick
  seats := keeps.seats
  backed := keeps.backed
  sole := keeps.sole
  known := keeps.known
  drained := keeps.drained

private theorem drain {tick : Tick} {due : List Timer} {timers : TimerQueue}
    (keeps : courier.Keeps issued docket)
    (out : courier.roster.timers.drain tick = .ok (due, timers)) :
    (Courier.mk { courier.roster with timers } (courier.satchel ++ due)).Keeps issued
      { clock := { docket.clock with now := docket.clock.now.latest tick }
        timers := docket.timers.filter (tick < ·.due) } := by
  obtain ⟨rfl, holds, clock⟩ := keeps.holds.drain out
  refine
    { clock := ?_
      holds := holds
      seats := keeps.seats
      backed := fun timer member => keeps.backed timer (List.mem_of_mem_filter member)
      sole := keeps.sole
      known := keeps.known
      drained := ?_ }
  · rw [← keeps.clock]
    exact clock
  · intro timer packed
    rcases List.mem_append.mp packed with before | now
    · obtain ⟨old, gone⟩ := keeps.drained timer before
      exact ⟨old, fun held member => gone held (List.mem_of_mem_filter member)⟩
    · obtain ⟨member, passed⟩ := List.mem_filter.mp
        ((Timer.inDueOrder_perm _).mem_iff.mp now)
      refine ⟨keeps.holds.issuedBefore timer member, fun held left equal => ?_⟩
      obtain ⟨heldMember, ahead⟩ := List.mem_filter.mp left
      rw [keeps.holds.eq_of_handle heldMember member equal, decide_eq_true_eq, Tick.lt_def]
        at ahead
      rw [decide_eq_true_eq, Tick.le_def] at passed
      omega

end Keeps

/-! ### Slots and history -/

/-- Every slot holds what its agent is owed, and what has been acted on is in no slot and has been
acted on once. -/
structure Accounts (courier : Courier vocabulary) (issued : Nat)
    (history : List (Mark vocabulary)) : Prop where
  claims (agent : AgentId) : courier.slot agent = claim agent none history
  once : (acted history).Nodup
  spent : ∀ handle ∈ acted history, handle.index < issued ∧
    ∀ agent, courier.slot agent ≠ some handle

namespace Accounts

private theorem spent_of_fresh {laterIssued : Nat} {handle : TimerHandle}
    (accounts : courier.Accounts issued history)
    (found : courier.roster.context? agent = some context) (more : issued ≤ laterIssued)
    (fresh : ∀ handle, later.controller.pending = some handle →
      courier.slot agent = some handle ∨ issued ≤ handle.index)
    (member : handle ∈ acted history) :
    handle.index < laterIssued ∧
      ∀ other, (courier.keep agent later).slot other ≠ some handle := by
  obtain ⟨old, gone⟩ := accounts.spent handle member
  refine ⟨Nat.lt_of_lt_of_le old more, fun other => ?_⟩
  rw [slot_keep found]
  split
  · intro filled
    rcases fresh handle filled with held | new
    · exact gone agent held
    · exact absurd old (Nat.not_lt_of_le new)
  · exact gone other

private theorem work {laterIssued : Nat} (accounts : courier.Accounts issued history)
    (found : courier.roster.context? agent = some context) (id : context.controller.id = agent)
    (trail : context.Trail later marks) (more : issued ≤ laterIssued)
    (fresh : ∀ handle, later.controller.pending = some handle →
      context.controller.pending = some handle ∨ issued ≤ handle.index) :
    (courier.keep agent later).Accounts laterIssued (history ++ marks) := by
  have own := trail.own
  have pending := trail.pending
  rw [id] at own pending
  have filled := slot_of_found found
  have nothing : acted (history ++ marks) = acted history := by
    rw [acted_append, acted_of_own own, List.append_nil]
  refine ⟨fun other => ?_, ?_, ?_⟩
  · rw [slot_keep found, claim_append, ← accounts.claims other]
    split
    · rename_i same
      rw [pending, same, filled]
    · rename_i foreign
      exact (claim_of_other own (Ne.symm foreign) _).symm
  · rw [nothing]
    exact accounts.once
  · rw [nothing]
    intro handle member
    exact accounts.spent_of_fresh found more
      (fun held slot => filled.symm ▸ fresh held slot) member

private theorem ignored (accounts : courier.Accounts issued history) (record : Record)
    (agent : AgentId) (fired : TimerHandle) :
    courier.Accounts issued
      (history ++ [.entered (.told record), .reported agent fired .stale]) := by
  have same : acted (history ++ [.entered (.told record), .reported agent fired .stale]) =
      acted history := by
    rw [acted_append]
    exact List.append_nil _
  refine ⟨fun other => ?_, same ▸ accounts.once, same ▸ accounts.spent⟩
  rw [claim_append, ← accounts.claims other]
  exact (if_neg fun given => given.2.2 rfl).symm

/-- To act on the timer in a slot is to settle what was owed, whatever comes of it. -/
theorem fire {laterIssued : Nat} {fired : TimerHandle} {outcome : Reconsideration}
    (accounts : courier.Accounts issued history) (keeps : courier.Keeps issued docket)
    (found : courier.roster.context? agent = some context) (id : context.controller.id = agent)
    (pending : context.controller.pending = some fired)
    (trail : context.detached.Trail later marks) (more : issued ≤ laterIssued)
    (fresh : ∀ handle, later.controller.pending = some handle → issued ≤ handle.index)
    (current : outcome ≠ .stale) :
    (courier.keep agent later).Accounts laterIssued
      (history ++ (marks ++ [.reported agent fired outcome])) := by
  have own := trail.own
  have laterPending : later.controller.pending = claim agent none marks := by
    rw [trail.pending]
    exact congrArg (claim · none marks) id
  have filled : courier.slot agent = some fired := (slot_of_found found).trans pending
  have known := keeps.known agent fired filled
  have gone : later.controller.pending ≠ some fired := fun held =>
    absurd known (Nat.not_lt_of_le (fresh fired held))
  have reported : acted (history ++ (marks ++ [.reported agent fired outcome])) =
      acted history ++ [fired] := by
    rw [acted_append, acted_append, acted_of_own own, List.nil_append]
    cases outcome <;> first | rfl | exact absurd rfl current
  refine ⟨fun other => ?_, ?_, ?_⟩
  · rw [slot_keep found, claim_append, ← accounts.claims other]
    by_cases same : other = agent
    · rw [if_pos same, same, filled, laterPending]
      exact (claim_reported marks current (laterPending ▸ gone)).symm
    · rw [if_neg same, claim_append, claim_of_other own (id.trans_ne (Ne.symm same))]
      exact (if_neg fun given => same given.1.symm).symm
  · rw [reported, List.nodup_append]
    refine ⟨accounts.once, List.nodup_singleton _, ?_⟩
    intro handle member last lastMember equal
    rw [List.mem_singleton.mp lastMember] at equal
    exact (accounts.spent handle member).2 agent (equal ▸ filled)
  · rw [reported]
    intro handle member
    rcases List.mem_append.mp member with before | last
    · exact accounts.spent_of_fresh found more (fun held slot => .inr (fresh held slot)) before
    · rw [List.mem_singleton.mp last]
      refine ⟨Nat.lt_of_lt_of_le known more, fun other => ?_⟩
      rw [slot_keep found]
      split
      · exact gone
      · rename_i foreign
        exact fun theirs => foreign (keeps.sole _ _ _ theirs filled)

end Accounts

/-! ### One errand after another -/

def armings (marks : List (Mark vocabulary)) : Nat :=
  (marks.filterMap Mark.entry?).countP Entry.isArming

theorem armings_append (first second : List (Mark vocabulary)) :
    armings (first ++ second) = armings first + armings second := by
  unfold armings
  rw [List.filterMap_append, List.countP_append]

/-- Slots, queue and history go together. -/
def InHand (courier : Courier vocabulary) (history : List (Mark vocabulary)) : Prop :=
  ∃ docket, courier.Keeps (armings history) docket ∧ courier.Accounts (armings history) history

theorem gives_attend {take : Context vocabulary → Journaled ε (Unit × Context vocabulary)}
    {reached : Courier vocabulary} {entries : List ε} :
    (courier.attend agent take).Gives reached entries ↔
      (courier.roster.context? agent = none ∧ reached = courier ∧ entries = []) ∨
        ∃ context later, courier.roster.context? agent = some context ∧
          (take context).Gives ((), later) entries ∧ reached = courier.keep agent later := by
  unfold attend
  cases found : courier.roster.context? agent with
  | none => simp [eq_comm]
  | some context =>
      constructor
      · intro given
        obtain ⟨⟨_, later⟩, early, _, taken, rest, rfl⟩ := Journaled.gives_bind.mp given
        obtain ⟨rfl, rfl⟩ := Journaled.gives_pure.mp rest
        rw [List.append_nil]
        exact .inr ⟨context, later, rfl, taken, rfl⟩
      · rintro (⟨impossible, _⟩ | ⟨_, later, same, taken, rfl⟩)
        · cases impossible
        · cases same
          exact Journaled.gives_bind.mpr ⟨((), later), entries, [], taken, rfl,
            (List.append_nil entries).symm⟩

variable {repertoire : Repertoire vocabulary} {reached : Courier vocabulary}

theorem InHand.of_start {roster : Roster vocabulary} {tickMillis : UInt32}
    (started : TimerQueue.start tickMillis = .ok roster.timers)
    (fresh : ∀ index (controller : Controller vocabulary),
      roster.controllers[index]? = some (some controller) →
        controller.id.index = index ∧ controller.pending = none) :
    (Courier.mk roster []).InHand [] := by
  have empty (agent : AgentId) : (Courier.mk roster []).slot agent = none := by
    unfold slot
    cases found : roster.controller? agent with
    | none => rfl
    | some controller => exact (fresh _ _ (Roster.controller?_eq_some.mp found)).2
  refine ⟨⟨roster.timers.clock, []⟩, ?_, empty, List.nodup_nil, nofun⟩
  exact
    { clock := rfl
      holds := .start started
      seats := fun index controller member => (fresh index controller member).1
      backed := nofun
      sole := fun agent _ _ filled => nomatch (empty agent).symm.trans filled
      known := fun agent _ filled => nomatch (empty agent).symm.trans filled
      drained := nofun }

namespace InHand

private theorem turn {turn : Turn vocabulary} (inHand : courier.InHand history)
    (attended : (courier.attend agent (turn.watched repertoire)).Gives reached marks)
    (other : ∀ handle, turn ≠ .fire handle)
    (room : armings (history ++ marks) ≤ 2 ^ 32 - 1) : reached.InHand (history ++ marks) := by
  obtain ⟨docket, keeps, accounts⟩ := inHand
  rcases gives_attend.mp attended with ⟨_, rfl, rfl⟩ | ⟨context, later, found, taken, rfl⟩
  · rw [List.append_nil]
    exact ⟨docket, keeps, accounts⟩
  · have journey := Context.Journey.turn other taken
    have id := keeps.id_eq found
    have covers := keeps.covers found
    have filled := slot_of_found found
    rw [armings_append] at room
    obtain ⟨_, fresh, _⟩ := covers.course journey.course room
    refine ⟨_, armings_append history marks ▸ keeps.course found covers id
      (fun handle pending => filled.trans pending) journey.course room, ?_⟩
    rw [armings_append]
    exact accounts.work found id journey.trail (Nat.le_add_right _ _) fresh

private theorem handOut {timer : Timer} (inHand : courier.InHand history)
    (packed : timer ∈ courier.satchel)
    (attended : (courier.attend timer.owner
      ((Turn.fire timer.handle).watched repertoire)).Gives reached marks)
    (room : armings (history ++ marks) ≤ 2 ^ 32 - 1) : reached.InHand (history ++ marks) := by
  obtain ⟨docket, keeps, accounts⟩ := inHand
  rcases gives_attend.mp attended with ⟨_, rfl, rfl⟩ | ⟨context, later, found, taken, rfl⟩
  · rw [List.append_nil]
    exact ⟨docket, keeps, accounts⟩
  · have id := keeps.id_eq found
    rcases repertoire.gives_fire taken with
      ⟨_, unchanged, record, rfl⟩ | ⟨pending, outcome, more, current, journey, rfl⟩
    · have still : armings (history ++ [.entered (.told record),
          .reported context.controller.id timer.handle .stale]) = armings history := by
        rw [armings_append]
        rfl
      rw [unchanged, keep_self found]
      exact ⟨docket, still ▸ keeps, still ▸ accounts.ignored record _ _⟩
    · have total : armings (history ++ (more ++ [.reported context.controller.id timer.handle
          outcome])) = armings history + armings more := by
        rw [armings_append, armings_append]
        rfl
      rw [total] at room
      have covers := keeps.covers_detached packed found pending
      obtain ⟨_, fresh, _⟩ := covers.course journey.course room
      have newer (handle : TimerHandle) (filled : later.controller.pending = some handle) :
          armings history ≤ handle.index := (fresh handle filled).resolve_left nofun
      refine ⟨_, total ▸ keeps.course found covers id nofun journey.course room, ?_⟩
      rw [total, id]
      exact accounts.fire keeps found id pending journey.trail (Nat.le_add_right _ _) newer current

private theorem serve {errand : Errand vocabulary} (inHand : courier.InHand history)
    (served : (courier.serve (Turn.watched repertoire) errand).Gives reached marks)
    (room : armings (history ++ marks) ≤ 2 ^ 32 - 1) : reached.InHand (history ++ marks) := by
  cases errand with
  | work agent program => exact inHand.turn served nofun room
  | event agent name payload => exact inHand.turn served nofun room
  | teardown agent => exact inHand.turn served nofun room
  | advance tick =>
      obtain ⟨rfl, rfl⟩ := Journaled.gives_pure.mp served
      obtain ⟨docket, keeps, accounts⟩ := inHand
      rw [List.append_nil]
      exact ⟨_, keeps.advance tick, accounts.claims, accounts.once, accounts.spent⟩
  | drain tick =>
      obtain ⟨⟨due, timers⟩, early, late, out, rest, rfl⟩ := Journaled.gives_bind.mp served
      obtain ⟨rfl, rfl⟩ := Journaled.gives_pure.mp rest
      obtain ⟨drained, rfl⟩ := Journaled.gives_lift.mp out
      obtain ⟨docket, keeps, accounts⟩ := inHand
      rw [List.append_nil, List.append_nil]
      exact ⟨_, keeps.drain drained, accounts.claims, accounts.once, accounts.spent⟩
  | handOut place =>
      simp only [Courier.serve] at served
      cases packed : courier.satchel[place]? with
      | none =>
          rw [packed] at served
          obtain ⟨rfl, rfl⟩ := Journaled.gives_pure.mp served
          rw [List.append_nil]
          exact inHand
      | some timer =>
          rw [packed] at served
          exact inHand.handOut (List.mem_of_getElem? packed) served room

theorem serveAll {errands : List (Errand vocabulary)} (inHand : courier.InHand history)
    (served : (courier.serveAll (Turn.watched repertoire) errands).Gives reached marks)
    (room : armings (history ++ marks) ≤ 2 ^ 32 - 1) : reached.InHand (history ++ marks) := by
  induction errands generalizing courier history marks with
  | nil =>
      obtain ⟨rfl, rfl⟩ := Journaled.gives_pure.mp served
      rw [List.append_nil]
      exact inHand
  | cons errand errands ih =>
      obtain ⟨middle, first, second, once, rest, rfl⟩ := Journaled.gives_bind.mp served
      rw [← List.append_assoc] at room ⊢
      have roomFirst : armings (history ++ first) ≤ 2 ^ 32 - 1 := by
        rw [armings_append] at room
        omega
      exact ih (inHand.serve once roomFirst) rest room

end InHand

/-! ### What a host can rely on -/

/-- The queue holds what is pending and nothing else, every timer is acted on once at most, and a
timer is found stale if and only if it is not owed. To find it stale changes nothing, and to act on
it fails only where code of the agent's own fails. -/
structure Exact (repertoire : Repertoire vocabulary) (courier : Courier vocabulary)
    (history : List (Mark vocabulary)) : Prop where
  backed : ∀ timer ∈ courier.roster.timers.timers, courier.slot timer.owner = some timer.handle
  single : (courier.roster.timers.timers.map Timer.owner).Nodup
  once : (acted history).Nodup
  answers (agent : AgentId) (context : Context vocabulary) (handle : TimerHandle) :
    courier.roster.context? agent = some context →
      match (context.onTimer repertoire handle).outcome with
      | .ok (.stale, later) => ¬Owed history agent handle ∧ later = context
      | .ok _ => Owed history agent handle
      | .error fault => Owed history agent handle ∧
          BrokenOff repertoire context.controller.tree.rules fault
            (repertoire.watchedOnTimer handle context).journal

private theorem InHand.exact (inHand : courier.InHand history)
    (repertoire : Repertoire vocabulary) : courier.Exact repertoire history := by
  obtain ⟨docket, keeps, accounts⟩ := inHand
  have owed {agent : AgentId} {context : Context vocabulary} {handle : TimerHandle}
      (found : courier.roster.context? agent = some context) :
      context.controller.pending = some handle ↔ Owed history agent handle := by
    rw [← slot_of_found found, accounts.claims agent]
    exact claim_eq_some
  have backed : ∀ timer ∈ courier.roster.timers.timers,
      courier.slot timer.owner = some timer.handle := fun timer member =>
    keeps.backed timer (keeps.holds.mem_timers.mp member)
  refine
    { backed
      single := ?_
      once := accounts.once
      answers := ?_ }
  · rw [keeps.holds.timers_eq, ((Timer.inDueOrder_perm _).map _).nodup_iff]
    refine List.Nodup.map_on ?_ keeps.holds.nodup_handles.of_map
    intro left leftMember right rightMember same
    have leftSlot := keeps.backed left leftMember
    rw [same, keeps.backed right rightMember] at leftSlot
    exact keeps.holds.eq_of_handle leftMember rightMember (Option.some.inj leftSlot).symm
  · intro agent context handle found
    have answers := repertoire.onTimer_cases handle context
    rw [owed found] at answers
    generalize (context.onTimer repertoire handle).outcome = outcome at answers
    match outcome with
    | .ok (.stale, _) => exact answers
    | .ok (.agentGone, _) => exact answers.1
    | .ok (.noMatch, _) => exact answers.1
    | .ok (.selected, _) => exact answers.1
    | .error fault => exact ⟨answers.1, answers.2.2⟩

/-- However late, out of order or often a host hands out the timers that it has drained, each is
acted on if and only if it is still owed. -/
theorem exact_of_serveAll {repertoire : Repertoire vocabulary} {roster : Roster vocabulary}
    {tickMillis : UInt32} {errands : List (Errand vocabulary)} {reached : Courier vocabulary}
    (started : TimerQueue.start tickMillis = .ok roster.timers)
    (fresh : ∀ index (controller : Controller vocabulary),
      roster.controllers[index]? = some (some controller) →
        controller.id.index = index ∧ controller.pending = none)
    (served : (serveAll (Turn.take repertoire) ⟨roster, []⟩ errands).outcome = .ok reached)
    (few : Logged.armings (serveAll (Turn.take repertoire) ⟨roster, []⟩ errands) ≤ 2 ^ 32 - 1) :
    let watched := serveAll (Turn.watched repertoire) ⟨roster, []⟩ errands
    watched.reading Mark.entry? = serveAll (Turn.take repertoire) ⟨roster, []⟩ errands ∧
      reached.Exact repertoire watched.journal := by
  intro watched
  have plain := unwatched_serveAll repertoire ⟨roster, []⟩ errands
  refine ⟨plain, ?_⟩
  rw [← plain] at served few
  have given : watched.Gives reached watched.journal := Journaled.gives_of_outcome served
  exact ((InHand.of_start started fresh).serveAll given few).exact repertoire

/-- Of the timers of two ships, one has been asked for again when it is handed out, and another is
handed out twice. -/
theorem exact_of_serveAll_patrol :
    let ada : Controller Patrol.ships :=
      .start ⟨0, by decide⟩ "patrol" (.fresh "Ada") 7 (Patrol.seconds 1)
    let grace : Controller Patrol.ships :=
      .start ⟨1, by decide⟩ "patrol" (.fresh "Grace") 7 (Patrol.seconds 1)
    let errands : List (Errand Patrol.ships) :=
      [.work ada.id Patrol.start, .work grace.id Patrol.start, .drain ⟨20, by decide⟩,
        .work ada.id (Program.request (.schedule (Patrol.seconds 2))), .handOut 1, .handOut 0,
        .handOut 1]
    ∃ timers reached, TimerQueue.start 100 = .ok timers ∧
      let outset : Courier Patrol.ships := ⟨⟨#[some ada, some grace], timers⟩, []⟩
      let watched := outset.serveAll (Turn.watched Patrol.repertoire) errands
      (outset.serveAll (Turn.take Patrol.repertoire) errands).outcome = .ok reached ∧
      reached.roster.timers.timers.map (fun timer => (timer.owner.index, timer.handle.index)) =
        [(0, 2), (1, 3)] ∧
      (acted watched.journal).map TimerHandle.index = [1] ∧
      reached.Exact Patrol.repertoire watched.journal := by
  intro ada grace errands
  obtain ⟨timers, started, rest⟩ : ∃ timers, TimerQueue.start 100 = .ok timers ∧
      let outset : Courier Patrol.ships := ⟨⟨#[some ada, some grace], timers⟩, []⟩
      ((outset.serveAll (Turn.take Patrol.repertoire) errands).outcome.toOption.any fun reached =>
        decide (Logged.armings (outset.serveAll (Turn.take Patrol.repertoire) errands) ≤
            2 ^ 32 - 1 ∧
          reached.roster.timers.timers.map
            (fun timer => (timer.owner.index, timer.handle.index)) = [(0, 2), (1, 3)] ∧
          (acted (outset.serveAll (Turn.watched Patrol.repertoire) errands).journal).map
            TimerHandle.index = [1])) = true :=
    exists_ok (by decide +kernel)
  obtain ⟨reached, served, facts⟩ := exists_ok rest
  obtain ⟨few, queued, once⟩ := of_decide_eq_true facts
  refine ⟨timers, reached, started, served, queued, once, ?_⟩
  refine (exact_of_serveAll started ?_ served few).2
  intro index controller member
  match index with
  | 0 =>
      cases member
      exact ⟨rfl, rfl⟩
  | 1 =>
      cases member
      exact ⟨rfl, rfl⟩
  | index + 2 => cases member

end Courier

end PriorityAgents
