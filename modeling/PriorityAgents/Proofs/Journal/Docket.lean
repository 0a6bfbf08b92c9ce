import Mathlib.Data.List.Nodup
import PriorityAgents.Logged
import PriorityAgents.Time.Clock

/-!
What a journal says about the timers that stand.

A docket is read off the entries alone: it knows what was asked for, what was called off and which
ticks were drained, and nothing of buckets, indices or slots. An agent has at most one line in a
docket, because whatever an agent asks for strikes out what it asked for before.
-/

set_option autoImplicit false

namespace PriorityAgents

/-- A number of ticks later, or the last tick if that comes first. -/
def Tick.later (tick : Tick) (steps : Nat) : Tick :=
  ⟨min (tick.index + steps) (2 ^ 64 - 1), by omega⟩

theorem Tick.offset_eq_ok {tick reached : Tick} {steps : Nat} :
    tick.offset steps = .ok reached ↔ reached.index = tick.index + steps := by
  unfold Tick.offset
  by_cases fits : tick.index + steps < 2 ^ 64
  · rw [dif_pos fits, Except.ok.injEq, Tick.ext_iff]
    exact eq_comm
  · rw [dif_neg fits]
    have bound := reached.index_lt
    constructor
    · intro impossible
      cases impossible
    · intro same
      omega

theorem Tick.eq_later_of_offset {tick reached : Tick} {steps : Nat}
    (moved : tick.offset steps = .ok reached) : reached = tick.later steps := by
  have same := Tick.offset_eq_ok.mp moved
  have bound := reached.index_lt
  apply Tick.ext
  change reached.index = min (tick.index + steps) (2 ^ 64 - 1)
  omega

namespace Clock

def tickAfter (clock : Clock) (delay : Span) : Tick :=
  clock.now.later (max 1 (clock.ticksFor delay))

def next (clock : Clock) : Clock := { clock with now := clock.now.later 1 }

theorem eq_next_of_advance {clock later : Clock} (advanced : clock.advance = .ok later) :
    later = clock.next ∧ later.now.index = clock.now.index + 1 := by
  unfold advance at advanced
  cases moved : clock.now.offset 1 with
  | error fault =>
      rw [moved] at advanced
      cases advanced
  | ok reached =>
      rw [moved] at advanced
      cases advanced
      exact ⟨congrArg (fun now => { clock with now }) (Tick.eq_later_of_offset moved),
        Tick.offset_eq_ok.mp moved⟩

end Clock

/-- An entry that an agent's own code can bring about. -/
def Entry.IsOwn (agent : AgentId) : Entry → Prop
  | .told _ | .armed _ | .disarmed _ _ => True
  | .scheduled other _ _ | .withdrawn other => other = agent
  | .drained _ | .destroyed _ _ | .noticed _ => False

/-- An entry of the time in which events and timers reach the agents in a tick. -/
def Entry.IsRoutine (now : Tick) : Entry → Prop
  | .told _ | .armed _ | .disarmed _ _ | .scheduled _ _ _ | .withdrawn _ => True
  | .noticed (.event tick _ _ _) => tick = now
  | .noticed (.reconsider tick _ outcome) => tick = now ∧ outcome ≠ .stale
  | .drained _ | .destroyed _ _ | .noticed _ => False

theorem Entry.IsOwn.isRoutine {agent : AgentId} {entry : Entry} (own : entry.IsOwn agent)
    (now : Tick) : entry.IsRoutine now := by
  cases entry <;> first | exact trivial | exact own.elim

/-- An entry that no docket takes notice of and that arms nothing. -/
def Entry.IsSilent : Entry → Prop
  | .told _ | .disarmed _ _ => True
  | _ => False

theorem Entry.IsSilent.isOwn {entry : Entry} (silent : entry.IsSilent) (agent : AgentId) :
    entry.IsOwn agent := by
  cases entry <;> first | exact trivial | exact silent.elim

theorem armings_silent {journal : List Entry} (silent : ∀ entry ∈ journal, entry.IsSilent) :
    journal.countP Entry.isArming = 0 := by
  rw [List.countP_eq_zero]
  intro entry member arming
  have quiet := silent entry member
  cases entry <;> first | exact quiet.elim | cases arming

/-- A clock, and the timers that stand, in the order in which they were asked for. -/
@[ext] structure Docket where
  clock : Clock
  timers : List Timer

namespace Docket

def others (docket : Docket) (agent : AgentId) : List Timer :=
  docket.timers.filter (·.owner ≠ agent)

def enter (docket : Docket) : Entry → Docket
  | .scheduled agent handle delay =>
      { docket with
        timers := docket.others agent ++ [⟨handle, agent, docket.clock.tickAfter delay⟩] }
  | .withdrawn agent | .destroyed agent _ => { docket with timers := docket.others agent }
  | .drained tick => { docket with timers := docket.timers.filter (tick < ·.due) }
  | .noticed (.tickEnd _ _) => { docket with clock := docket.clock.next }
  | .told _ | .armed _ | .disarmed _ _ | .noticed _ => docket

def read (docket : Docket) (journal : List Entry) : Docket := journal.foldl enter docket

variable {docket : Docket} {agent : AgentId} {journal : List Entry} {timer : Timer}

@[simp] theorem read_nil (docket : Docket) : docket.read [] = docket := rfl

@[simp] theorem read_cons (docket : Docket) (entry : Entry) (journal : List Entry) :
    docket.read (entry :: journal) = (docket.enter entry).read journal := rfl

@[simp] theorem read_append (docket : Docket) (first second : List Entry) :
    docket.read (first ++ second) = (docket.read first).read second := List.foldl_append

theorem mem_others : timer ∈ docket.others agent ↔ timer ∈ docket.timers ∧ timer.owner ≠ agent := by
  simp [others]

def Single (docket : Docket) : Prop := (docket.timers.map Timer.owner).Nodup

private theorem Single.eq_of_owner (single : docket.Single) {left right : Timer}
    (leftMember : left ∈ docket.timers) (rightMember : right ∈ docket.timers)
    (same : left.owner = right.owner) : left = right :=
  List.inj_on_of_nodup_map single leftMember rightMember same

private theorem nodup_owners_filter {timers : List Timer} (single : (timers.map Timer.owner).Nodup)
    (keep : Timer → Bool) : ((timers.filter keep).map Timer.owner).Nodup :=
  single.sublist (List.filter_sublist.map _)

private theorem Single.enter (single : docket.Single) (entry : Entry) :
    (docket.enter entry).Single := by
  cases entry with
  | scheduled asker handle delay =>
      change ((docket.others asker ++ [_]).map Timer.owner).Nodup
      rw [List.map_append, List.nodup_append]
      refine ⟨nodup_owners_filter single _, List.nodup_singleton _, ?_⟩
      intro owner member last lastMember same
      obtain ⟨held, heldMember, rfl⟩ := List.mem_map.mp member
      rw [List.map_singleton, List.mem_singleton] at lastMember
      exact (mem_others.mp heldMember).2 (same.trans lastMember)
  | withdrawn asker => exact nodup_owners_filter single _
  | destroyed asker name => exact nodup_owners_filter single _
  | drained tick => exact nodup_owners_filter single _
  | noticed notice => cases notice <;> exact single
  | told record => exact single
  | armed armedTimer => exact single
  | disarmed handle due => exact single

theorem Single.read (single : docket.Single) (journal : List Entry) :
    (docket.read journal).Single := by
  induction journal generalizing docket with
  | nil => exact single
  | cons entry journal ih => exact ih (single.enter entry)

theorem read_silent (silent : ∀ entry ∈ journal, entry.IsSilent) :
    docket.read journal = docket := by
  induction journal with
  | nil => rfl
  | cons entry journal ih =>
      have same : docket.enter entry = docket := by
        have quiet := silent entry List.mem_cons_self
        cases entry <;> first | rfl | exact quiet.elim
      rw [read_cons, same]
      exact ih fun later member => silent later (List.mem_cons_of_mem _ member)

/-! ### What an agent's own code can change in a docket -/

private theorem enter_own (docket : Docket) {entry : Entry} (own : entry.IsOwn agent) :
    (docket.enter entry).clock = docket.clock ∧
      (docket.enter entry).others agent = docket.others agent := by
  have again : docket.timers.filter (fun held => decide (held.owner ≠ agent) &&
      decide (held.owner ≠ agent)) = docket.others agent := by
    simp only [Bool.and_self, others]
  cases entry with
  | scheduled asker handle delay =>
      change asker = agent at own
      subst own
      refine ⟨rfl, ?_⟩
      simp only [enter, others, List.filter_append, List.filter_filter]
      rw [again, List.filter_cons_of_neg (by simp), List.filter_nil, List.append_nil]
      rfl
  | withdrawn asker =>
      change asker = agent at own
      subst own
      refine ⟨rfl, ?_⟩
      simp only [enter, others, List.filter_filter]
      exact again
  | told record => exact ⟨rfl, rfl⟩
  | armed armedTimer => exact ⟨rfl, rfl⟩
  | disarmed handle due => exact ⟨rfl, rfl⟩
  | destroyed asker name => exact own.elim
  | drained tick => exact own.elim
  | noticed notice => exact own.elim

theorem read_own (docket : Docket) (own : ∀ entry ∈ journal, entry.IsOwn agent) :
    (docket.read journal).clock = docket.clock ∧
      (docket.read journal).others agent = docket.others agent := by
  induction journal generalizing docket with
  | nil => exact ⟨rfl, rfl⟩
  | cons entry journal ih =>
      have first := enter_own docket (own entry List.mem_cons_self)
      have rest := ih (docket.enter entry) fun later member =>
        own later (List.mem_cons_of_mem _ member)
      exact ⟨rest.1.trans first.1, rest.2.trans first.2⟩

theorem mem_of_read_own (own : ∀ entry ∈ journal, entry.IsOwn agent)
    (member : timer ∈ (docket.read journal).timers) (foreign : timer.owner ≠ agent) :
    timer ∈ docket.timers := by
  have standing : timer ∈ docket.others agent := by
    rw [← (docket.read_own own).2]
    exact mem_others.mpr ⟨member, foreign⟩
  exact (mem_others.mp standing).1

/-! ### The line of an agent -/

def dueOf (docket : Docket) (agent : AgentId) : Option Tick :=
  (docket.timers.find? (·.owner = agent)).map Timer.due

theorem Single.dueOf_eq_some (single : docket.Single) {due : Tick} :
    docket.dueOf agent = some due ↔
      ∃ timer ∈ docket.timers, timer.owner = agent ∧ timer.due = due := by
  unfold dueOf
  rw [Option.map_eq_some_iff]
  constructor
  · intro found
    obtain ⟨timer, first, due⟩ := found
    exact ⟨timer, List.mem_of_find?_eq_some first, by simpa using List.find?_some first, due⟩
  · intro found
    obtain ⟨timer, member, mine, due⟩ := found
    cases first : docket.timers.find? (·.owner = agent) with
    | none =>
        rw [List.find?_eq_none] at first
        exact absurd (decide_eq_true mine) (first timer member)
    | some held =>
        have heldMine : held.owner = agent := by simpa using List.find?_some first
        have heldMember := List.mem_of_find?_eq_some first
        rw [single.eq_of_owner member heldMember (mine.trans heldMine.symm)] at due
        exact ⟨held, rfl, due⟩

theorem dueOf_eq_of_others {other : AgentId} {left right : Docket} (foreign : agent ≠ other)
    (same : left.others other = right.others other) : left.dueOf agent = right.dueOf agent := by
  have among (docket : Docket) : docket.dueOf agent =
      ((docket.others other).find? (·.owner = agent)).map Timer.due := by
    unfold dueOf others
    rw [List.find?_filter]
    congr 2
    funext timer
    by_cases mine : timer.owner = agent
    · simp [mine, foreign]
    · simp [mine]
  rw [among, among, same]

theorem Single.dueOf_drained (single : docket.Single) {now : Tick}
    (ahead : ∀ timer ∈ docket.timers, timer.owner = agent → now < timer.due) :
    (docket.enter (.drained now)).dueOf agent = docket.dueOf agent := by
  apply Option.ext
  intro due
  rw [(single.enter (.drained now)).dueOf_eq_some, single.dueOf_eq_some]
  constructor
  · intro found
    obtain ⟨timer, member, mine, due⟩ := found
    exact ⟨timer, (List.mem_filter.mp member).1, mine, due⟩
  · intro found
    obtain ⟨timer, member, mine, due⟩ := found
    exact ⟨timer, List.mem_filter.mpr ⟨member, decide_eq_true (ahead timer member mine)⟩, mine, due⟩

/-! ### What can change in a docket within a tick -/

private theorem enter_routine (docket : Docket) {entry : Entry} {now : Tick}
    (routine : entry.IsRoutine now) :
    (docket.enter entry).clock = docket.clock := by
  cases entry with
  | noticed notice =>
      cases notice with
      | tickEnd tick fired => exact routine.elim
      | tickStart tick => rfl
      | event tick owner name handled => rfl
      | reconsider tick owner outcome => rfl
      | runEnd tick => rfl
  | told record => rfl
  | armed armedTimer => rfl
  | disarmed handle due => rfl
  | scheduled asker handle delay => rfl
  | withdrawn asker => rfl
  | destroyed asker name => rfl
  | drained tick => rfl

theorem read_routine (docket : Docket) {now : Tick}
    (routine : ∀ entry ∈ journal, entry.IsRoutine now) :
    (docket.read journal).clock = docket.clock ∧
      ∀ timer ∈ (docket.read journal).timers, timer ∈ docket.timers ∨
        ∃ delay, .scheduled timer.owner timer.handle delay ∈ journal ∧
          timer.due = docket.clock.tickAfter delay := by
  induction journal generalizing docket with
  | nil => exact ⟨rfl, fun timer member => .inl member⟩
  | cons entry journal ih =>
      have head := routine entry List.mem_cons_self
      have clock := enter_routine docket head
      obtain ⟨restClock, rest⟩ := ih (docket.enter entry) fun later member =>
        routine later (List.mem_cons_of_mem _ member)
      refine ⟨restClock.trans clock, ?_⟩
      intro timer member
      rcases rest timer member with before | ⟨delay, asked, due⟩
      · cases entry with
        | scheduled asker handle delay =>
            rcases List.mem_append.mp before with other | last
            · exact .inl (mem_others.mp other).1
            · rw [List.mem_singleton.mp last]
              exact .inr ⟨delay, List.mem_cons_self, rfl⟩
        | withdrawn asker => exact .inl (mem_others.mp before).1
        | told record => exact .inl before
        | armed armedTimer => exact .inl before
        | disarmed handle due => exact .inl before
        | destroyed asker name => exact head.elim
        | drained tick => exact head.elim
        | noticed notice => cases notice <;> exact .inl before
      · rw [clock] at due
        exact .inr ⟨delay, List.mem_cons_of_mem _ asked, due⟩

theorem read_ahead (docket : Docket) {now : Tick} (routine : ∀ entry ∈ journal, entry.IsRoutine now)
    (ahead : ∀ agent handle delay, .scheduled agent handle delay ∈ journal →
      docket.clock.now < docket.clock.tickAfter delay) :
    ∀ timer ∈ (docket.read journal).timers,
      timer ∈ docket.timers ∨ docket.clock.now < timer.due := by
  intro timer member
  rcases (docket.read_routine routine).2 timer member with before | ⟨delay, asked, due⟩
  · exact .inl before
  · right
    rw [due]
    exact ahead _ _ _ asked

end Docket

end PriorityAgents
