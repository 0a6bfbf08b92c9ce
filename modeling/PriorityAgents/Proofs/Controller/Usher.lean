import PriorityAgents.Proofs.Controller.Watch
import PriorityAgents.Proofs.Journal.Succession

/-!
Ushers see agents through their turns, and may write down more of them than is entered anyway.

Whoever wants to know more about the course of a world than its journal tells has to look into the
turns of its agents, and nowhere else: a program of a host, an event, a fired timer, a farewell.
What holds of every agent is then shown turn by turn, and carried through a world once and for all.
-/

set_option autoImplicit false

namespace PriorityAgents

variable {vocabulary : Vocabulary} {ε α : Type}

/-- How the turns of an agent are taken, and how an entry is written down besides. -/
structure Usher (vocabulary : Vocabulary) (ε : Type) where
  enter : Entry → ε
  call {α : Type} (program : Program vocabulary α) (context : Context vocabulary) :
    Journaled ε (α × Context vocabulary)
  event (name : EventName) (payload : vocabulary.Payload) (context : Context vocabulary) :
    Journaled ε (Bool × Context vocabulary)
  timer (fired : TimerHandle) (context : Context vocabulary) :
    Journaled ε (Reconsideration × Context vocabulary)
  teardown (context : Context vocabulary) : Journaled ε (Context vocabulary)

namespace Usher

variable (usher : Usher vocabulary ε)

def carry (logged : Logged α) : Journaled ε α :=
  ⟨logged.outcome, logged.journal.map usher.enter⟩

theorem carry_bind {β : Type} (next : α → Journaled ε β) {answer : α} {reply : β}
    {early late : List Entry} (rest : next answer = usher.carry ⟨.ok reply, late⟩) :
    usher.carry ⟨.ok answer, early⟩ >>= next = usher.carry ⟨.ok reply, early ++ late⟩ := by
  apply Journaled.ext
  · change (next answer).outcome = _
    rw [rest]
    rfl
  · change Journaled.continued (early.map usher.enter) (next answer).journal = _
    rw [rest, Journaled.continued_eq]
    exact List.map_append.symm

/-- Turns are taken as they are without an usher, once the rest of the account is passed over. -/
structure Follows (repertoire : Repertoire vocabulary) (select : ε → Option Entry) : Prop where
  enter (entry : Entry) : select (usher.enter entry) = some entry
  call {α : Type} (program : Program vocabulary α) (context : Context vocabulary) :
    (usher.call program context).reading select = context.run repertoire program
  event (name : EventName) (payload : vocabulary.Payload) (context : Context vocabulary) :
    (usher.event name payload context).reading select =
      context.handleEvent repertoire name payload
  timer (fired : TimerHandle) (context : Context vocabulary) :
    (usher.timer fired context).reading select = context.onTimer repertoire fired
  teardown (context : Context vocabulary) :
    (usher.teardown context).reading select = context.teardown

theorem Follows.carry {usher : Usher vocabulary ε} {repertoire : Repertoire vocabulary}
    {select : ε → Option Entry} (follows : usher.Follows repertoire select) (logged : Logged α) :
    (usher.carry logged).reading select = logged := by
  refine Journaled.ext rfl ?_
  change (logged.journal.map usher.enter).filterMap select = logged.journal
  have entered : select ∘ usher.enter = some := funext follows.enter
  rw [List.filterMap_map, entered, List.filterMap_some]

end Usher

/-! ### What an agent keeps up -/

/-- What a host keeps to: whom it spawns, what it has agents do, of what it tells them, and whom it
sends away. -/
structure Etiquette (vocabulary : Vocabulary) where
  spawns : vocabulary.State → Program vocabulary Unit → Prop
  calls : AgentId → {α : Type} → Program vocabulary α → Prop
  posts : AgentId → EventName → vocabulary.Payload → Prop
  destroys : AgentId → Prop

/-- What is written down in the turns of agents, and what the agents keep up from turn to turn. -/
structure Regime (vocabulary : Vocabulary) (ε : Type) where
  /-- Of whom something is told. -/
  agent? : ε → Option AgentId
  good : List ε → ε → Prop
  invariant : List ε → AgentId → Controller vocabulary → Prop

namespace Regime

variable (regime : Regime vocabulary ε)

def Turn (past : List ε) (agent : AgentId)
    (turn : Journaled ε (α × Context vocabulary)) : Prop :=
  turn.Continues
    (fun before mark =>
      (∀ other, regime.agent? mark = some other → other = agent) ∧ regime.good before mark)
    (fun history reached => regime.invariant history agent reached.2.controller) past

end Regime

/-- A regime is upheld in every turn that an agent can be given by a host that keeps to an
etiquette. Agents that are still to come have slots beyond those that are taken at the outset. -/
structure Usher.Upholds (usher : Usher vocabulary ε) (etiquette : Etiquette vocabulary)
    (regime : Regime vocabulary ε) (taken : Nat) : Prop where
  impersonal (entry : Entry) : regime.agent? (usher.enter entry) = none
  entered (past : List ε) (entry : Entry) : regime.good past (usher.enter entry)
  /-- What an agent keeps up is no matter of others. -/
  aside {past more : List ε} {agent : AgentId} {controller : Controller vocabulary} :
    regime.invariant past agent controller → (∀ mark ∈ more, regime.agent? mark ≠ some agent) →
      regime.invariant (past ++ more) agent controller
  spawn {past : List ε} {agent : AgentId} {state : vocabulary.State}
    {setup : Program vocabulary Unit} (name : String) (seed : UInt64) (delay : Span)
    (timers : TimerQueue) :
    etiquette.spawns state setup → taken ≤ agent.index →
      (∀ mark ∈ past, regime.agent? mark ≠ some agent) →
      regime.Turn past agent
        (usher.call setup ⟨Controller.start agent name state seed delay, timers⟩)
  call {past : List ε} {agent : AgentId} {context : Context vocabulary} {α : Type}
    {program : Program vocabulary α} :
    etiquette.calls agent program → regime.invariant past agent context.controller →
      regime.Turn past agent (usher.call program context)
  event {past : List ε} {agent : AgentId} {context : Context vocabulary} {name : EventName}
    {payload : vocabulary.Payload} :
    etiquette.posts agent name payload → regime.invariant past agent context.controller →
      regime.Turn past agent (usher.event name payload context)
  timer {past : List ε} {agent : AgentId} {context : Context vocabulary} (fired : TimerHandle) :
    regime.invariant past agent context.controller →
      regime.Turn past agent (usher.timer fired context)
  farewell {past : List ε} {agent : AgentId} {context : Context vocabulary}
    (payload : vocabulary.Payload) :
    etiquette.destroys agent → regime.invariant past agent context.controller →
      regime.Turn past agent (usher.event .entityDestroyed payload context)
  teardown {past : List ε} {agent : AgentId} {context : Context vocabulary} :
    etiquette.destroys agent → regime.invariant past agent context.controller →
      (usher.teardown context).Continues
        (fun before mark =>
          (∀ other, regime.agent? mark = some other → other = agent) ∧ regime.good before mark)
        (fun _ _ => True) past

namespace Usher

variable {usher : Usher vocabulary ε} {etiquette : Etiquette vocabulary}
  {regime : Regime vocabulary ε} {taken : Nat}

theorem Upholds.carry (upholds : usher.Upholds etiquette regime taken) {logged : Logged α}
    {past : List ε} {holds : List ε → α → Prop}
    (fits : ∀ answer, logged.outcome = .ok answer →
      holds (past ++ logged.journal.map usher.enter) answer) :
    (usher.carry logged).Continues regime.good holds past where
  entries := by
    refine .of_all fun mark member before => ?_
    obtain ⟨entry, _, rfl⟩ := List.mem_map.mp member
    exact upholds.entered before entry
  answer := fits

end Usher

end PriorityAgents
