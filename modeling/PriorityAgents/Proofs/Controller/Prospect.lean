import PriorityAgents.Proofs.Controller.Attest
import PriorityAgents.Proofs.Timer.Promptness

/-!
What an agent has in prospect once it has put a tree to use.

It asks for a reconsideration at the same time, and what becomes of that can be told from an
account. A rule that is chosen later in the same walk puts its own delay in the place of the one
that was asked for; whatever else the agent asks for that concerns its slot, and the walk itself,
puts an end to the prospect. As long as there is one, the agent's tree is the tree that it put to
use, and its line in the docket is for the tick at which the delay is over.
-/

set_option autoImplicit false

namespace PriorityAgents

variable {vocabulary : Vocabulary} {α β : Type}

/-- A tree that has been put to use, and the delay after which it is to be walked. -/
structure Prospect (vocabulary : Vocabulary) where
  tree : PriorityTree vocabulary
  /-- The clock at the time. -/
  clock : Clock
  delay : Span

def Prospect.due (prospect : Prospect vocabulary) : Tick :=
  prospect.clock.tickAfter prospect.delay

theorem Clock.index_tickAfter_le (clock : Clock) (delay : Span) :
    (clock.tickAfter delay).index ≤ clock.now.index + clock.wait delay := by
  unfold tickAfter Tick.later wait
  rw [ticksFor_eq]
  dsimp only
  omega

theorem Clock.index_tickAfter {clock : Clock} {delay : Span}
    (room : (clock.tickAfter delay).index + 1 < 2 ^ 64) :
    (clock.tickAfter delay).index = clock.now.index + clock.wait delay := by
  unfold tickAfter Tick.later at room ⊢
  rw [ticksFor_eq] at room ⊢
  unfold wait
  dsimp only at room ⊢
  omega

/-! ### What an account tells of a prospect -/

namespace Request

def prospect (context : Context vocabulary) (held : Option (Prospect vocabulary)) :
    Request vocabulary → Option (Prospect vocabulary)
  | .setPriorities plan => some ⟨plan, context.timers.clock, context.controller.reconsiderNow⟩
  | .reconsiderNow | .schedule _ | .cancel => none
  | _ => held

private theorem prospect_of_aside {request : Request vocabulary} (aside : request.isOfSlot = false)
    (context : Context vocabulary) (held : Option (Prospect vocabulary)) :
    request.prospect context held = held := by
  cases request <;> first | rfl | cases aside

end Request

namespace Incident

def prospect (agent : AgentId) (held : Option (Prospect vocabulary)) :
    Incident vocabulary → Option (Prospect vocabulary)
  | .asked _ context request =>
      if context.controller.id = agent then request.prospect context held else held
  | .ruled context delay =>
      if context.controller.id = agent then held.map fun prospect => { prospect with delay }
      else held
  | .handed _ timer => if timer.owner = agent then none else held
  | .tornDown context => if context.controller.id = agent then none else held
  | .entered _ => held

/-- An incident that puts an end to what an agent has in prospect. -/
def Upsets (agent : AgentId) : Incident vocabulary → Prop
  | .asked _ context request => context.controller.id = agent ∧ request.isOfSlot = true
  | .handed _ timer => timer.owner = agent
  | .tornDown context => context.controller.id = agent
  | .ruled _ _ | .entered _ => False

instance (agent : AgentId) (incident : Incident vocabulary) : Decidable (incident.Upsets agent) :=
  match incident with
  | .asked _ context request =>
      inferInstanceAs (Decidable (context.controller.id = agent ∧ request.isOfSlot = true))
  | .handed _ timer => inferInstanceAs (Decidable (timer.owner = agent))
  | .tornDown context => inferInstanceAs (Decidable (context.controller.id = agent))
  | .ruled _ _ | .entered _ => inferInstanceAs (Decidable False)

/-- The delay that stands after an incident, be it that of a rule. -/
def ruling (agent : AgentId) (delay : Span) : Incident vocabulary → Span
  | .ruled context chosen => if context.controller.id = agent then chosen else delay
  | _ => delay

private theorem prospect_of_calm {agent : AgentId} {incident : Incident vocabulary}
    (calm : ¬incident.Upsets agent) (held : Prospect vocabulary) :
    incident.prospect agent (some held) =
      some { held with delay := incident.ruling agent held.delay } := by
  cases incident with
  | entered entry => rfl
  | asked occasion context request =>
      by_cases own : context.controller.id = agent
      · have aside : request.isOfSlot = false := Bool.eq_false_iff.mpr fun slot => calm ⟨own, slot⟩
        rw [prospect, if_pos own]
        exact request.prospect_of_aside aside context _
      · exact if_neg own
  | ruled context delay =>
      by_cases own : context.controller.id = agent
      · rw [prospect, ruling, if_pos own, if_pos own]
        rfl
      · rw [prospect, ruling, if_neg own, if_neg own]
  | handed context timer => exact if_neg calm
  | tornDown context => exact if_neg calm

/-- An incident that is of one agent's code and at one time. Rules are chosen in walks alone. -/
def IsOf (walking : Prop) (agent : AgentId) (clock : Clock) : Incident vocabulary → Prop
  | .entered entry => entry.IsOwn agent
  | .asked _ context _ | .tornDown context =>
      context.controller.id = agent ∧ context.timers.clock = clock
  | .ruled context _ =>
      context.controller.id = agent ∧ context.timers.clock = clock ∧ walking
  | .handed _ _ => False

private theorem prospect_of_other {walking : Prop} {agent other : AgentId} {clock : Clock}
    {incident : Incident vocabulary} (own : incident.IsOf walking other clock)
    (foreign : agent ≠ other)
    (held : Option (Prospect vocabulary)) : incident.prospect agent held = held := by
  cases incident with
  | entered entry => rfl
  | handed context timer => exact own.elim
  | asked _ context _ => exact if_neg fun mine => foreign (mine.symm.trans own.1)
  | ruled context _ => exact if_neg fun mine => foreign (mine.symm.trans own.1)
  | tornDown context => exact if_neg fun mine => foreign (mine.symm.trans own.1)

end Incident

def outlook (agent : AgentId) (held : Option (Prospect vocabulary))
    (history : List (Incident vocabulary)) : Option (Prospect vocabulary) :=
  history.foldl (Incident.prospect agent) held

def ruling (agent : AgentId) (delay : Span) (history : List (Incident vocabulary)) : Span :=
  history.foldl (Incident.ruling agent) delay

@[simp] theorem outlook_append (agent : AgentId) (held : Option (Prospect vocabulary))
    (first second : List (Incident vocabulary)) :
    outlook agent held (first ++ second) = outlook agent (outlook agent held first) second :=
  List.foldl_append

/-- A prospect stands as long as nothing upsets it, but for the delay, which may be that of a
rule. -/
theorem outlook_of_calm {agent : AgentId} {history : List (Incident vocabulary)}
    (calm : ∀ incident ∈ history, ¬incident.Upsets agent) (held : Prospect vocabulary) :
    outlook agent (some held) history =
      some { held with delay := ruling agent held.delay history } := by
  induction history generalizing held with
  | nil => rfl
  | cons incident history ih =>
      change outlook agent (incident.prospect agent (some held)) history = _
      rw [incident.prospect_of_calm (calm incident List.mem_cons_self),
        ih fun other member => calm other (List.mem_cons_of_mem _ member)]
      rfl

theorem outlook_of_other {walking : Prop} {agent other : AgentId} {clock : Clock}
    {history : List (Incident vocabulary)}
    (own : ∀ incident ∈ history, incident.IsOf walking other clock)
    (foreign : agent ≠ other) (held : Option (Prospect vocabulary)) :
    outlook agent held history = held := by
  induction history with
  | nil => rfl
  | cons incident history ih =>
      change outlook agent (incident.prospect agent held) history = held
      rw [incident.prospect_of_other (own incident List.mem_cons_self) foreign]
      exact ih fun later member => own later (List.mem_cons_of_mem _ member)

theorem outlook_entered (agent : AgentId) (held : Option (Prospect vocabulary))
    (entries : List Entry) :
    outlook agent held (entries.map (Incident.entered : Entry → Incident vocabulary)) = held := by
  induction entries with
  | nil => rfl
  | cons entry entries ih => exact ih

def Fresh (clock : Clock) (held : Option (Prospect vocabulary)) : Prop :=
  ∀ prospect, held = some prospect → prospect.clock = clock

theorem Fresh.outlook {walking : Prop} {agent : AgentId} {clock : Clock}
    {held : Option (Prospect vocabulary)} {history : List (Incident vocabulary)}
    (fresh : Fresh clock held) (own : ∀ incident ∈ history, incident.IsOf walking agent clock) :
    Fresh clock (outlook agent held history) := by
  induction history generalizing held with
  | nil => exact fresh
  | cons incident history ih =>
      refine ih ?_ fun later member => own later (List.mem_cons_of_mem _ member)
      have mine := own incident List.mem_cons_self
      cases incident with
      | entered entry => exact fresh
      | handed context timer => exact mine.elim
      | asked occasion context request =>
          intro prospect known
          rw [Incident.prospect, if_pos mine.1] at known
          cases request <;> first | exact fresh prospect known | cases known
          exact mine.2
      | ruled context delay =>
          intro prospect known
          rw [Incident.prospect, if_pos mine.1] at known
          obtain ⟨before, given, rfl⟩ := Option.map_eq_some_iff.mp known
          exact fresh before given
      | tornDown context =>
          intro prospect known
          rw [Incident.prospect, if_pos mine.1] at known
          cases known

/-! ### A piece of code at work -/

namespace Context

variable {context middle later : Context vocabulary} {journal : List Entry} {docket : Docket}
  {held : Option (Prospect vocabulary)} {repertoire : Repertoire vocabulary} {delay : Span}

/-- An agent is up to what it has in prospect: it goes by the tree, and a docket has its line for
the tick. -/
def Expects (context : Context vocabulary) (docket : Docket)
    (held : Option (Prospect vocabulary)) : Prop :=
  ∀ prospect, held = some prospect → context.controller.tree = prospect.tree ∧
    ∃ timer ∈ docket.timers, timer.owner = context.controller.id ∧ timer.due = prospect.due

private theorem line_of_schedule (given : (context.schedule delay).Gives later journal)
    (docket : Docket) :
    ∃ timer ∈ (docket.read journal).timers,
      timer.owner = context.controller.id ∧ timer.due = docket.clock.tickAfter delay := by
  obtain ⟨timer, timers, _, _, rfl⟩ := gives_schedule.mp given
  rw [Docket.read_append,
    Docket.read_silent (context.controller.scheduler.silent_disarmings context.timers)]
  exact ⟨_, List.mem_append_right _ List.mem_cons_self, rfl, rfl⟩

private theorem Expects.aside (expects : context.Expects docket held)
    (id : later.controller.id = context.controller.id)
    (tree : later.controller.tree = context.controller.tree)
    (silent : ∀ entry ∈ journal, entry.IsSilent) :
    later.Expects (docket.read journal) held := by
  intro prospect known
  rw [id, tree, Docket.read_silent silent]
  exact expects prospect known

private theorem Expects.perform {request : Request vocabulary} {answer : request.Answer}
    (expects : context.Expects docket held) (clock : docket.clock = context.timers.clock)
    (given : (context.perform repertoire request).Gives (answer, later) journal) :
    later.Expects (docket.read journal) (request.prospect context held) := by
  have id := (Works.of_course (.perform given)).id
  cases slot : request.isOfSlot with
  | false =>
      obtain ⟨⟨mind, rfl⟩, silent⟩ := aside_of_perform slot given
      rw [request.prospect_of_aside slot]
      exact expects.aside id rfl silent
  | true =>
      intro prospect known
      cases request with
      | setPriorities tree =>
          cases known
          obtain ⟨entries, asked, rfl⟩ := gives_setPriorities.mp (gives_effect.mp given)
          have line := line_of_schedule asked docket
          obtain ⟨_, _, _, rfl, _⟩ := gives_schedule.mp asked
          rw [clock] at line
          rw [Docket.read_append, Docket.read_silent (context.silent_complaints tree)]
          exact ⟨rfl, line⟩
      | reconsiderNow => cases known
      | schedule delay => cases known
      | cancel => cases known
      | _ => cases slot

/-- What the account of a piece of an agent's code has to do with what the agent has in prospect
after it. In a walk all that is in prospect dates from the walk itself. -/
structure Accounts (walking : Prop) (context later : Context vocabulary)
    (history : List (Incident vocabulary)) : Prop where
  id : later.controller.id = context.controller.id
  clock : later.timers.clock = context.timers.clock
  own : ∀ incident ∈ history, incident.IsOf walking context.controller.id context.timers.clock
  expects (docket : Docket) (held : Option (Prospect vocabulary)) :
    docket.clock = context.timers.clock → (walking → Fresh context.timers.clock held) →
      context.Expects docket held →
        later.Expects (docket.read (plain history)) (outlook context.controller.id held history)

namespace Accounts

variable {walking : Prop} {first second history : List (Incident vocabulary)}

theorem refl (context : Context vocabulary) : context.Accounts walking context [] where
  id := rfl
  clock := rfl
  own := nofun
  expects := fun _ _ _ _ expects => expects

theorem own_plain {agent : AgentId} {clock : Clock}
    (own : ∀ incident ∈ history, incident.IsOf walking agent clock) :
    ∀ entry ∈ plain history, entry.IsOwn agent := by
  intro entry member
  obtain ⟨incident, known, same⟩ := List.mem_filterMap.mp member
  have mine := own incident known
  cases incident with
  | entered other =>
      cases same
      exact mine
  | _ => cases same

theorem trans (before : context.Accounts walking middle first)
    (after : middle.Accounts walking later second) :
    context.Accounts walking later (first ++ second) where
  id := after.id.trans before.id
  clock := after.clock.trans before.clock
  own := by
    intro incident member
    rcases List.mem_append.mp member with early | late
    · exact before.own incident early
    · rw [← before.id, ← before.clock]
      exact after.own incident late
  expects := by
    intro docket held clock fresh expects
    rw [plain_append, Docket.read_append, outlook_append, ← before.id]
    refine after.expects _ _ ?_ ?_ ?_
    · exact (docket.read_own (own_plain before.own)).1.trans (clock.trans before.clock.symm)
    · intro walks
      rw [before.id, before.clock]
      exact (fresh walks).outlook before.own
    · rw [before.id]
      exact before.expects docket held clock fresh expects

private theorem aside (id : later.controller.id = context.controller.id)
    (clock : later.timers.clock = context.timers.clock)
    (tree : later.controller.tree = context.controller.tree)
    (silent : ∀ entry ∈ journal, entry.IsSilent) :
    context.Accounts walking later (journal.map .entered) where
  id := id
  clock := clock
  own := by
    intro incident member
    obtain ⟨entry, known, rfl⟩ := List.mem_map.mp member
    exact (silent entry known).isOwn _
  expects := by
    intro docket held _ _ expects
    rw [plain_entered, outlook_entered]
    exact expects.aside id tree silent

private theorem marked {mark : Incident vocabulary} (silent : mark.entry? = none)
    (course : Course context later journal)
    (mine : mark.IsOf walking context.controller.id context.timers.clock)
    (expects : ∀ docket held, docket.clock = context.timers.clock →
      (walking → Fresh context.timers.clock held) → context.Expects docket held →
        later.Expects (docket.read journal) (mark.prospect context.controller.id held)) :
    context.Accounts walking later (mark :: journal.map .entered) where
  id := (Works.of_course course).id
  clock := (Works.of_course course).clock
  own := by
    intro incident member
    rcases List.mem_cons.mp member with rfl | late
    · exact mine
    · obtain ⟨entry, known, rfl⟩ := List.mem_map.mp late
      exact (Works.of_course course).own entry known
  expects := by
    intro docket held clock fresh before
    have same : plain (mark :: journal.map .entered) = journal := by
      unfold plain
      rw [List.filterMap_cons_none silent]
      exact plain_entered journal
    rw [same]
    change later.Expects _ (outlook _ (mark.prospect _ held) _)
    rw [outlook_entered]
    exact expects docket held clock fresh before

private theorem perform {occasion : Occasion} {request : Request vocabulary}
    {answer : request.Answer}
    (given : (context.perform repertoire request).Gives (answer, later) journal) :
    context.Accounts walking later (.asked occasion context request :: journal.map .entered) := by
  refine marked rfl (.perform given) ⟨rfl, rfl⟩ fun docket held clock _ expects => ?_
  rw [Incident.prospect, if_pos rfl]
  exact expects.perform clock given

/-- A rule arms in the walk in which the tree was put to use, if it was put to use in a walk at
all and that walk is still on. -/
theorem arm {answer : Unit} (walks : walking)
    (given : (context.perform repertoire (.schedule delay)).Gives (answer, later) journal) :
    context.Accounts walking later (.ruled context delay :: journal.map .entered) := by
  refine marked rfl (.perform given) ⟨rfl, rfl, walks⟩ fun docket held clock fresh expects => ?_
  rw [Incident.prospect, if_pos rfl]
  intro prospect known
  obtain ⟨before, standing, rfl⟩ := Option.map_eq_some_iff.mp known
  have scheduled := gives_effect.mp given
  obtain ⟨timer, member, owner, due⟩ := line_of_schedule scheduled docket
  obtain ⟨_, _, _, rfl, _⟩ := gives_schedule.mp scheduled
  -- The rule's delay begins with this walk, and so does what is in prospect.
  refine ⟨(expects before standing).1, timer, member, owner, due.trans ?_⟩
  rw [clock, ← fresh walks before standing]
  rfl

private theorem teardown (given : context.teardown.Gives later journal) :
    context.Accounts walking later (.tornDown context :: journal.map .entered) := by
  refine marked rfl (.teardown given) ⟨rfl, rfl⟩ fun docket held _ _ _ => ?_
  rw [Incident.prospect, if_pos rfl]
  exact nofun

end Accounts

end Context

namespace Attested

variable {walking : Prop}

def Accounted (walking : Prop) (attested : Attested vocabulary α) : Prop :=
  ∀ context answer later history, (attested context).Gives (answer, later) history →
    context.Accounts walking later history

namespace Accounted

theorem pure (answer : α) :
    (Pure.pure answer : Attested vocabulary α).Accounted walking := by
  intro context _ _ history given
  obtain ⟨reached, rfl⟩ := Journaled.gives_pure.mp given
  cases reached
  exact .refl context

theorem bind {first : Attested vocabulary α} {next : α → Attested vocabulary β}
    (accounted : first.Accounted walking) (further : ∀ answer, (next answer).Accounted walking) :
    (first >>= next).Accounted walking := by
  intro context reply later history given
  obtain ⟨⟨answer, middle⟩, early, late, begun, rest, rfl⟩ := Journaled.gives_bind.mp given
  exact (accounted context answer middle early begun).trans
    (further answer middle reply later late rest)

theorem get_bind {next : Context vocabulary → Attested vocabulary α}
    (accounted : ∀ context, (next context).Accounted walking) :
    (get >>= next).Accounted walking :=
  fun context answer later history given =>
    accounted context context answer later history (get_bind_apply next context ▸ given)

private theorem told (severity : Severity) (message : String)
    (fields : Context vocabulary → List (String × String)) :
    (carry fun context => do
      context.report severity message (fields context)
      Pure.pure ((), context)).Accounted walking := by
  intro context answer later history given
  obtain ⟨journal, said, rfl⟩ := gives_carry.mp given
  obtain ⟨_, early, _, reported, rest, rfl⟩ := Journaled.gives_bind.mp said
  obtain ⟨reached, rfl⟩ := Journaled.gives_pure.mp rest
  cases reached
  rw [Context.gives_report.mp reported, List.append_nil]
  exact .aside rfl rfl rfl fun entry member => List.mem_singleton.mp member ▸ trivial

variable (repertoire : Repertoire vocabulary)

theorem attest (occasion : Occasion) (program : Program vocabulary α) :
    (repertoire.attest occasion program).Accounted walking := by
  induction program with
  | pure answer => exact .pure answer
  | ask request next ih =>
      intro context answer later history given
      rw [repertoire.attest_ask] at given
      obtain ⟨rest, performed, rfl⟩ := gives_note_bind.mp given
      obtain ⟨⟨reply, middle⟩, early, late, carried, more, rfl⟩ := Journaled.gives_bind.mp performed
      obtain ⟨journal, done, rfl⟩ := gives_carry.mp carried
      exact (Context.Accounts.perform done).trans (ih reply middle answer later late more)

private theorem visited (depth index : Nat) (isMatch : Bool) :
    (repertoire.attester.visited depth index isMatch).Accounted walking := by
  intro context answer later history given
  change (carry (fun context => context.run repertoire
    (Repertoire.noteVisit depth index isMatch)) context).Gives (answer, later) history at given
  obtain ⟨journal, ran, rfl⟩ := gives_carry.mp given
  obtain ⟨⟨_, middle⟩, _, _, stood, noted, rfl⟩ := Journaled.gives_bind.mp ran
  obtain ⟨reached, rfl⟩ := Journaled.gives_pure.mp stood
  cases reached
  obtain ⟨⟨_, after⟩, early, _, written, rest, rfl⟩ := Journaled.gives_bind.mp noted
  obtain ⟨reached, rfl⟩ := Journaled.gives_pure.mp rest
  cases reached
  obtain ⟨⟨mind, rfl⟩, silent⟩ := Context.aside_of_perform rfl written
  rw [List.nil_append, List.append_nil]
  exact .aside rfl rfl rfl silent

private theorem arm (walks : walking) (delay : Span) :
    (repertoire.attester.arm delay).Accounted walking := by
  intro context answer later history given
  change ((get >>= fun context => note (.ruled context delay) >>= fun _ => carry fun context =>
    context.perform repertoire (.schedule delay)) context).Gives (answer, later) history at given
  rw [get_bind_apply] at given
  obtain ⟨_, carried, rfl⟩ := gives_note_bind.mp given
  obtain ⟨journal, done, rfl⟩ := gives_carry.mp carried
  exact .arm walks done

private theorem closed (walks : walking) :
    repertoire.attester.Closed fun attested => attested.Accounted walking where
  pure := pure
  bind := bind
  test _ := attest repertoire .walk _
  perform _ := attest repertoire .walk _
  arm := arm repertoire walks
  visited := visited repertoire

theorem choice (rules : List (Rule vocabulary)) :
    (repertoire.attestedChoice rules).Accounted True := by
  refine .bind ((closed repertoire trivial).walk rules) fun chosen => ?_
  cases chosen with
  | none => exact .bind (told _ _ _) fun _ => .pure _
  | some chosen =>
      exact .bind (told _ _ _) fun _ =>
        .bind ((closed repertoire trivial).perform chosen) fun _ => .pure _

theorem handleEvent (name : EventName) (payload : vocabulary.Payload) :
    (repertoire.attestedHandleEvent name payload).Accounted walking := by
  refine .get_bind fun context => ?_
  cases context.controller.surface.handler? name with
  | none => exact .pure false
  | some handler => exact .bind (attest repertoire .event _) fun _ => .pure true

theorem teardown : (Attested.teardown : Attested vocabulary Unit).Accounted walking := by
  intro context answer later history given
  obtain ⟨journal, torn, rfl⟩ := gives_teardown.mp given
  exact .teardown torn

end Accounted

end Attested

end PriorityAgents
