import PriorityAgents.Proofs.Controller.Keeping

/-!
Contracts of programs: what a controller is like after a piece of its agent's code, given what it
was like before.

A contract is about runs that come to an end, and about what belongs to the agent. The rules follow
the ways in which programs are written, so the contract of a behaviour is put together line by line.
Of what is pending a contract says one thing only: that it has been put off.
-/

set_option autoImplicit false

namespace PriorityAgents

variable {vocabulary : Vocabulary} {α β : Type} {repertoire : Repertoire vocabulary}

/-- Only the keeping of a mind and what an agent is told in a phrase do anything to a mind. -/
theorem Context.mind_of_perform {context later : Context vocabulary} {request : Request vocabulary}
    {answer : request.Answer} {journal : List Entry}
    (given : (context.perform repertoire request).Gives (answer, later) journal)
    (quiet : ∀ mind, request ≠ .setMind mind)
    (untold : ∀ key substitution, request ≠ .communicate key substitution) :
    later.controller.mind = context.controller.mind := by
  cases request with
  | setMind mind => exact absurd rfl (quiet mind)
  | communicate key substitution => exact absurd rfl (untold key substitution)
  | standing | tree | mind | surface | pending =>
      cases (Journaled.gives_pure.mp given).1
      rfl
  | bind | unbind | install =>
      cases (Journaled.gives_pure.mp given).1
      rfl
  | reconsiderNow | schedule delay =>
      obtain ⟨_, _, _, rfl, _⟩ := Context.gives_schedule.mp (Context.gives_effect.mp given)
      rfl
  | cancel =>
      rw [(Context.gives_cancel.mp (Context.gives_effect.mp given)).1]
  | setPriorities tree =>
      obtain ⟨_, rest, _⟩ := Context.gives_setPriorities.mp (Context.gives_effect.mp given)
      obtain ⟨_, _, _, rfl, _⟩ := Context.gives_schedule.mp rest
      rfl
  | note record =>
      obtain ⟨_, _, _, _, rest, _⟩ := Journaled.gives_bind.mp given
      cases (Journaled.gives_pure.mp rest).1
      rfl
  | fail fault => cases given

/-- Whenever a program ends that began with one thing true of its controller, another thing is
true of its answer and of the controller that it leaves. -/
def Program.Meets (repertoire : Repertoire vocabulary) (before : Controller vocabulary → Prop)
    (program : Program vocabulary α) (after : α → Controller vocabulary → Prop) : Prop :=
  ∀ (context : Context vocabulary) (answer : α) (later : Context vocabulary) (journal : List Entry),
    (context.run repertoire program).Gives (answer, later) journal →
      before context.controller → after answer later.controller

namespace Program.Meets

variable {before : Controller vocabulary → Prop} {after : α → Controller vocabulary → Prop}
  {middle : β → Controller vocabulary → Prop}

theorem pure {answer : α} (holds : ∀ controller, before controller → after answer controller) :
    (Program.pure answer).Meets repertoire before after := by
  intro context reply later journal given begun
  obtain ⟨reached, _⟩ := Journaled.gives_pure.mp given
  cases reached
  exact holds context.controller begun

theorem bind {first : Program vocabulary β} {next : β → Program vocabulary α}
    (early : first.Meets repertoire before middle)
    (late : ∀ answer, (next answer).Meets repertoire (middle answer) after) :
    (first >>= next).Meets repertoire before after := by
  intro context answer later journal given begun
  rw [Context.run_bind] at given
  obtain ⟨⟨reply, between⟩, _, _, ran, rest, _⟩ := Journaled.gives_bind.mp given
  exact late reply between answer later _ rest (early context reply between _ ran begun)

theorem request {request : Request vocabulary}
    {after : request.Answer → Controller vocabulary → Prop}
    (holds : ∀ (context later : Context vocabulary) answer journal,
      (context.perform repertoire request).Gives (answer, later) journal →
        before context.controller → after answer later.controller) :
    (Program.request request).Meets repertoire before after := by
  intro context answer later journal given begun
  obtain ⟨⟨reply, between⟩, _, _, performed, rest, _⟩ := Journaled.gives_bind.mp given
  obtain ⟨reached, _⟩ := Journaled.gives_pure.mp rest
  cases reached
  exact holds context between reply _ performed begun

theorem performed {request : Request vocabulary}
    {after : request.Answer → Controller vocabulary → Prop}
    (meets : (Program.request request).Meets repertoire before after)
    {context later : Context vocabulary} {answer : request.Answer} {journal : List Entry}
    (given : (context.perform repertoire request).Gives (answer, later) journal)
    (begun : before context.controller) : after answer later.controller := by
  refine meets context answer later journal ?_ begun
  exact Journaled.gives_bind.mpr ⟨(answer, later), journal, [], given,
    Journaled.gives_pure.mpr ⟨rfl, rfl⟩, (List.append_nil _).symm⟩

/-! ### The mind of an agent -/

private theorem mind {next : Mind vocabulary → Program vocabulary α}
    (rest : ∀ mind, (next mind).Meets repertoire
      (fun controller => before controller ∧ controller.mind = mind) after) :
    (Program.ask .mind next).Meets repertoire before after := by
  intro context answer later journal given begun
  obtain ⟨⟨reply, between⟩, _, _, performed, ran, _⟩ := Journaled.gives_bind.mp given
  obtain ⟨reached, _⟩ := Journaled.gives_pure.mp performed
  cases reached
  exact rest context.controller.mind context answer later _ ran ⟨begun, rfl⟩

private theorem setMind {mind : Mind vocabulary} {next : Unit → Program vocabulary α}
    {between : Controller vocabulary → Prop}
    (holds : ∀ controller, before controller → between { controller with mind })
    (rest : (next ()).Meets repertoire between after) :
    (Program.ask (.setMind mind) next).Meets repertoire before after := by
  intro context answer later journal given begun
  obtain ⟨⟨reply, reached⟩, _, _, performed, ran, _⟩ := Journaled.gives_bind.mp given
  obtain ⟨same, _⟩ := Journaled.gives_pure.mp performed
  cases same
  exact rest _ answer later _ ran (holds context.controller begun)

theorem read {look : Mind vocabulary → α}
    (holds : ∀ controller, before controller → after (look controller.mind) controller) :
    (Program.read look).Meets repertoire before after :=
  mind fun _ => pure fun controller begun => begun.2 ▸ holds controller begun.1

theorem change {update : Mind vocabulary → Mind vocabulary}
    {after : Unit → Controller vocabulary → Prop}
    (holds : ∀ controller, before controller →
      after () { controller with mind := update controller.mind }) :
    (Program.change update).Meets repertoire before after :=
  mind fun _ => setMind (fun controller begun => begun.2 ▸ holds controller begun.1)
    (pure fun _ kept => kept)

theorem changeReading {update : Mind vocabulary → α × Mind vocabulary}
    (holds : ∀ controller, before controller →
      after (update controller.mind).1 { controller with mind := (update controller.mind).2 }) :
    (Program.changeReading update).Meets repertoire before after :=
  mind fun _ => setMind (fun controller begun => begun.2 ▸ holds controller begun.1)
    (pure fun _ kept => kept)

private theorem fail (fault : Fault) :
    (Program.fail fault : Program vocabulary α).Meets repertoire before after := by
  intro context answer later journal given
  cases given

theorem ofExcept {outcome : Except Fault α}
    (holds : ∀ answer, outcome = .ok answer → ∀ controller, before controller →
      after answer controller) :
    (Program.ofExcept outcome).Meets repertoire before after := by
  cases outcome with
  | error fault => exact fail fault
  | ok answer => exact pure (holds answer rfl)

theorem draw {sample : StateT Generator (Except Fault) α}
    (holds : ∀ controller answer generator, before controller →
      after answer { controller with mind := { controller.mind with generator } }) :
    (Program.draw sample).Meets repertoire before after := by
  refine mind fun known => ?_
  cases drawn : sample known.generator with
  | error fault => exact fail fault
  | ok reached =>
      obtain ⟨answer, generator⟩ := reached
      refine setMind (fun controller begun => ?_) (pure fun _ kept => kept)
      obtain ⟨begun, rfl⟩ := begun
      exact holds controller answer generator begun

/-! ### The rest of a controller -/

theorem note {record : Record} {after : Unit → Controller vocabulary → Prop}
    (holds : ∀ controller, before controller → after () controller) :
    (Program.request (.note record)).Meets repertoire before after := by
  refine request fun context later answer journal performed begun => ?_
  obtain ⟨_, _, _, _, rest, _⟩ := Journaled.gives_bind.mp performed
  obtain ⟨reached, _⟩ := Journaled.gives_pure.mp rest
  cases reached
  exact holds context.controller begun

theorem install {set : HandlerSet vocabulary} {after : Unit → Controller vocabulary → Prop}
    (holds : ∀ controller, before controller →
      after () { controller with surface := controller.surface.install set }) :
    (Program.request (.install set)).Meets repertoire before after := by
  refine request fun context later answer journal performed begun => ?_
  obtain ⟨reached, _⟩ := Journaled.gives_pure.mp performed
  cases reached
  exact holds context.controller begun

private theorem schedule {delay : Span} {after : Unit → Controller vocabulary → Prop}
    (holds : ∀ controller scheduler, before controller → after () { controller with scheduler }) :
    (Program.request (.schedule delay)).Meets repertoire before after := by
  refine request fun context later answer journal performed begun => ?_
  obtain ⟨_, _, _, rfl, _⟩ := Context.gives_schedule.mp (Context.gives_effect.mp performed)
  exact holds context.controller _ begun

theorem reconsiderNow {after : Unit → Controller vocabulary → Prop}
    (holds : ∀ controller scheduler, before controller → after () { controller with scheduler }) :
    (Program.request .reconsiderNow).Meets repertoire before after :=
  fun context => schedule holds context

theorem setPriorities {tree : PriorityTree vocabulary}
    {after : Unit → Controller vocabulary → Prop}
    (holds : ∀ controller scheduler, before controller →
      after () { controller with tree, scheduler }) :
    (Program.request (.setPriorities tree)).Meets repertoire before after := by
  refine request fun context later answer journal performed begun => ?_
  obtain ⟨_, rest, _⟩ := Context.gives_setPriorities.mp (Context.gives_effect.mp performed)
  obtain ⟨_, _, _, rfl, _⟩ := Context.gives_schedule.mp rest
  exact holds context.controller _ begun

theorem communicate {key substitution : String} {after : Unit → Controller vocabulary → Prop}
    (unsaid : ∀ controller, before controller → after () controller)
    (received : ∀ controller message agent,
      (repertoire.receive message controller.agent).outcome = .ok agent → before controller →
        after () (controller.mapAgent fun _ => agent)) :
    (Program.request (.communicate key substitution)).Meets repertoire before after := by
  refine request fun context later answer journal performed begun => ?_
  have said : (context.communicate repertoire key substitution).Gives later journal :=
    Context.gives_effect.mp performed
  unfold Context.communicate at said
  cases rendered : context.controller.mind.phrases.render? key substitution with
  | none =>
      rw [rendered] at said
      obtain ⟨rfl, _⟩ := Journaled.gives_pure.mp said
      exact unsaid context.controller begun
  | some message =>
      rw [rendered] at said
      obtain ⟨agent, _, _, heard, rest, _⟩ := Journaled.gives_bind.mp said
      obtain ⟨rfl, _⟩ := Journaled.gives_pure.mp rest
      obtain ⟨records, outcome, _⟩ := Told.gives_logged.mp heard
      exact received context.controller message agent outcome.outcome begun

end Program.Meets

/-! ### Reconsiderations that are put off -/

/-- Whatever stands for an agent once such a program has ended lies ahead, if something was true of
its controller when the program began. -/
def Program.PutsOff (repertoire : Repertoire vocabulary) (before : Controller vocabulary → Prop)
    (program : Program vocabulary α) : Prop :=
  ∀ (context : Context vocabulary) (answer : α) (later : Context vocabulary) (journal : List Entry),
    (context.run repertoire program).Gives (answer, later) journal → before context.controller →
      ∀ docket : Docket, docket.clock = context.timers.clock →
        ∀ timer ∈ (docket.read journal).timers, timer.owner = context.controller.id →
          docket.clock.now < timer.due

namespace Program.PutsOff

variable {before : Controller vocabulary → Prop} {middle : β → Controller vocabulary → Prop}

theorem bind {first : Program vocabulary β} {next : β → Program vocabulary α}
    (early : first.Meets repertoire before middle)
    (late : ∀ answer, (next answer).PutsOff repertoire (middle answer)) :
    (first >>= next).PutsOff repertoire before := by
  intro context answer later journal given begun docket clock timer member mine
  rw [Context.run_bind] at given
  obtain ⟨⟨reply, between⟩, entries, _, ran, rest, rfl⟩ := Journaled.gives_bind.mp given
  have works := Context.Works.run ran
  have sameClock := (docket.read_own works.own).1
  rw [Docket.read_append] at member
  have ahead := late reply between answer later _ rest (early context reply between _ ran begun)
    (docket.read entries) (sameClock.trans (clock.trans works.clock.symm)) timer member
    (mine.trans works.id.symm)
  rwa [sameClock] at ahead

theorem reconsiderNow :
    (Program.request .reconsiderNow : Program vocabulary Unit).PutsOff repertoire before := by
  intro context answer later journal given _ docket clock timer member mine
  obtain ⟨⟨_, reached⟩, _, _, performed, rest, rfl⟩ := Journaled.gives_bind.mp given
  obtain ⟨same, rfl⟩ := Journaled.gives_pure.mp rest
  cases same
  have asked := Context.gives_effect.mp performed
  have works := Context.Works.schedule asked
  obtain ⟨armed, _, _, _, rfl⟩ := Context.gives_schedule.mp asked
  have silent := context.controller.scheduler.silent_disarmings context.timers
  rw [List.append_nil, Docket.read_append, Docket.read_silent silent] at member
  rcases List.mem_append.mp member with other | last
  · exact absurd mine (Docket.mem_others.mp other).2
  · have bound := works.ahead _ _ _ (List.mem_append_right _ (List.mem_cons_of_mem _
      List.mem_cons_self))
    rw [List.mem_singleton.mp last]
    rwa [TimerQueue.now, ← clock] at bound

end Program.PutsOff

/-! ### Walks and turns that uphold something -/

namespace Repertoire

/-- Something that no question and no deed of a repertoire puts an end to, and that has nothing to
do with what is pending. -/
structure Upholds (repertoire : Repertoire vocabulary)
    (invariant : Controller vocabulary → Prop) : Prop where
  condition (condition : vocabulary.Condition) :
    (repertoire.condition condition).Meets repertoire invariant fun _ => invariant
  action (action : vocabulary.Action) :
    (repertoire.action action).Meets repertoire invariant fun _ => invariant
  scheduler (controller : Controller vocabulary) (scheduler : Scheduler) :
    invariant controller → invariant { controller with scheduler }

namespace Upholds

variable {invariant : Controller vocabulary → Prop}

theorem noteVisit (depth index : Nat) (isMatch : Bool) :
    (Repertoire.noteVisit depth index isMatch : Program vocabulary Unit).Meets repertoire invariant
      fun _ => invariant := by
  refine .bind (.request fun context later answer journal performed begun => ?_)
    fun standing => .note fun _ kept => kept
  obtain ⟨reached, _⟩ := Journaled.gives_pure.mp performed
  cases reached
  exact begun

private theorem prepare (upholds : repertoire.Upholds invariant)
    (action : Option vocabulary.Action) :
    (repertoire.walker.prepare action).Meets repertoire invariant fun _ => invariant := by
  cases action with
  | none => exact .pure fun _ kept => kept
  | some named => exact upholds.action named

private theorem matched (upholds : repertoire.Upholds invariant)
    (condition : Option vocabulary.Condition) :
    (repertoire.walker.matched condition).Meets repertoire invariant fun _ => invariant := by
  cases condition with
  | none => exact .pure fun _ kept => kept
  | some named => exact upholds.condition named

private theorem armIf (upholds : repertoire.Upholds invariant) (delay : Option Span) :
    (repertoire.walker.armIf delay).Meets repertoire invariant fun _ => invariant := by
  cases delay with
  | none => exact .pure fun _ kept => kept
  | some delay => exact .schedule upholds.scheduler

mutual

private theorem visit (upholds : repertoire.Upholds invariant) (depth index : Nat) :
    (rule : Rule vocabulary) → (repertoire.walker.visit depth index rule).Meets repertoire
      invariant fun _ => invariant
  | ⟨precheck, condition, onMatch, behaviour, reconsiderAfter, whenTrue, whenFalse⟩ => by
      unfold Walker.visit
      refine .bind (upholds.prepare precheck) fun _ => .bind (upholds.matched condition)
        fun holds => .bind (noteVisit depth index holds) fun _ => ?_
      cases holds with
      | false => exact walkFrom upholds (depth + 1) 0 whenFalse
      | true =>
          refine .bind (upholds.prepare onMatch) fun _ => ?_
          cases behaviour with
          | none => exact walkFrom upholds (depth + 1) 0 whenTrue
          | some chosen => exact .bind (upholds.armIf _) fun _ => .pure fun _ kept => kept

private theorem walkFrom (upholds : repertoire.Upholds invariant) (depth index : Nat) :
    (rules : List (Rule vocabulary)) → (repertoire.walker.walkFrom depth index rules).Meets
      repertoire invariant fun _ => invariant
  | [] => by
      rw [Walker.walkFrom]
      exact .pure fun _ kept => kept
  | rule :: rules => by
      rw [Walker.walkFrom]
      refine .bind (visit upholds depth index rule) fun chosen => ?_
      cases chosen with
      | none => exact walkFrom upholds depth (index + 1) rules
      | some action => exact .pure fun _ kept => kept

end

theorem evaluate (upholds : repertoire.Upholds invariant) (rules : List (Rule vocabulary)) :
    (repertoire.evaluate rules).Meets repertoire invariant fun _ => invariant :=
  upholds.walkFrom 0 0 rules

variable {context later : Context vocabulary} {journal : List Entry}

private theorem reconsider (upholds : repertoire.Upholds invariant) {outcome : Reconsideration}
    (given : (context.reconsider repertoire).Gives (outcome, later) journal)
    (begun : invariant context.controller) : invariant later.controller := by
  obtain ⟨⟨chosen, middle⟩, _, _, walked, rest, _⟩ := Journaled.gives_bind.mp given
  have kept := upholds.evaluate _ _ _ _ _ walked begun
  cases chosen with
  | none =>
      obtain ⟨_, _, _, _, final, _⟩ := Journaled.gives_bind.mp rest
      cases (Journaled.gives_pure.mp final).1
      exact kept
  | some behaviour =>
      obtain ⟨_, _, _, _, acted, _⟩ := Journaled.gives_bind.mp rest
      obtain ⟨⟨_, reached⟩, _, _, ran, final, _⟩ := Journaled.gives_bind.mp acted
      cases (Journaled.gives_pure.mp final).1
      exact upholds.action behaviour _ _ _ _ ran kept

/-- A timer that is handed to an agent puts an end to nothing that its code upholds. -/
theorem onTimer (upholds : repertoire.Upholds invariant) {fired : TimerHandle}
    {outcome : Reconsideration} (pending : context.controller.pending = some fired)
    (given : (context.onTimer repertoire fired).Gives (outcome, later) journal)
    (begun : invariant context.controller) : invariant later.controller := by
  have detached : invariant context.detached.controller := upholds.scheduler _ _ begun
  rw [Context.onTimer_of_pending pending] at given
  split at given
  · exact upholds.reconsider given detached
  · cases (Journaled.gives_pure.mp given).1
    exact detached

end Upholds

end Repertoire

end PriorityAgents
