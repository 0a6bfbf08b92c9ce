import PriorityAgents.Proofs.World.Solo

/-!
A tick in company and a tick alone: the events and the timer of an agent come to its image as they
come to the agent itself, and what the others do in between leaves the image as it was.
-/

set_option autoImplicit false

namespace PriorityAgents

variable {vocabulary : Vocabulary} {reach : Reach vocabulary} {agent other : AgentId}
  {repertoire : Repertoire vocabulary} {docket : Docket} {issued : Nat} {journal : List Entry}
  {now : Tick}

namespace Roster

variable {roster later : Roster vocabulary} {rest : List Timer}
  {event : PendingEvent vocabulary} {solo : Option (Context vocabulary)}

/-! ### Events -/

private theorem heard_event (agent : AgentId) (event : PendingEvent vocabulary) (handled : Bool)
    (now : Tick) :
    heard agent ((unheard event handled).map Entry.told ++
        [.noticed (.event now event.agent event.name handled)]) =
      if event.agent = agent then [.event now event.agent event.name handled] else [] := by
  rw [heard_append, heard_told, heard_noticed, List.nil_append]
  simp only [Notice.isAbout, decide_eq_true_eq]

theorem deliver_spares (keeps : roster.Keeps issued docket []) (foreign : event.agent ≠ agent)
    (given : (roster.deliver repertoire now event).Gives later journal) :
    Spares agent roster docket later journal := by
  obtain ⟨handled, entries, work, rfl⟩ := gives_deliver.mp given
  have ending (reached : Roster vocabulary) (docket : Docket) :
      Spares agent reached docket reached ((unheard event handled).map Entry.told ++
        [.noticed (.event now event.agent event.name handled)]) := by
    obtain ⟨_, _, _, same, _⟩ := ending_routine event handled now docket
    refine ⟨rfl, congrArg Docket.clock same, congrArg (·.dueOf agent) same, ?_⟩
    rw [heard_event, if_neg foreign]
  cases found : roster.context? event.agent with
  | none =>
      rw [found] at work
      obtain ⟨rfl, rfl, rfl⟩ := work
      exact ending later docket
  | some context =>
      rw [found] at work
      obtain ⟨done, ran, rfl⟩ := work
      have own := (Context.Works.handleEvent ran).own
      rw [(keeps.atWork found).1] at own
      refine (Spares.of_own ?_ foreign.symm own).trans (ending _ _)
      rw [controller?_keep (context?_eq_some.mp found).1, if_neg foreign.symm]

private theorem deliver_echoed (keeps : roster.Keeps issued docket [])
    (images : Option.Rel (Image reach event.agent docket) (roster.controller? event.agent) solo)
    (blind : repertoire.Blind reach) (brought : reach.payload event.payload)
    (given : (roster.deliver repertoire now event).Gives later journal)
    (room : issued + journal.countP Entry.isArming ≤ 2 ^ 32 - 1) :
    Echoed reach event.agent (docket.read journal) (later.controller? event.agent) journal
      (Solo.deliver repertoire now event solo) := by
  obtain ⟨handled, entries, work, rfl⟩ := gives_deliver.mp given
  obtain ⟨_, _, armings, same, _⟩ := ending_routine event handled now (docket.read entries)
  rw [List.countP_append, armings, Nat.add_zero] at room
  rw [Docket.read_append, same, Echoed, heard_append, heard_event, if_pos rfl]
  have told : heard event.agent [.noticed (.event now event.agent event.name handled)] =
      [.event now event.agent event.name handled] := by
    rw [heard_noticed]
    exact if_pos (decide_eq_true rfl)
  cases found : roster.context? event.agent with
  | none =>
      rw [found] at work
      obtain ⟨rfl, rfl, rfl⟩ := work
      have empty : later.controller? event.agent = none := Option.map_eq_none_iff.mp found
      rw [empty] at images ⊢
      cases images
      exact ⟨none, _, Journaled.gives_bind.mpr ⟨(), _, [], Logged.gives_notify.mpr rfl,
        Journaled.gives_pure.mpr ⟨rfl, rfl⟩, rfl⟩, .none, told⟩
  | some context =>
      rw [found] at work
      obtain ⟨done, ran, rfl⟩ := work
      obtain ⟨occupied, _⟩ := context?_eq_some.mp found
      obtain ⟨id, begun⟩ := keeps.atWork found
      rw [occupied] at images
      cases images with
      | some image =>
          obtain ⟨stays, reached, alone, aloneRan, alike⟩ :=
            (image.alike begun keeps.single id).handleEvent blind image.within brought ran
          have works := Context.Works.handleEvent ran
          have kept := works.keeps issued docket begun room
          refine ⟨some reached, _, Journaled.gives_bind.mpr ⟨_, alone, _, aloneRan,
            Journaled.gives_bind.mpr ⟨(), _, [], Logged.gives_notify.mpr rfl,
              Journaled.gives_pure.mpr ⟨rfl, rfl⟩, rfl⟩, rfl⟩, ?_, ?_⟩
          · rw [controller?_keep occupied, if_pos rfl]
            exact .some (.of_alike kept (keeps.single.read entries) (works.id.trans id) alike stays)
          · rw [heard_append, heard_own (Context.Works.handleEvent aloneRan).own,
              heard_own works.own, List.append_nil, told]

theorem deliverAll_echoed {events : List (PendingEvent vocabulary)}
    (keeps : roster.Keeps issued docket [])
    (images : Option.Rel (Image reach agent docket) (roster.controller? agent) solo)
    (blind : repertoire.Blind reach)
    (brought : ∀ event ∈ events, event.agent = agent → reach.payload event.payload)
    (given : (roster.deliverAll repertoire now events).Gives later journal)
    (room : issued + journal.countP Entry.isArming ≤ 2 ^ 32 - 1) :
    Echoed reach agent (docket.read journal) (later.controller? agent) journal
      (Solo.deliverAll repertoire now solo (events.filter (·.agent = agent))) := by
  induction events generalizing roster issued docket journal solo with
  | nil =>
      obtain ⟨rfl, rfl⟩ := Journaled.gives_pure.mp given
      exact ⟨solo, [], Journaled.gives_pure.mpr ⟨rfl, rfl⟩, images, rfl⟩
  | cons event events ih =>
      obtain ⟨middle, first, second, delivered, rest, rfl⟩ := Journaled.gives_bind.mp given
      rw [List.countP_append] at room
      have served := deliver_served keeps delivered (by omega)
      have broughtLater := fun waiting member => brought waiting (List.mem_cons_of_mem event member)
      rw [Docket.read_append, Echoed, heard_append]
      by_cases mine : event.agent = agent
      · subst mine
        obtain ⟨twin, early, aloneDelivered, twinImages, sameEarly⟩ := deliver_echoed keeps images
          blind (brought event List.mem_cons_self rfl) delivered (by omega)
        obtain ⟨reached, late, aloneRest, laterImages, sameLate⟩ :=
          ih served.keeps twinImages broughtLater rest (by omega)
        rw [List.filter_cons_of_pos (by simp)]
        refine ⟨reached, early ++ late, Journaled.gives_bind.mpr
          ⟨twin, early, late, aloneDelivered, aloneRest, rfl⟩, laterImages, ?_⟩
        rw [heard_append, sameEarly, sameLate]
      · have spares := deliver_spares keeps mine delivered
        obtain ⟨reached, late, aloneRest, laterImages, sameLate⟩ :=
          ih served.keeps (spares.image images) broughtLater rest (by omega)
        rw [List.filter_cons_of_neg (by simpa using mine)]
        refine ⟨reached, late, aloneRest, laterImages, ?_⟩
        rw [spares.unheard, sameLate, List.nil_append]

/-! ### Timers -/

theorem handOut_spares {context done : Context vocabulary} {timer : Timer} (now : Tick)
    (outcome : Reconsideration) (keeps : roster.Keeps issued docket (timer :: rest))
    (foreign : timer.owner ≠ agent) (found : roster.context? timer.owner = some context)
    (works : context.detached.Works done journal) :
    Spares agent roster docket (roster.keep timer.owner done)
      (journal ++ [.noticed (.reconsider now timer.owner outcome)]) := by
  have occupied := (context?_eq_some.mp found).1
  have own := works.own
  change ∀ entry ∈ journal, entry.IsOwn context.controller.id at own
  rw [keeps.id_eq occupied] at own
  have worked : Spares agent roster docket (roster.keep timer.owner done) journal := by
    refine Spares.of_own ?_ foreign.symm own
    rw [controller?_keep occupied, if_neg foreign.symm]
  refine worked.trans ⟨rfl, rfl, rfl, ?_⟩
  rw [heard_noticed]
  exact if_neg (by simpa [Notice.isAbout] using foreign)

theorem routeAll_spares {fired : Nat} (keeps : roster.Keeps issued docket rest)
    (foreign : ∀ timer ∈ rest, timer.owner ≠ agent)
    (given : (roster.routeAll repertoire now rest).Gives (fired, later) journal)
    (room : issued + journal.countP Entry.isArming ≤ 2 ^ 32 - 1) :
    Spares agent roster docket later journal := by
  induction rest generalizing roster issued docket journal fired with
  | nil =>
      obtain ⟨reached, rfl⟩ := Journaled.gives_pure.mp given
      cases reached
      exact Spares.refl agent _ docket
  | cons timer rest ih =>
      obtain ⟨context, found, _⟩ := keeps.detached
      obtain ⟨outcome, done, entries, others, after, ran, routed, rfl, rfl⟩ :=
        (gives_routeAll_cons found).mp given
      rw [List.countP_append, armings_reconsidered] at room
      obtain ⟨kept, _, works, _⟩ := keeps.handOut found ran (by omega)
      have notMine := foreign timer List.mem_cons_self
      refine (handOut_spares now outcome keeps notMine found works).trans ?_
      rw [read_reconsidered]
      exact ih kept (fun waiting member => foreign waiting (List.mem_cons_of_mem _ member)) routed
        (by omega)

private theorem routeAll_echoed {fired : Nat} {handle : TimerHandle}
    {controller : Controller vocabulary} {alone : Context vocabulary}
    (keeps : roster.Keeps issued docket rest)
    (waiting : ∃ timer ∈ rest, timer.owner = agent)
    (occupied : roster.controller? agent = some controller)
    (same : { controller with scheduler := .idle } = alone.detached.controller)
    (clock : docket.clock = alone.timers.clock) (within : controller.Within reach)
    (pending : alone.controller.pending = some handle) (blind : repertoire.Blind reach)
    (given : (roster.routeAll repertoire now rest).Gives (fired, later) journal)
    (room : issued + journal.countP Entry.isArming ≤ 2 ^ 32 - 1) :
    ∃ outcome reached entries,
      (alone.onTimer repertoire handle).Gives (outcome, reached) entries ∧
        Option.Rel (Image reach agent (docket.read journal)) (later.controller? agent)
          (some reached) ∧
        heard agent journal = [.reconsider now agent outcome] := by
  induction rest generalizing roster issued docket journal fired with
  | nil =>
      obtain ⟨timer, member, _⟩ := waiting
      exact absurd member List.not_mem_nil
  | cons timer rest ih =>
      obtain ⟨context, found, first, _⟩ := keeps.detached
      obtain ⟨outcome, done, entries, others, after, ran, routed, rfl, rfl⟩ :=
        (gives_routeAll_cons found).mp given
      rw [List.countP_append, armings_reconsidered] at room
      obtain ⟨kept, begun, works, _⟩ := keeps.handOut found ran (by omega)
      rw [Docket.read_append, read_reconsidered, heard_append]
      by_cases mine : timer.owner = agent
      · subst mine
        cases occupied.symm.trans (context?_eq_some.mp found).1
        have id := keeps.id_eq occupied
        have alike : context.detached.Alike alone.detached :=
          .of_detached same (begun.clock.trans clock)
        obtain ⟨stays, reached, ringing, rang, alikeLater⟩ :=
          alike.onTimer blind within first pending ran
        have worked := works.keeps issued docket begun (by omega)
        have spares := routeAll_spares kept keeps.foreign routed (by omega)
        refine ⟨outcome, reached, ringing, rang, spares.image ?_, ?_⟩
        · rw [controller?_keep occupied, if_pos rfl]
          exact .some (.of_alike worked (keeps.single.read entries)
            (works.id.trans id) alikeLater stays)
        · rw [heard_append, heard_own works.own, heard_noticed, spares.unheard]
          simp [Notice.isAbout]
      · have spares := handOut_spares now outcome keeps mine found works
        have sameClock := spares.clock
        rw [read_reconsidered] at sameClock
        obtain ⟨timer, member, owner⟩ := waiting
        have left : ∃ waiting ∈ rest, waiting.owner = agent := by
          rcases List.mem_cons.mp member with rfl | member
          · exact absurd owner mine
          · exact ⟨timer, member, owner⟩
        obtain ⟨reported, reached, ringing, rang, images, told⟩ := ih kept left
          (spares.slot.trans occupied) (sameClock.trans clock) routed (by omega)
        refine ⟨reported, reached, ringing, rang, images, ?_⟩
        rw [spares.unheard, told, List.nil_append]

/-- What is due in a tick fires in company as it does alone. -/
theorem fire_echoed {fired : Nat} (keeps : roster.Keeps issued docket [])
    (standing : docket.clock.now = now)
    (images : Option.Rel (Image reach agent docket) (roster.controller? agent) solo)
    (blind : repertoire.Blind reach)
    (given : (roster.fire repertoire now).Gives (fired, later) journal)
    (room : issued + journal.countP Entry.isArming ≤ 2 ^ 32 - 1) :
    Echoed reach agent (docket.read journal) (later.controller? agent) journal
      (Solo.ring repertoire now agent solo) := by
  obtain ⟨due, timers, routing, drained, routed, rfl⟩ := gives_fire.mp given
  obtain ⟨rfl, drainedKeeps⟩ := keeps.drain standing drained
  change Echoed reach agent ((docket.enter (.drained now)).read routing) _ routing _
  by_cases waiting : ∃ timer ∈ docket.timers, timer.owner = agent ∧ timer.due ≤ now
  · obtain ⟨timer, member, mine, overdue⟩ := waiting
    have inDue : timer ∈ Timer.inDueOrder (docket.timers.filter (·.due ≤ now)) :=
      (Timer.inDueOrder_perm _).mem_iff.mpr
        (List.mem_filter.mpr ⟨member, decide_eq_true overdue⟩)
    have slot := (drainedKeeps.pending agent timer.handle).mpr
      ⟨timer, List.mem_append_left _ inDue, mine, rfl⟩
    obtain ⟨controller, occupied, _⟩ := Option.bind_eq_some_iff.mp slot
    rw [show roster.controller? agent = some controller from occupied] at images
    cases images with
    | @some _ alone image =>
        have line : alone.due? = some timer.due :=
          image.due.symm.trans (keeps.single.dueOf_eq_some.mpr ⟨timer, member, mine, rfl⟩)
        have pending := image.slot
        rw [line, Option.isSome_some, Option.isSome_iff_exists] at pending
        obtain ⟨handle, pending⟩ := pending
        obtain ⟨outcome, reached, ringing, rang, laterImages, told⟩ :=
          routeAll_echoed drainedKeeps ⟨timer, inDue, mine⟩ occupied image.same image.clock
            image.within pending blind routed room
        rw [Solo.ring_due pending line overdue]
        refine ⟨some reached, _, Journaled.gives_bind.mpr ⟨_, ringing, _, rang,
          Journaled.gives_bind.mpr ⟨(), _, [], Logged.gives_notify.mpr rfl,
            Journaled.gives_pure.mpr ⟨rfl, rfl⟩, rfl⟩, rfl⟩, laterImages, ?_⟩
        rw [heard_append, heard_own (Context.works_of_onTimer pending rang).1.own, List.append_nil,
          heard_noticed, told]
        simp [Notice.isAbout]
  · have ahead : ∀ timer ∈ docket.timers, timer.owner = agent → now < timer.due := by
      intro timer member mine
      rw [Tick.lt_def]
      by_contra notLater
      exact waiting ⟨timer, member, mine, by rw [Tick.le_def]; omega⟩
    have foreign : ∀ timer ∈ Timer.inDueOrder (docket.timers.filter (·.due ≤ now)),
        timer.owner ≠ agent := by
      intro timer member mine
      obtain ⟨standing, overdue⟩ := List.mem_filter.mp ((Timer.inDueOrder_perm _).mem_iff.mp member)
      exact waiting ⟨timer, standing, mine, of_decide_eq_true overdue⟩
    have spares := routeAll_spares drainedKeeps foreign routed room
    have unrung : Solo.ring repertoire now agent solo = pure solo := by
      generalize roster.controller? agent = slot at images
      cases images with
      | none => rfl
      | some image =>
          apply Solo.ring_ahead
          intro due line
          obtain ⟨timer, member, mine, rfl⟩ :=
            keeps.single.dueOf_eq_some.mp (image.due.trans line)
          exact ahead timer member mine
    rw [unrung]
    exact ⟨solo, [], Journaled.gives_pure.mpr ⟨rfl, rfl⟩,
      spares.image (Image.of_line images rfl (keeps.single.dueOf_drained ahead)),
      spares.unheard.symm⟩

end Roster

end PriorityAgents
