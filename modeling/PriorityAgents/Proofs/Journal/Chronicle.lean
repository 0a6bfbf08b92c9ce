import PriorityAgents.Proofs.Journal.Docket

/-!
The shape of a history: what is entered between ticks, and what is entered in a tick.

In a tick the events come first. Then the timers that are due are drained, and the agents of which
the docket has lines for this tick are reported, in the order of the lines and nobody else.
-/

set_option autoImplicit false

namespace PriorityAgents

def Entry.reported? : Entry → Option (Tick × AgentId)
  | .noticed (.reconsider tick agent _) => some (tick, agent)
  | _ => none

theorem Entry.IsOwn.reported? {agent : AgentId} {entry : Entry} (own : entry.IsOwn agent) :
    entry.reported? = none := by
  cases entry <;> first | rfl | exact own.elim

def Entry.IsBetween : Entry → Prop
  | .told _ | .armed _ | .disarmed _ _ | .scheduled _ _ _ | .withdrawn _ | .destroyed _ _ => True
  | .noticed (.runEnd _) => True
  | .drained _ | .noticed _ => False

theorem Entry.IsOwn.isBetween {agent : AgentId} {entry : Entry} (own : entry.IsOwn agent) :
    entry.IsBetween := by
  cases entry <;> first | exact trivial | exact own.elim

namespace Docket

/-- What is entered in a tick. -/
inductive Round (docket : Docket) : List Entry → Prop
  | intro (delivering routing : List Entry) (next : docket.clock.now.index + 1 < 2 ^ 64)
      (delivered : ∀ entry ∈ delivering, entry.IsRoutine docket.clock.now)
      (unreported : delivering.filterMap Entry.reported? = [])
      (routed : ∀ entry ∈ routing, entry.IsRoutine docket.clock.now)
      (reports : routing.filterMap Entry.reported? =
        ((docket.read delivering).timers.filter (·.due = docket.clock.now)).map fun timer =>
          (docket.clock.now, timer.owner)) :
      Round docket
        (.noticed (.tickStart docket.clock.now) :: (delivering ++
          .drained docket.clock.now :: (routing ++
            [.noticed (.tickEnd docket.clock.now
              (routing.filterMap Entry.reported?).length)])))

inductive Chronicle : Docket → List Entry → Prop
  | nil (docket : Docket) : Chronicle docket []
  | between {docket : Docket} {entry : Entry} {rest : List Entry} (between : entry.IsBetween)
      (later : Chronicle (docket.enter entry) rest) : Chronicle docket (entry :: rest)
  | round {docket : Docket} {first rest : List Entry} (round : docket.Round first)
      (later : Chronicle (docket.read first) rest) : Chronicle docket (first ++ rest)

namespace Chronicle

variable {docket : Docket} {first second : List Entry}

theorem append (early : docket.Chronicle first) (late : (docket.read first).Chronicle second) :
    docket.Chronicle (first ++ second) := by
  induction early with
  | nil docket => exact late
  | between here _ ih => exact .between here (ih late)
  | round here _ ih =>
      rw [read_append] at late
      rw [List.append_assoc]
      exact .round here (ih late)

theorem of_between (between : ∀ entry ∈ first, entry.IsBetween) : docket.Chronicle first := by
  induction first generalizing docket with
  | nil => exact .nil docket
  | cons entry rest ih =>
      exact .between (between entry List.mem_cons_self) (ih fun later member =>
        between later (List.mem_cons_of_mem _ member))

private theorem of_round (round : docket.Round first) : docket.Chronicle first := by
  have alone := Chronicle.round round (.nil _)
  rwa [List.append_nil] at alone

theorem locate {history earlier rest : List Entry} {entry : Entry}
    (chronicle : docket.Chronicle history) (split : history = earlier ++ entry :: rest)
    (inTick : ¬entry.IsBetween) :
    ∃ before inside outside after,
      history = before ++ ((inside ++ entry :: outside) ++ after) ∧ earlier = before ++ inside ∧
        docket.Chronicle before ∧ (docket.read before).Round (inside ++ entry :: outside) ∧
        ((docket.read before).read (inside ++ entry :: outside)).Chronicle after := by
  induction chronicle generalizing earlier with
  | nil docket => exact absurd split (by simp)
  | @between docket head later here _ ih =>
      cases earlier with
      | nil =>
          obtain ⟨rfl, _⟩ := List.cons.inj split
          exact absurd here inTick
      | cons first earlier =>
          obtain ⟨rfl, tail⟩ := List.cons.inj split
          obtain ⟨before, inside, outside, after, whole, rfl, early, round, late⟩ := ih tail
          refine ⟨head :: before, inside, outside, after, ?_, rfl, .between here early, round, late⟩
          rw [whole]
          rfl
  | @round docket first later here following ih =>
      rcases List.append_eq_append_iff.mp split with
        ⟨inside, rfl, tail⟩ | ⟨bridge, rfl, tail⟩
      · obtain ⟨before, between, outside, after, whole, rfl, early, round, late⟩ := ih tail
        refine ⟨first ++ before, between, outside, after, ?_, ?_, .round here early, ?_, ?_⟩
        · rw [whole]
          exact (List.append_assoc _ _ _).symm
        · exact (List.append_assoc _ _ _).symm
        · rw [read_append docket first before]
          exact round
        · rw [read_append docket first before]
          exact late
      · cases bridge with
        | nil =>
            rw [List.nil_append] at tail
            rw [List.append_nil] at here following ih
            obtain ⟨before, between, outside, after, whole, empty, early, round, late⟩ :=
              ih (show later = [] ++ entry :: rest from tail.symm)
            obtain ⟨rfl, rfl⟩ := List.append_eq_nil_iff.mp empty.symm
            refine ⟨earlier, [], outside, after, ?_, (List.append_nil _).symm, ?_, round, late⟩
            · rw [List.append_nil, whole]
              rfl
            · exact of_round here
        | cons chosen outside =>
            obtain ⟨rfl, _⟩ := List.cons.inj tail
            exact ⟨[], earlier, outside, later, rfl, rfl, .nil docket, here, following⟩

end Chronicle

end Docket

end PriorityAgents
