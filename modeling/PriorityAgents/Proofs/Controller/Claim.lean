import Mathlib.Data.List.Induction
import PriorityAgents.Proofs.Controller.Watch
import PriorityAgents.Proofs.Journal.Docket

/-!
What the marks of a history say about an agent: the timer that it is owed, and its tree.

An agent is owed the timer that it asked for last, unless it was called off or acted on since. That
is read off the marks alone, without a look at slots or timers.
-/

set_option autoImplicit false

namespace PriorityAgents

variable {vocabulary : Vocabulary} {α β : Type}

namespace Mark

/-- What an agent has a claim to after a mark: the timer that it asked for last, unless it was
called off or used up since. -/
def claim (agent : AgentId) (held : Option TimerHandle) :
    Mark vocabulary → Option TimerHandle
  | .entered (.scheduled asker handle _) => if asker = agent then some handle else held
  | .asked asker .cancel => if asker = agent then none else held
  | .tornDown asker => if asker = agent then none else held
  | .reported asker fired outcome =>
      if asker = agent ∧ held = some fired ∧ outcome ≠ .stale then none else held
  | _ => held

def IsOf (agent : AgentId) : Mark vocabulary → Prop
  | .entered entry => entry.IsOwn agent
  | .asked asker _ | .tornDown asker => asker = agent
  | .stepped _ => True
  | .reported _ _ _ => False

def plan? : Mark vocabulary → Option (PriorityTree vocabulary)
  | .asked _ (.setPriorities tree) => some tree
  | _ => none

def acted? : Mark vocabulary → Option TimerHandle
  | .reported _ _ .stale => none
  | .reported _ fired _ => some fired
  | _ => none

/-- After a mark like this an agent is not owed a timer any more: it has asked for another one, has
called off what is pending, is out of service, or the timer has been acted on. -/
def Settles (agent : AgentId) (handle : TimerHandle) : Mark vocabulary → Prop
  | .entered (.scheduled asker _ _) => asker = agent
  | .asked asker .cancel => asker = agent
  | .tornDown asker => asker = agent
  | .reported asker fired outcome => asker = agent ∧ fired = handle ∧ outcome ≠ .stale
  | _ => False

end Mark

/-- A timer that an agent has asked for is owed to it until that is settled. -/
def Owed (history : List (Mark vocabulary)) (agent : AgentId) (handle : TimerHandle) : Prop :=
  ∃ earlier later delay,
    history = earlier ++ .entered (.scheduled agent handle delay) :: later ∧
      ∀ mark ∈ later, ¬mark.Settles agent handle

def acted (marks : List (Mark vocabulary)) : List TimerHandle :=
  marks.filterMap Mark.acted?

def claim (agent : AgentId) (held : Option TimerHandle) (marks : List (Mark vocabulary)) :
    Option TimerHandle :=
  marks.foldl (Mark.claim agent) held

def plans (marks : List (Mark vocabulary)) : List (PriorityTree vocabulary) :=
  marks.filterMap Mark.plan?

@[simp] theorem claim_append (agent : AgentId) (held : Option TimerHandle)
    (first second : List (Mark vocabulary)) :
    claim agent held (first ++ second) = claim agent (claim agent held first) second :=
  List.foldl_append

@[simp] theorem plans_append (first second : List (Mark vocabulary)) :
    plans (first ++ second) = plans first ++ plans second := List.filterMap_append

@[simp] theorem acted_append (first second : List (Mark vocabulary)) :
    acted (first ++ second) = acted first ++ acted second := List.filterMap_append

theorem plans_entered (entries : List Entry) :
    plans (entries.map (Mark.entered : Entry → Mark vocabulary)) = [] := by
  induction entries with
  | nil => rfl
  | cons entry entries ih => exact ih

theorem claim_silent {entries : List Entry} (silent : ∀ entry ∈ entries, entry.IsSilent)
    (agent : AgentId) (held : Option TimerHandle) :
    claim agent held (entries.map (Mark.entered : Entry → Mark vocabulary)) = held := by
  induction entries with
  | nil => rfl
  | cons entry entries ih =>
      have same : Mark.claim agent held (Mark.entered entry : Mark vocabulary) = held := by
        have quiet := silent entry List.mem_cons_self
        cases entry <;> first | rfl | exact quiet.elim
      change claim agent (Mark.claim agent held (.entered entry)) _ = held
      rw [same]
      exact ih fun later member => silent later (List.mem_cons_of_mem _ member)

theorem claim_of_other {agent other : AgentId} {marks : List (Mark vocabulary)}
    (own : ∀ mark ∈ marks, mark.IsOf other) (foreign : other ≠ agent)
    (held : Option TimerHandle) : claim agent held marks = held := by
  induction marks with
  | nil => rfl
  | cons mark marks ih =>
      have same : mark.claim agent held = held := by
        have mine := own mark List.mem_cons_self
        cases mark with
        | entered entry =>
            cases entry with
            | scheduled asker handle delay => exact if_neg fun equal => foreign (mine ▸ equal)
            | _ => rfl
        | asked asker request =>
            cases request with
            | cancel => exact if_neg fun equal => foreign (mine ▸ equal)
            | _ => rfl
        | stepped footstep => rfl
        | tornDown asker => exact if_neg fun equal => foreign (mine ▸ equal)
        | reported asker fired outcome => exact mine.elim
      change claim agent (mark.claim agent held) marks = held
      rw [same]
      exact ih fun later member => own later (List.mem_cons_of_mem _ member)

namespace Mark

private theorem claim_none (agent : AgentId) (handle : TimerHandle) (mark : Mark vocabulary) :
    mark.claim agent none = mark.claim agent (some handle) ∨
      (mark.claim agent none = none ∧ mark.claim agent (some handle) = some handle) := by
  unfold claim
  split
  case h_1 asker other delay =>
    by_cases same : asker = agent
    · exact .inl ((if_pos same).trans (if_pos same).symm)
    · exact .inr ⟨if_neg same, if_neg same⟩
  case h_2 asker =>
    by_cases same : asker = agent
    · exact .inl ((if_pos same).trans (if_pos same).symm)
    · exact .inr ⟨if_neg same, if_neg same⟩
  case h_3 asker =>
    by_cases same : asker = agent
    · exact .inl ((if_pos same).trans (if_pos same).symm)
    · exact .inr ⟨if_neg same, if_neg same⟩
  case h_4 asker fired outcome =>
    rw [if_neg fun given => nomatch given.2.1]
    split
    · exact .inl rfl
    · exact .inr ⟨rfl, rfl⟩
  case h_5 => exact .inr ⟨rfl, rfl⟩

end Mark

private theorem claim_none (agent : AgentId) (handle : TimerHandle)
    (marks : List (Mark vocabulary)) :
    claim agent none marks = claim agent (some handle) marks ∨
      (claim agent none marks = none ∧ claim agent (some handle) marks = some handle) := by
  induction marks with
  | nil => exact .inr ⟨rfl, rfl⟩
  | cons mark marks ih =>
      change claim agent (mark.claim agent none) marks =
          claim agent (mark.claim agent (some handle)) marks ∨
        (claim agent (mark.claim agent none) marks = none ∧
          claim agent (mark.claim agent (some handle)) marks = some handle)
      rcases mark.claim_none agent handle with same | ⟨nothing, kept⟩
      · exact .inl (congrArg (claim agent · marks) same)
      · rw [nothing, kept]
        exact ih

theorem claim_reported {agent : AgentId} {fired : TimerHandle} {outcome : Reconsideration}
    (marks : List (Mark vocabulary)) (current : outcome ≠ .stale)
    (gone : claim agent none marks ≠ some fired) :
    claim agent (some fired) (marks ++ [.reported agent fired outcome]) =
      claim agent none marks := by
  rw [claim_append]
  rcases claim_none agent fired marks with same | ⟨nothing, kept⟩
  · rw [← same]
    exact if_neg fun given => gone given.2.1
  · rw [nothing, kept]
    exact if_pos ⟨rfl, rfl, current⟩

/-! ### What an agent is owed -/

theorem Mark.claim_eq_some {agent : AgentId} {held : Option TimerHandle} {handle : TimerHandle}
    {mark : Mark vocabulary} :
    mark.claim agent held = some handle ↔
      (∃ delay, mark = .entered (.scheduled agent handle delay)) ∨
        (held = some handle ∧ ¬mark.Settles agent handle) := by
  have kept (same : mark.claim agent held = held)
      (other : ∀ delay, mark ≠ .entered (.scheduled agent handle delay))
      (silent : ¬mark.Settles agent handle) :
      mark.claim agent held = some handle ↔
        (∃ delay, mark = .entered (.scheduled agent handle delay)) ∨
          (held = some handle ∧ ¬mark.Settles agent handle) := by
    rw [same, and_iff_left silent, or_iff_right fun given => given.elim other]
  have settled (gone : mark.claim agent held = none)
      (other : ∀ delay, mark ≠ .entered (.scheduled agent handle delay))
      (settles : held = some handle → mark.Settles agent handle) :
      mark.claim agent held = some handle ↔
        (∃ delay, mark = .entered (.scheduled agent handle delay)) ∨
          (held = some handle ∧ ¬mark.Settles agent handle) := by
    rw [gone, or_iff_right fun given => given.elim other]
    exact ⟨nofun, fun given => absurd (settles given.1) given.2⟩
  cases mark with
  | stepped footstep => exact kept rfl nofun id
  | tornDown asker =>
      by_cases mine : asker = agent
      · exact settled (if_pos mine) nofun fun _ => mine
      · exact kept (if_neg mine) nofun mine
  | reported asker fired outcome =>
      by_cases given : asker = agent ∧ held = some fired ∧ outcome ≠ .stale
      · refine settled (if_pos given) nofun fun filled => ⟨given.1, ?_, given.2.2⟩
        exact Option.some.inj (given.2.1.symm.trans filled)
      · by_cases filled : held = some handle
        · refine kept (if_neg given) nofun fun settles => given ⟨settles.1, ?_, settles.2.2⟩
          rw [settles.2.1]
          exact filled
        · have same : (Mark.reported asker fired outcome : Mark vocabulary).claim agent held =
              held := if_neg given
          rw [same]
          exact ⟨fun impossible => absurd impossible filled,
            fun impossible => impossible.elim (fun other => nomatch other) And.left⟩
  | asked asker request =>
      cases request with
      | cancel =>
          by_cases mine : asker = agent
          · exact settled (if_pos mine) nofun fun _ => mine
          · exact kept (if_neg mine) nofun mine
      | _ => exact kept rfl nofun id
  | entered entry =>
      cases entry with
      | scheduled asker issued delay =>
          by_cases mine : asker = agent
          · subst mine
            have fresh : (Mark.entered (.scheduled asker issued delay) : Mark vocabulary).claim
                asker held = some issued := if_pos rfl
            rw [fresh, Option.some.injEq]
            constructor
            · rintro rfl
              exact .inl ⟨delay, rfl⟩
            · rintro (⟨_, same⟩ | ⟨_, free⟩)
              · cases same
                rfl
              · exact absurd rfl free
          · refine kept (if_neg mine) (fun _ same => ?_) mine
            cases same
            exact mine rfl
      | _ => exact kept rfl nofun id

theorem owed_append_singleton {history : List (Mark vocabulary)} {mark : Mark vocabulary}
    {agent : AgentId} {handle : TimerHandle} :
    Owed (history ++ [mark]) agent handle ↔
      (∃ delay, mark = .entered (.scheduled agent handle delay)) ∨
        (Owed history agent handle ∧ ¬mark.Settles agent handle) := by
  constructor
  · rintro ⟨earlier, later, delay, same, standing⟩
    rcases List.eq_nil_or_concat later with rfl | ⟨rest, last, rfl⟩
    · obtain ⟨_, sameMark⟩ := List.append_inj' same rfl
      exact .inl ⟨delay, List.head_eq_of_cons_eq sameMark⟩
    · rw [List.concat_eq_append, ← List.cons_append, ← List.append_assoc] at same
      obtain ⟨rfl, sameMark⟩ := List.append_inj' same rfl
      obtain rfl := List.head_eq_of_cons_eq sameMark
      refine .inr ⟨⟨earlier, rest, delay, rfl, fun other member => ?_⟩, ?_⟩
      · exact standing other (by simp [member])
      · exact standing mark (by simp)
  · rintro (⟨delay, rfl⟩ | ⟨⟨earlier, later, delay, rfl, standing⟩, free⟩)
    · exact ⟨history, [], delay, rfl, nofun⟩
    · refine ⟨earlier, later ++ [mark], delay, by simp, fun other member => ?_⟩
      rcases List.mem_append.mp member with before | last
      · exact standing other before
      · rw [List.mem_singleton.mp last]
        exact free

/-- A claim is to what an agent is owed, and to nothing else. -/
theorem claim_eq_some {agent : AgentId} {handle : TimerHandle} {history : List (Mark vocabulary)} :
    claim agent none history = some handle ↔ Owed history agent handle := by
  induction history using List.reverseRecOn with
  | nil =>
      constructor
      · exact nofun
      · rintro ⟨earlier, later, delay, impossible, _⟩
        exact absurd impossible.symm (List.append_ne_nil_of_right_ne_nil _ (List.cons_ne_nil _ _))
  | append_singleton history mark ih =>
      rw [claim_append, owed_append_singleton, ← ih]
      exact mark.claim_eq_some

theorem acted_of_own {agent : AgentId} {marks : List (Mark vocabulary)}
    (own : ∀ mark ∈ marks, mark.IsOf agent) : acted marks = [] := by
  refine List.filterMap_eq_nil_iff.mpr fun mark member => ?_
  have mine := own mark member
  cases mark with
  | reported asker fired outcome => exact mine.elim
  | _ => rfl

end PriorityAgents
