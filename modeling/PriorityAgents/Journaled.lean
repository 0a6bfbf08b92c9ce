import PriorityAgents.Fault

/-!
Computations that may be abandoned and that keep a journal.

The journal survives a fault: what was entered before an operation was abandoned has been entered.
The outcome never depends on the journal, so `Journaled.outcome` is a homomorphism onto
computations that may be abandoned, and statements about outcomes may forget the journal.
-/

set_option autoImplicit false

namespace PriorityAgents

/-- An outcome together with what was entered into the journal on the way to it. -/
structure Journaled (ε : Type) (α : Type) where
  outcome : Except Fault α
  journal : List ε

namespace Journaled

variable {ε α β γ : Type}

@[ext] theorem ext {left right : Journaled ε α} (outcome : left.outcome = right.outcome)
    (journal : left.journal = right.journal) : left = right := by
  cases left
  cases right
  simp_all

protected def pure (answer : α) : Journaled ε α := ⟨.ok answer, []⟩

/-- Two stretches of a journal as one. Nothing is copied when the later one is empty. -/
def continued (earlier later : List ε) : List ε :=
  if later.isEmpty then earlier else earlier ++ later

@[simp] theorem continued_eq (earlier later : List ε) :
    continued earlier later = earlier ++ later := by
  cases later <;> simp [continued]

protected def bind (first : Journaled ε α) (next : α → Journaled ε β) : Journaled ε β :=
  match first.outcome with
  | .error fault => ⟨.error fault, first.journal⟩
  | .ok answer =>
      let rest := next answer
      ⟨rest.outcome, continued first.journal rest.journal⟩

instance : Monad (Journaled ε) where
  pure := Journaled.pure
  bind := Journaled.bind

instance [Inhabited α] : Inhabited (Journaled ε α) := ⟨Journaled.pure default⟩

def enter (entry : ε) : Journaled ε Unit := ⟨.ok (), [entry]⟩

def fail (fault : Fault) : Journaled ε α := ⟨.error fault, []⟩

def ofExcept (outcome : Except Fault α) : Journaled ε α := ⟨outcome, []⟩

instance : MonadLift (Except Fault) (Journaled ε) := ⟨ofExcept⟩

@[simp] theorem outcome_pure (answer : α) : (pure answer : Journaled ε α).outcome = .ok answer :=
  rfl

@[simp] theorem journal_pure (answer : α) : (pure answer : Journaled ε α).journal = [] := rfl

@[simp] theorem outcome_bind (first : Journaled ε α) (next : α → Journaled ε β) :
    (first >>= next).outcome = first.outcome >>= fun answer => (next answer).outcome := by
  change (Journaled.bind first next).outcome = _
  unfold Journaled.bind
  cases first.outcome <;> rfl

@[simp] theorem outcome_enter (entry : ε) : (enter entry).outcome = .ok () := rfl

@[simp] theorem outcome_fail (fault : Fault) :
    (fail fault : Journaled ε α).outcome = .error fault := rfl

@[simp] theorem outcome_ofExcept (outcome : Except Fault α) :
    (ofExcept outcome : Journaled ε α).outcome = outcome := rfl

private theorem bind_pure_self (first : Journaled ε α) :
    Journaled.bind first Journaled.pure = first := by
  obtain ⟨outcome, journal⟩ := first
  cases outcome <;> simp [Journaled.bind, Journaled.pure]

private theorem pure_bind_self (answer : α) (next : α → Journaled ε β) :
    Journaled.bind (Journaled.pure answer) next = next answer := by
  simp [Journaled.bind, Journaled.pure]

private theorem bind_assoc_self (first : Journaled ε α) (second : α → Journaled ε β)
    (third : β → Journaled ε γ) :
    Journaled.bind (Journaled.bind first second) third =
      Journaled.bind first fun answer => Journaled.bind (second answer) third := by
  obtain ⟨outcome, journal⟩ := first
  cases outcome with
  | error fault => rfl
  | ok answer =>
      simp only [Journaled.bind]
      cases second answer with
      | mk outcome later => cases outcome <;> simp [List.append_assoc]

instance : LawfulMonad (Journaled ε) :=
  LawfulMonad.mk' (Journaled ε) bind_pure_self pure_bind_self bind_assoc_self

def attach : (first : Journaled ε α) → Journaled ε { answer : α // first.outcome = .ok answer }
  | ⟨.ok answer, journal⟩ => ⟨.ok ⟨answer, rfl⟩, journal⟩
  | ⟨.error fault, journal⟩ => ⟨.error fault, journal⟩

theorem attach_bind (first : Journaled ε α) (next : α → Journaled ε β) :
    (first.attach >>= fun answer => next answer.val) = first >>= next := by
  obtain ⟨outcome, journal⟩ := first
  cases outcome <;> rfl

/-- What follows has to be the same only on the answer that there is. -/
theorem bind_congr {first : Journaled ε α} {next other : α → Journaled ε β}
    (same : ∀ answer, first.outcome = .ok answer → next answer = other answer) :
    first >>= next = first >>= other := by
  obtain ⟨outcome, journal⟩ := first
  cases outcome with
  | error fault => rfl
  | ok answer =>
      change Journaled.bind _ next = Journaled.bind _ other
      simp only [Journaled.bind]
      rw [same answer rfl]

/-! ### Answers with their journals -/

/-- A computation that is not abandoned, with its answer and its journal. -/
def Gives (computation : Journaled ε α) (answer : α) (journal : List ε) : Prop :=
  computation = ⟨.ok answer, journal⟩

theorem gives_of_outcome {computation : Journaled ε α} {answer : α}
    (outcome : computation.outcome = .ok answer) :
    computation.Gives answer computation.journal :=
  Journaled.ext outcome rfl

theorem Gives.outcome {computation : Journaled ε α} {answer : α} {journal : List ε}
    (given : computation.Gives answer journal) : computation.outcome = .ok answer := by
  rw [given]

theorem Gives.journal_eq {computation : Journaled ε α} {answer : α} {journal : List ε}
    (given : computation.Gives answer journal) : computation.journal = journal := by
  rw [given]

@[simp] theorem gives_pure {given answer : α} {journal : List ε} :
    (pure given : Journaled ε α).Gives answer journal ↔ given = answer ∧ journal = [] := by
  change Journaled.pure given = _ ↔ _
  simp only [Journaled.pure, Journaled.mk.injEq, Except.ok.injEq, eq_comm (a := journal)]

@[simp] theorem gives_enter {entry : ε} {answer : Unit} {journal : List ε} :
    (enter entry).Gives answer journal ↔ journal = [entry] := by
  change Journaled.mk _ _ = _ ↔ _
  simp only [Journaled.mk.injEq, true_and, eq_comm (a := journal)]

@[simp] theorem not_gives_fail {fault : Fault} {answer : α} {journal : List ε} :
    ¬(fail fault : Journaled ε α).Gives answer journal := by
  intro given
  cases given

@[simp] theorem gives_lift {outcome : Except Fault α} {answer : α} {journal : List ε} :
    (liftM outcome : Journaled ε α).Gives answer journal ↔
      outcome = .ok answer ∧ journal = [] := by
  change Journaled.mk outcome [] = _ ↔ _
  simp only [Journaled.mk.injEq, eq_comm (a := journal)]

theorem gives_bind {first : Journaled ε α} {next : α → Journaled ε β} {answer : β}
    {journal : List ε} :
    (first >>= next).Gives answer journal ↔
      ∃ middle early late, first.Gives middle early ∧ (next middle).Gives answer late ∧
        journal = early ++ late := by
  change Journaled.bind first next = _ ↔ _
  obtain ⟨outcome, early⟩ := first
  constructor
  · intro given
    cases outcome with
    | error fault => cases given
    | ok middle =>
        simp only [Journaled.bind, continued_eq, Journaled.mk.injEq] at given
        exact ⟨middle, early, (next middle).journal, rfl, gives_of_outcome given.1,
          given.2.symm⟩
  · intro given
    rcases given with ⟨middle, before, late, given, rest, rfl⟩
    cases given
    simp only [Journaled.bind, continued_eq, rest.outcome, rest.journal_eq]

@[simp] theorem gives_map {change : α → β} {first : Journaled ε α} {answer : β}
    {journal : List ε} :
    (change <$> first).Gives answer journal ↔
      ∃ middle, first.Gives middle journal ∧ change middle = answer := by
  rw [map_eq_pure_bind]
  simp only [gives_bind, gives_pure]
  constructor
  · intro given
    rcases given with ⟨middle, early, _, given, ⟨same, rfl⟩, rfl⟩
    rw [List.append_nil]
    exact ⟨middle, given, same⟩
  · intro given
    rcases given with ⟨middle, given, same⟩
    exact ⟨middle, journal, [], given, ⟨same, rfl⟩, (List.append_nil _).symm⟩

@[simp] theorem gives_attach {first : Journaled ε α} {journal : List ε}
    {answer : { answer : α // first.outcome = .ok answer }} :
    first.attach.Gives answer journal ↔ first.Gives answer.val journal := by
  rcases first with ⟨outcome, early⟩
  cases outcome with
  | error fault => exact absurd answer.property (by intro impossible; cases impossible)
  | ok reached =>
      rcases answer with ⟨answer, same⟩
      cases same
      simp only [Gives, attach, Journaled.mk.injEq, true_and]

end Journaled

/-- An outcome that passes a test is one. -/
theorem exists_ok {ε α : Type} {outcome : Except ε α} {test : α → Bool}
    (passed : outcome.toOption.any test = true) :
    ∃ answer, outcome = .ok answer ∧ test answer = true := by
  cases outcome with
  | error fault => cases passed
  | ok answer => exact ⟨answer, rfl, passed⟩

end PriorityAgents
