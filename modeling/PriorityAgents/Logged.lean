import PriorityAgents.Journal
import PriorityAgents.Journaled

/-!
Operations with a journal of what happened in them, and pieces of an application's own code, which
can enter nothing but what they tell in words.
-/

set_option autoImplicit false

namespace PriorityAgents

/-- An operation that may be abandoned, with its journal. -/
abbrev Logged (α : Type) : Type := Journaled Entry α

/-- A piece of code that may be abandoned, with what it told. -/
abbrev Told (α : Type) : Type := Journaled Record α

variable {α : Type}

def Told.report (record : Record) : Told Unit := Journaled.enter record

def Told.logged (told : Told α) : Logged α := ⟨told.outcome, told.journal.map .told⟩

theorem Told.gives_logged {told : Told α} {answer : α} {journal : List Entry} :
    told.logged.Gives answer journal ↔
      ∃ records, told.Gives answer records ∧ journal = records.map .told := by
  obtain ⟨outcome, records⟩ := told
  constructor
  · intro given
    cases given
    exact ⟨records, rfl, rfl⟩
  · intro given
    rcases given with ⟨others, given, rfl⟩
    cases given
    rfl

namespace Logged

def report (record : Record) : Logged Unit := Journaled.enter (.told record)

def notify (notice : Notice) : Logged Unit := Journaled.enter (.noticed notice)

@[simp] theorem outcome_report (record : Record) : (report record).outcome = .ok () := rfl

@[simp] theorem outcome_notify (notice : Notice) : (notify notice).outcome = .ok () := rfl

@[simp] theorem gives_report {record : Record} {answer : Unit} {journal : List Entry} :
    (report record).Gives answer journal ↔ journal = [.told record] := Journaled.gives_enter

@[simp] theorem gives_notify {notice : Notice} {answer : Unit} {journal : List Entry} :
    (notify notice).Gives answer journal ↔ journal = [.noticed notice] := Journaled.gives_enter

def records (logged : Logged α) : List Record := logged.journal.filterMap Entry.record?

def notices (logged : Logged α) : List Notice := logged.journal.filterMap Entry.notice?

def armings (logged : Logged α) : Nat := logged.journal.countP Entry.isArming

/-- A computation whose answer comes with the notices that an observer had on the way to it. -/
def observed (logged : Logged α) : Logged (List Notice × α) where
  outcome := logged.outcome.map fun answer => (logged.notices, answer)
  journal := logged.journal

theorem gives_observed {logged : Logged α} {noticed : List Notice} {answer : α}
    {journal : List Entry} :
    logged.observed.Gives (noticed, answer) journal ↔
      logged.Gives answer journal ∧ noticed = journal.filterMap Entry.notice? := by
  obtain ⟨outcome, early⟩ := logged
  cases outcome with
  | error fault =>
      constructor
      · intro given
        cases given
      · intro given
        cases given.1
  | ok reached =>
      constructor
      · intro given
        cases given
        exact ⟨rfl, rfl⟩
      · intro given
        rcases given with ⟨given, rfl⟩
        cases given
        rfl

end Logged

end PriorityAgents
