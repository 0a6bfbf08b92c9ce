import PriorityAgents.Journaled

/-!
Entries in succession: each is judged by what was entered before it.

What a whole journal keeps is put together from its stretches, and a stretch is judged with the
past on which it follows. That includes computations that are abandoned on their way.
-/

set_option autoImplicit false

namespace PriorityAgents.Journaled

variable {ε α β : Type}

/-- Every entry of a journal is good after what has been entered before it, the past included. -/
def Fair (good : List ε → ε → Prop) (past journal : List ε) : Prop :=
  ∀ before entry after, journal = before ++ entry :: after → good (past ++ before) entry

namespace Fair

variable {good better : List ε → ε → Prop} {past journal early late : List ε}

theorem nil : Fair good past [] := by
  intro before entry after split
  exact absurd split.symm (List.append_ne_nil_of_right_ne_nil _ (List.cons_ne_nil _ _))

theorem singleton {entry : ε} (fits : good past entry) : Fair good past [entry] := by
  intro before other after split
  rcases List.append_eq_cons_iff.mp split.symm with ⟨rfl, same⟩ | ⟨_, _, rest⟩
  · cases same
    rwa [List.append_nil]
  · exact absurd rest.symm (List.append_ne_nil_of_right_ne_nil _ (List.cons_ne_nil _ _))

theorem append (first : Fair good past early) (second : Fair good (past ++ early) late) :
    Fair good past (early ++ late) := by
  intro before entry after split
  rcases List.append_eq_append_iff.mp split with ⟨more, rfl, rest⟩ | ⟨more, rfl, rest⟩
  · rw [← List.append_assoc]
    exact second more entry after rest
  · -- The entry stands at the seam if nothing is left of the earlier stretch.
    cases more with
    | nil =>
        have fits := second [] entry after rest.symm
        rwa [List.append_nil, List.append_nil] at *
    | cons head more =>
        cases rest
        exact first before entry more rfl

theorem left (fair : Fair good past (early ++ late)) : Fair good past early := by
  rintro before entry after rfl
  exact fair before entry (after ++ late) (List.append_assoc before (entry :: after) late)

theorem right (fair : Fair good past (early ++ late)) : Fair good (past ++ early) late := by
  rintro before entry after rfl
  rw [List.append_assoc]
  exact fair (early ++ before) entry after (List.append_assoc _ _ _).symm

theorem imp (fair : Fair good past journal)
    (known : ∀ before entry, good before entry → better before entry) :
    Fair better past journal :=
  fun before entry after split => known _ entry (fair before entry after split)

theorem of_all (known : ∀ entry ∈ journal, ∀ before, good before entry) :
    Fair good past journal := by
  rintro before entry after rfl
  exact known entry (List.mem_append_right _ List.mem_cons_self) _

theorem exists_of_mem (fair : Fair good past journal) {entry : ε} (member : entry ∈ journal) :
    ∃ before, good before entry := by
  obtain ⟨before, after, rfl⟩ := List.append_of_mem member
  exact ⟨past ++ before, fair before entry after rfl⟩

end Fair

/-- Every entry is good after what has been entered before it, also if the computation is
abandoned; if it is not, its answer is as it should be after all that has been entered. -/
structure Continues (good : List ε → ε → Prop) (holds : List ε → α → Prop) (past : List ε)
    (computation : Journaled ε α) : Prop where
  entries : Fair good past computation.journal
  answer (answer : α) :
    computation.outcome = .ok answer → holds (past ++ computation.journal) answer

namespace Continues

variable {good better : List ε → ε → Prop} {holds meets : List ε → α → Prop}
  {follows : List ε → β → Prop} {past : List ε} {first : Journaled ε α} {next : α → Journaled ε β}

theorem pure {answer : α} (fits : holds past answer) :
    (Pure.pure answer : Journaled ε α).Continues good holds past where
  entries := .nil
  answer := by
    intro _ same
    cases same
    change holds (past ++ []) answer
    rwa [List.append_nil]

theorem bind (continues : first.Continues good holds past)
    (rest : ∀ history answer, holds history answer →
      (next answer).Continues good follows history) :
    (first >>= next).Continues good follows past := by
  obtain ⟨outcome, journal⟩ := first
  cases outcome with
  | error fault => exact ⟨continues.entries, nofun⟩
  | ok reached =>
      have later := rest _ reached (continues.answer reached rfl)
      have entered : ((⟨.ok reached, journal⟩ : Journaled ε α) >>= next).journal =
          journal ++ (next reached).journal := continued_eq _ _
      constructor
      · rw [entered]
        exact continues.entries.append later.entries
      · intro answer same
        rw [entered, ← List.append_assoc]
        exact later.answer answer same

theorem lift {outcome : Except Fault α}
    (fits : ∀ answer, outcome = .ok answer → holds past answer) :
    (liftM outcome : Journaled ε α).Continues good holds past where
  entries := .nil
  answer := by
    intro answer same
    change holds (past ++ []) answer
    rw [List.append_nil]
    exact fits answer same

theorem imp (continues : first.Continues good holds past)
    (entries : ∀ before entry, good before entry → better before entry)
    (answer : ∀ history answer, holds history answer → meets history answer) :
    first.Continues better meets past where
  entries := continues.entries.imp entries
  answer := fun reached same => answer _ reached (continues.answer reached same)

theorem since (continues : first.Continues good holds past) :
    first.Continues good (fun history answer => holds history answer ∧
      ∃ more, history = past ++ more ∧ ∀ entry ∈ more, ∃ before, good before entry) past where
  entries := continues.entries
  answer := fun reached same => ⟨continues.answer reached same, first.journal, rfl,
    fun _ member => continues.entries.exists_of_mem member⟩

end Continues

end PriorityAgents.Journaled
