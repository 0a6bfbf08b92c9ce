import Mathlib.Data.List.Dedup
import PriorityAgents.Controller.Delivery
import PriorityAgents.Patrol.Rules
import PriorityAgents.Proofs.Event.Lifecycle

/-!
Sets of handlers that are put together from other sets.

A set is assembled one name at a time, and sets are merged into larger ones, in any groups. What a
merged set has for a name is what the last of its parts has that contain the name, and nothing but
the order of the parts decides that. So it is with the events that an agent receives once the set
is in place.
-/

set_option autoImplicit false

namespace PriorityAgents

variable {vocabulary : Vocabulary}

/-! ### Sets assembled one name at a time -/

inductive HandlerSetStep (vocabulary : Vocabulary) where
  | insert (name : EventName) (handler : Handler vocabulary)
  | erase (name : EventName)

namespace HandlerSetStep

def apply (set : HandlerSet vocabulary) : HandlerSetStep vocabulary → HandlerSet vocabulary
  | .insert name handler => set.insert name handler
  | .erase name => set.erase name

def name : HandlerSetStep vocabulary → EventName
  | .insert name _ | .erase name => name

def left? : HandlerSetStep vocabulary → Option (Handler vocabulary)
  | .insert _ handler => some handler
  | .erase _ => none

private theorem get?_apply (set : HandlerSet vocabulary) (step : HandlerSetStep vocabulary)
    (name : EventName) :
    (step.apply set).get? name = if step.name = name then step.left? else set.get? name := by
  cases step with
  | insert other handler => exact set.get?_insert other name handler
  | erase other => exact set.get?_erase other name

end HandlerSetStep

namespace HandlerSet

def assembled (steps : List (HandlerSetStep vocabulary)) : HandlerSet vocabulary :=
  steps.foldl HandlerSetStep.apply .empty

private theorem get?_assembled (steps : List (HandlerSetStep vocabulary)) (name : EventName) :
    (assembled steps).get? name =
      (steps.filter fun step => step.name = name).getLast?.bind HandlerSetStep.left? := by
  induction steps using List.reverseRecOn with
  | nil => exact Std.ExtTreeMap.getElem?_empty
  | append_singleton steps step ih =>
      have taken : assembled (steps ++ [step]) = step.apply (assembled steps) := by
        unfold assembled
        rw [List.foldl_append]
        rfl
      rw [taken, HandlerSetStep.get?_apply, List.filter_append]
      by_cases same : step.name = name
      · have kept : ([step].filter fun step => step.name = name) = [step] :=
          List.filter_cons_of_pos (decide_eq_true same)
        rw [if_pos same, kept, List.getLast?_concat]
        rfl
      · have dropped : ([step].filter fun step => step.name = name) = [] :=
          List.filter_cons_of_neg (by simp [same])
        rw [if_neg same, dropped, List.append_nil]
        exact ih

private theorem contains_eq (set : HandlerSet vocabulary) (name : EventName) :
    set.contains name = (set.get? name).isSome :=
  Std.ExtTreeMap.isSome_getElem?_eq_contains.symm

private theorem ascending_names (set : HandlerSet vocabulary) :
    set.names.Pairwise fun first second => first.text < second.text := by
  apply List.Pairwise.imp _ (Std.ExtTreeMap.ordered_keys (t := set.handlers))
  intro first second ordered
  exact compareOfLessAndEq_eq_lt.mp ordered

/-! ### The handler of the last set that has one -/

def lastOf? (sets : List (HandlerSet vocabulary)) (name : EventName) :
    Option (Handler vocabulary) :=
  (sets.filter fun set => set.contains name).getLast?.bind fun set => set.get? name

private theorem lastOf?_singleton (set : HandlerSet vocabulary) (name : EventName) :
    lastOf? [set] name = set.get? name := by
  unfold lastOf?
  cases contained : set.contains name with
  | true =>
      have kept : ([set].filter fun set => set.contains name) = [set] :=
        List.filter_cons_of_pos contained
      rw [kept]
      rfl
  | false =>
      have dropped : ([set].filter fun set => set.contains name) = [] :=
        List.filter_cons_of_neg (by simp [contained])
      rw [contains_eq, Option.isSome_eq_false_iff, Option.isNone_iff_eq_none] at contained
      rw [dropped, contained]
      rfl

theorem lastOf?_append (earlier later : List (HandlerSet vocabulary)) (name : EventName) :
    lastOf? (earlier ++ later) name = (lastOf? later name).or (lastOf? earlier name) := by
  unfold lastOf?
  rw [List.filter_append, List.getLast?_append]
  cases last : (later.filter fun set => set.contains name).getLast? with
  | none => rfl
  | some set =>
      have contained : set.contains name = true :=
        (List.mem_filter.mp (List.mem_of_getLast? last)).2
      rw [contains_eq] at contained
      obtain ⟨handler, found⟩ := Option.isSome_iff_exists.mp contained
      change set.get? name = (set.get? name).or _
      rw [found]
      rfl

theorem lastOf?_cons (set : HandlerSet vocabulary) (sets : List (HandlerSet vocabulary))
    (name : EventName) : lastOf? (set :: sets) name = (lastOf? sets name).or (set.get? name) := by
  rw [← lastOf?_singleton set name]
  exact lastOf?_append [set] sets name

private theorem isSome_lastOf? (sets : List (HandlerSet vocabulary)) (name : EventName) :
    (lastOf? sets name).isSome = true ↔ ∃ set ∈ sets, name ∈ set.names := by
  induction sets with
  | nil => exact ⟨nofun, fun ⟨_, member, _⟩ => absurd member List.not_mem_nil⟩
  | cons set sets ih =>
      rw [lastOf?_cons, Option.isSome_or, Bool.or_eq_true, ih, ← mem_names,
        List.exists_mem_cons_iff, or_comm]

/-! ### Sets that are merged -/

def mergeAll (sets : List (HandlerSet vocabulary)) : HandlerSet vocabulary :=
  sets.foldl merge .empty

private theorem get?_mergeAll (sets : List (HandlerSet vocabulary)) (name : EventName) :
    (mergeAll sets).get? name = lastOf? sets name := by
  induction sets using List.reverseRecOn with
  | nil => exact Std.ExtTreeMap.getElem?_empty
  | append_singleton sets set ih =>
      have taken : mergeAll (sets ++ [set]) = (mergeAll sets).merge set := by
        unfold mergeAll
        rw [List.foldl_append]
        rfl
      rw [taken, get?_merge, ih, lastOf?_append, lastOf?_singleton]

private theorem eq_of_get? {first second : HandlerSet vocabulary}
    (same : ∀ name, first.get? name = second.get? name) : first = second :=
  HandlerSet.ext (Std.ExtTreeMap.ext_getElem? same)

end HandlerSet

/-- Sets merged in groups. -/
inductive Composition (vocabulary : Vocabulary) where
  | single (set : HandlerSet vocabulary)
  | merged (first second : Composition vocabulary)

namespace Composition

def parts : Composition vocabulary → List (HandlerSet vocabulary)
  | .single set => [set]
  | .merged first second => first.parts ++ second.parts

def outcome : Composition vocabulary → HandlerSet vocabulary
  | .single set => set
  | .merged first second => first.outcome.merge second.outcome

private theorem get?_outcome (composition : Composition vocabulary) (name : EventName) :
    composition.outcome.get? name = HandlerSet.lastOf? composition.parts name := by
  induction composition with
  | single set => exact (HandlerSet.lastOf?_singleton set name).symm
  | merged first second firstIh secondIh =>
      rw [outcome, parts, HandlerSet.get?_merge, HandlerSet.lastOf?_append, firstIh, secondIh]

end Composition

namespace HandlerSet

/-- What a set is to the sets that it is put together from. -/
structure Resolves (merged : HandlerSet vocabulary) (sets : List (HandlerSet vocabulary)) :
    Prop where
  /-- For every name it has the handler of the last of them that contains the name. -/
  handlers (name : EventName) : merged.get? name = lastOf? sets name
  names (name : EventName) : name ∈ merged.names ↔ ∃ set ∈ sets, name ∈ set.names
  ascending : merged.names.Pairwise fun first second => first.text < second.text
  size : merged.size = (sets.flatMap HandlerSet.names).dedup.length
  /-- Once it is in place, an event that one of them is for meets that handler and no other. -/
  responses (repertoire : Repertoire vocabulary) (context : Context vocabulary) (name : EventName)
    (payload : vocabulary.Payload) :
    name ≠ .entityDestroyed → (∃ set ∈ sets, name ∈ set.names) →
      let installed := context.mapSurface fun surface => surface.install merged
      ∃ handler, lastOf? sets name = some handler ∧
        installed.handleEvent repertoire name payload = (do
          let ((), later) ← installed.run repertoire (repertoire.handle handler payload)
          pure (true, later))

/-- A set in place is what its events meet, the event of its agent's end apart. -/
theorem handleEvent_of_install {repertoire : Repertoire vocabulary} {context : Context vocabulary}
    {set : HandlerSet vocabulary} {name : EventName} {handler : Handler vocabulary}
    (payload : vocabulary.Payload) (other : name ≠ .entityDestroyed)
    (found : set.get? name = some handler) :
    let installed := context.mapSurface fun surface => surface.install set
    installed.handleEvent repertoire name payload = (do
      let ((), later) ← installed.run repertoire (repertoire.handle handler payload)
      pure (true, later)) := by
  intro installed
  have bound : installed.controller.surface.handler? name = some handler := by
    change (context.controller.surface.install set).handler? name = some handler
    rw [EventSurface.handler?_install, get?_withRelease, if_neg other, found]
    rfl
  unfold Context.handleEvent
  rw [bound]

private theorem resolves_of_handlers {merged : HandlerSet vocabulary}
    {sets : List (HandlerSet vocabulary)}
    (handlers : ∀ name, merged.get? name = lastOf? sets name) : merged.Resolves sets := by
  have names (name : EventName) : name ∈ merged.names ↔ ∃ set ∈ sets, name ∈ set.names := by
    rw [mem_names, handlers, isSome_lastOf?]
  refine
    { handlers
      names
      ascending := merged.ascending_names
      size := ?_
      responses := ?_ }
  · have distinct : merged.names.Nodup := Std.ExtTreeMap.nodup_keys
    have same : merged.names.Perm (sets.flatMap HandlerSet.names).dedup := by
      apply (List.perm_ext_iff_of_nodup distinct (List.nodup_dedup _)).mpr
      intro name
      rw [names, List.mem_dedup, List.mem_flatMap]
    rw [← same.length_eq]
    exact Std.ExtTreeMap.length_keys.symm
  · intro repertoire context name payload other part installed
    obtain ⟨handler, last⟩ := Option.isSome_iff_exists.mp ((isSome_lastOf? sets name).mpr part)
    have found : merged.get? name = some handler := (handlers name).trans last
    exact ⟨handler, last, handleEvent_of_install payload other found⟩

/-- Whatever sets are assembled and merged from left to right, of every name the merged set has the
handler of the last one that contains it, and that one has the handler of the last step that was
about the name. In whatever groups they are merged, the set is the same. -/
theorem resolves_mergeAll (assemblies : List (List (HandlerSetStep vocabulary))) :
    let sets := assemblies.map assembled
    (mergeAll sets).Resolves sets ∧
      (∀ steps ∈ assemblies, ∀ name, (assembled steps).get? name =
        (steps.filter fun step => step.name = name).getLast?.bind HandlerSetStep.left?) ∧
      ∀ composition : Composition vocabulary, composition.parts = sets →
        composition.outcome = mergeAll sets := by
  intro sets
  refine ⟨resolves_of_handlers (get?_mergeAll sets), ?_, ?_⟩
  · intro steps _ name
    exact get?_assembled steps name
  · intro composition parts
    apply eq_of_get?
    intro name
    rw [composition.get?_outcome, parts, get?_mergeAll]

/-- Three sets that all have something else for an attack. The last two are merged first. -/
theorem resolves_mergeAll_attack :
    let attack := Patrol.shipBeingAttacked
    let rest : EventName := ⟨"ship_at_rest"⟩
    let calm : List (HandlerSetStep Patrol.ships) :=
      [.insert attack (.respond Patrol.Response.alarm), .insert rest .release]
    let wary : List (HandlerSetStep Patrol.ships) :=
      [.insert attack (.respond Patrol.Response.lost), .insert rest .release, .erase rest]
    let bold : List (HandlerSetStep Patrol.ships) :=
      [.insert attack .release, .insert attack (.respond Patrol.Response.fightOn)]
    let merged := mergeAll ([calm, wary, bold].map assembled)
    let grouped : Composition Patrol.ships :=
      .merged (.single (assembled calm)) (.merged (.single (assembled wary))
        (.single (assembled bold)))
    grouped.outcome = merged ∧ merged.size = 2 ∧ merged.get? rest = some .release ∧
      ∀ (context : Context Patrol.ships) (hit : Patrol.Attack),
        let installed := context.mapSurface fun surface => surface.install merged
        installed.handleEvent Patrol.repertoire attack hit = (do
          let ((), later) ← installed.run Patrol.repertoire
            (Patrol.repertoire.handle (.respond Patrol.Response.fightOn) hit)
          pure (true, later)) := by
  intro attack rest calm wary bold merged grouped
  obtain ⟨resolves, _, regrouped⟩ := resolves_mergeAll [calm, wary, bold]
  have last : lastOf? ([calm, wary, bold].map assembled) attack =
      some (.respond Patrol.Response.fightOn) := by cbv
  refine ⟨regrouped grouped rfl, ?_, (resolves.handlers rest).trans (by cbv), ?_⟩
  · rw [resolves.size]
    decide
  · intro context hit
    obtain ⟨handler, found, heard⟩ := resolves.responses Patrol.repertoire context attack hit
      (by decide) ⟨assembled bold, by simp, by decide⟩
    rw [last] at found
    cases found
    exact heard

end HandlerSet

end PriorityAgents
