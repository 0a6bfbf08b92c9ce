import Mathlib.Data.List.Induction
import PriorityAgents.Parameters

/-!
What is under a name, read off everything that was ever done to parameters.

An operation writes under one name at most. Whether it writes, and what, hangs on nothing but what
was written last under the names that it looks at, and so it goes back to the first operation. An
operation that does not write leaves the parameters as they were, down to the last name.
-/

set_option autoImplicit false

namespace PriorityAgents

variable {kinds : Kinds}

theorem Parameter.content?_eq_some {parameter : Parameter kinds} {shape : Shape kinds}
    {content : shape.Content} :
    parameter.content? shape = some content ↔ parameter = ⟨shape, content⟩ := by
  obtain ⟨held, value⟩ := parameter
  by_cases same : held = shape
  · subst same
    rw [Parameter.content?_self, Option.some.injEq]
    constructor
    · rintro rfl
      rfl
    · intro equal
      cases equal
      rfl
  · rw [Parameter.content?_eq_none same]
    constructor
    · intro impossible
      cases impossible
    · intro equal
      cases equal
      exact absurd rfl same

abbrev Recollection (kinds : Kinds) : Type := String → Option (Parameter kinds)

def Recollection.content? (held : Recollection kinds) (key : String) (shape : Shape kinds) :
    Option shape.Content :=
  (held key).bind (·.content? shape)

/-- A name under which something is written, and what is left there: a parameter, or nothing. -/
structure ParameterWrite (kinds : Kinds) where
  key : String
  left : Option (Parameter kinds)

def Recollection.after (held : Recollection kinds) (write : ParameterWrite kinds) :
    Recollection kinds :=
  fun key => if write.key = key then write.left else held key

inductive ParameterOperation (kinds : Kinds) where
  | set (key : String) (shape : Shape kinds) (content : shape.Content)
  | setOptional (key : String) (shape : Shape kinds) (content : Option shape.Content)
  | modify (key : String) (shape : Shape kinds) (change : shape.Content → shape.Content)
  | take (key : String) (shape : Shape kinds)
  | clear (key : String)
  | selectFirst (listKey : String) (element : Shape kinds) (accepts : element.Content → Bool)

namespace ParameterOperation

def apply (parameters : Parameters kinds) : ParameterOperation kinds → Parameters kinds
  | .set key shape content => parameters.set key shape content
  | .setOptional key shape content => parameters.setOptional key shape content
  | .modify key shape change => parameters.modify key shape change
  | .take key shape => (parameters.take key shape).2
  | .clear key => parameters.clear key
  | .selectFirst listKey element accepts => (parameters.selectFirst listKey element accepts).2

/-- What an operation writes, if it changes anything, where this is remembered. -/
def write? (held : Recollection kinds) : ParameterOperation kinds → Option (ParameterWrite kinds)
  | .set key shape content | .setOptional key shape (some content) =>
      some ⟨key, some ⟨shape, content⟩⟩
  | .setOptional key _ none | .clear key => (held key).map fun _ => ⟨key, none⟩
  | .modify key shape change =>
      (held.content? key shape).map fun content => ⟨key, some ⟨shape, change content⟩⟩
  | .take key shape => (held.content? key shape).map fun _ => ⟨key, none⟩
  | .selectFirst listKey element accepts =>
      ((held.content? listKey (.list element)).bind (List.find? accepts)).map fun chosen =>
        ⟨Parameters.selectedKey, some ⟨element, chosen⟩⟩

end ParameterOperation

/-! ### One operation -/

namespace Parameters

def recollection (parameters : Parameters kinds) : Recollection kinds :=
  fun key => parameters.entries[key]?

private def written (parameters : Parameters kinds) (write : ParameterWrite kinds) :
    Parameters kinds :=
  match write.left with
  | some parameter => parameters.set write.key parameter.shape parameter.content
  | none => parameters.clear write.key

variable {parameters : Parameters kinds}

private theorem recollection_written (parameters : Parameters kinds)
    (write : ParameterWrite kinds) :
    (parameters.written write).recollection = parameters.recollection.after write := by
  funext key
  unfold written recollection Recollection.after
  cases write.left with
  | some parameter =>
      simp only [set, Std.ExtTreeMap.getElem?_insert, Std.compare_eq_iff_eq]
  | none =>
      simp only [clear, Std.ExtTreeMap.getElem?_erase, Std.compare_eq_iff_eq]

private theorem clear_of_absent {key : String} (absent : parameters.recollection key = none) :
    parameters.clear key = parameters := by
  apply Parameters.ext
  apply Std.ExtTreeMap.ext_getElem?
  intro other
  change (parameters.entries.erase key)[other]? = parameters.entries[other]?
  rw [Std.ExtTreeMap.getElem?_erase]
  simp only [Std.compare_eq_iff_eq]
  by_cases same : key = other
  · subst same
    rw [if_pos rfl]
    exact absent.symm
  · rw [if_neg same]

private theorem clear_eq_written (key : String) :
    parameters.clear key =
      ((parameters.recollection key).map fun _ => ParameterWrite.mk key none).elim parameters
        parameters.written := by
  cases held : parameters.recollection key with
  | some parameter => rfl
  | none => exact clear_of_absent held

private theorem selectFirst_of_refused {listKey : String} {element : Shape kinds}
    {accepts : element.Content → Bool}
    (refused : ∀ items : List element.Content,
      parameters.get? listKey (.list element) = some items →
        ∀ item ∈ items, accepts item = false) :
    parameters.selectFirst listKey element accepts = (false, parameters) := by
  apply selectFirst_of_none
  apply Option.bind_eq_none_iff.mpr
  intro items listed
  apply List.find?_eq_none.mpr
  intro item member
  rw [refused items listed item member]
  exact Bool.false_ne_true

private theorem exists_of_selectFirst {listKey : String} {element : Shape kinds}
    {accepts : element.Content → Bool} {later : Parameters kinds}
    (selects : parameters.selectFirst listKey element accepts = (true, later)) :
    ∃ (before : List element.Content) (chosen : element.Content) (after : List element.Content),
      parameters.get? listKey (.list element) = some (before ++ chosen :: after) ∧
      (∀ item ∈ before, accepts item = false) ∧ accepts chosen = true ∧
      later.recollection =
        parameters.recollection.after ⟨selectedKey, some ⟨element, chosen⟩⟩ := by
  cases found : (parameters.get? listKey (.list element)).bind (List.find? accepts) with
  | none =>
      rw [selectFirst_of_none found] at selects
      cases selects
  | some chosen =>
      rw [selectFirst_of_some found] at selects
      cases selects
      obtain ⟨items, listed, first⟩ := Option.bind_eq_some_iff.mp found
      obtain ⟨accepted, before, after, rfl, refused⟩ := List.find?_eq_some_iff_append.mp first
      refine ⟨before, chosen, after, listed, ?_, accepted,
        recollection_written parameters ⟨selectedKey, some ⟨element, chosen⟩⟩⟩
      intro item member
      simpa using refused item member

private theorem apply_eq_written (operation : ParameterOperation kinds) :
    operation.apply parameters =
      (operation.write? parameters.recollection).elim parameters parameters.written := by
  cases operation with
  | set key shape content => rfl
  | setOptional key shape content =>
      cases content with
      | some content => rfl
      | none => exact clear_eq_written key
  | modify key shape change =>
      change parameters.modify key shape change =
        ((parameters.get? key shape).map fun content =>
          ParameterWrite.mk key (some ⟨shape, change content⟩)).elim parameters parameters.written
      unfold modify
      cases parameters.get? key shape <;> rfl
  | take key shape =>
      change (parameters.take key shape).2 =
        ((parameters.get? key shape).map fun _ => ParameterWrite.mk key none).elim parameters
          parameters.written
      unfold take
      cases parameters.get? key shape <;> rfl
  | clear key => exact clear_eq_written key
  | selectFirst listKey element accepts =>
      change (parameters.selectFirst listKey element accepts).2 =
        (((parameters.get? listKey (.list element)).bind (List.find? accepts)).map fun chosen =>
          ParameterWrite.mk selectedKey (some ⟨element, chosen⟩)).elim parameters
            parameters.written
      unfold selectFirst
      cases (parameters.get? listKey (.list element)).bind (List.find? accepts) <;> rfl

end Parameters

/-! ### All operations -/

abbrev ParameterHistory (kinds : Kinds) : Type := List (ParameterOperation kinds)

namespace ParameterHistory

def outcome (history : ParameterHistory kinds) : Parameters kinds :=
  history.foldl ParameterOperation.apply .empty

def recollection (history : ParameterHistory kinds) : Recollection kinds :=
  history.foldl (fun held operation => (operation.write? held).elim held held.after) fun _ => none

def Untouched (history later : ParameterHistory kinds) (key : String) : Prop :=
  ∀ before operation after, later = before ++ operation :: after →
    ∀ write, operation.write? (recollection (history ++ before)) = some write → write.key ≠ key

/-- The last operation that changed what is under a name has left a parameter there. -/
def LastStored (history : ParameterHistory kinds) (key : String) (parameter : Parameter kinds) :
    Prop :=
  ∃ earlier operation later, history = earlier ++ operation :: later ∧
    operation.write? (recollection earlier) = some ⟨key, some parameter⟩ ∧
    Untouched (earlier ++ [operation]) later key

variable {history earlier later : ParameterHistory kinds} {key : String}
  {operation : ParameterOperation kinds} {parameter : Parameter kinds}

theorem recollection_append_singleton (history : ParameterHistory kinds)
    (operation : ParameterOperation kinds) :
    recollection (history ++ [operation]) =
      (operation.write? history.recollection).elim history.recollection
        history.recollection.after := by
  unfold recollection
  rw [List.foldl_append]
  rfl

private theorem recollection_outcome (history : ParameterHistory kinds) :
    history.outcome.recollection = history.recollection := by
  induction history using List.reverseRecOn with
  | nil =>
      funext key
      exact Std.ExtTreeMap.getElem?_empty
  | append_singleton history operation ih =>
      have last : outcome (history ++ [operation]) = operation.apply (outcome history) := by
        unfold outcome
        rw [List.foldl_append]
        rfl
      rw [last, Parameters.apply_eq_written, recollection_append_singleton, ih]
      cases operation.write? (recollection history) with
      | none => exact ih
      | some write =>
          rw [Option.elim_some, Option.elim_some, Parameters.recollection_written, ih]

private theorem recollection_of_untouched (untouched : Untouched history later key) :
    recollection (history ++ later) key = history.recollection key := by
  induction later using List.reverseRecOn with
  | nil => rw [List.append_nil]
  | append_singleton later operation ih =>
      have before : recollection (history ++ later) key = history.recollection key := by
        apply ih
        intro first inner after split
        exact untouched first inner (after ++ [operation]) (by rw [split]; simp)
      rw [← List.append_assoc, recollection_append_singleton]
      cases wrote : operation.write? (recollection (history ++ later)) with
      | none => exact before
      | some write =>
          have elsewhere := untouched later operation [] rfl write wrote
          rw [Option.elim_some, Recollection.after, if_neg elsewhere]
          exact before

/-- What is remembered under a name is what was stored there last. -/
theorem recollection_eq_some :
    history.recollection key = some parameter ↔ history.LastStored key parameter := by
  constructor
  · intro remembered
    induction history using List.reverseRecOn with
    | nil => cases remembered
    | append_singleton history operation ih =>
        rw [recollection_append_singleton] at remembered
        by_cases wrote : ∃ left, operation.write? (recollection history) = some ⟨key, left⟩
        · obtain ⟨left, wrote⟩ := wrote
          rw [wrote, Option.elim_some, Recollection.after, if_pos rfl] at remembered
          refine ⟨history, operation, [], rfl, remembered ▸ wrote, ?_⟩
          intro before other after impossible
          exact absurd impossible (by simp)
        · have elsewhere : ∀ write, operation.write? (recollection history) = some write →
              write.key ≠ key := by
            intro write same under
            subst under
            exact wrote ⟨write.left, same⟩
          have before : recollection history key = some parameter := by
            cases same : operation.write? (recollection history) with
            | none =>
                rw [same] at remembered
                exact remembered
            | some write =>
                rw [same, Option.elim_some, Recollection.after,
                  if_neg (elsewhere write same)] at remembered
                exact remembered
          obtain ⟨first, storing, rest, split, stored, untouched⟩ := ih before
          refine ⟨first, storing, rest ++ [operation], by rw [split]; simp, stored, ?_⟩
          intro before other after inner
          rcases List.eq_nil_or_concat after with rfl | ⟨front, last, rfl⟩
          · obtain ⟨rfl, same⟩ := List.append_inj' inner rfl
            cases same
            rw [List.append_assoc, List.singleton_append, ← split]
            exact elsewhere
          · refine untouched before other front ?_
            rw [List.concat_eq_append, ← List.cons_append, ← List.append_assoc] at inner
            exact (List.append_inj' inner rfl).1
  · rintro ⟨earlier, operation, later, rfl, stored, untouched⟩
    rw [List.append_cons, recollection_of_untouched untouched, recollection_append_singleton,
      stored, Option.elim_some, Recollection.after, if_pos rfl]

/-- Parameters are what a history has made of none: a map from names to contents of all shapes, in
which the last writer has its way. -/
structure Recalls (history : ParameterHistory kinds) (parameters : Parameters kinds) : Prop where
  /-- A name reads as what was stored under it last, in the shape in which it was stored. -/
  stored (key : String) (shape : Shape kinds) (content : shape.Content) :
    parameters.get? key shape = some content ↔ history.LastStored key ⟨shape, content⟩
  present (key : String) :
    key ∈ parameters.keys ↔ ∃ parameter, history.LastStored key parameter
  contains (key : String) : parameters.contains key = true ↔ key ∈ parameters.keys
  distinct : parameters.keys.Nodup
  counted : parameters.size = parameters.keys.length
  taken (key : String) (shape : Shape kinds) (content : shape.Content) :
    history.LastStored key ⟨shape, content⟩ → (parameters.take key shape).1 = some content
  untaken (key : String) (shape : Shape kinds) :
    (¬∃ content, history.LastStored key ⟨shape, content⟩) →
      parameters.take key shape = (none, parameters)
  unmodified (key : String) (shape : Shape kinds) (change : shape.Content → shape.Content) :
    (¬∃ content, history.LastStored key ⟨shape, content⟩) →
      parameters.modify key shape change = parameters
  unset (key : String) (shape : Shape kinds) :
    key ∉ parameters.keys → parameters.setOptional key shape none = parameters
  /-- Without a list of that shape, or without an accepted item in it, nothing is selected. -/
  unselected (listKey : String) (element : Shape kinds) (accepts : element.Content → Bool) :
    (∀ items : List element.Content, history.LastStored listKey ⟨.list element, items⟩ →
        ∀ item ∈ items, accepts item = false) →
      parameters.selectFirst listKey element accepts = (false, parameters)
  /-- What is selected is the first accepted item of the list that was there, and nothing but the
  selection changes. -/
  selected (listKey : String) (element : Shape kinds) (accepts : element.Content → Bool)
    (later : Parameters kinds) :
    parameters.selectFirst listKey element accepts = (true, later) →
      ∃ (before : List element.Content) (chosen : element.Content) (after : List element.Content),
        history.LastStored listKey ⟨.list element, before ++ chosen :: after⟩ ∧
        (∀ item ∈ before, accepts item = false) ∧ accepts chosen = true ∧
        later.recollection Parameters.selectedKey = some ⟨element, chosen⟩ ∧
        ∀ key, key ≠ Parameters.selectedKey → later.recollection key = parameters.recollection key

private theorem get?_outcome {shape : Shape kinds} {content : shape.Content} :
    history.outcome.get? key shape = some content ↔ history.LastStored key ⟨shape, content⟩ := by
  change (history.outcome.recollection key).bind (·.content? shape) = some content ↔ _
  rw [recollection_outcome, ← recollection_eq_some]
  simp only [Option.bind_eq_some_iff, Parameter.content?_eq_some, exists_eq_right]

theorem get?_outcome_eq_none {shape : Shape kinds} :
    history.outcome.get? key shape = none ↔
      ¬∃ content, history.LastStored key ⟨shape, content⟩ := by
  simp only [← get?_outcome, ← Option.isSome_iff_exists, Option.not_isSome_iff_eq_none]

private theorem mem_keys_outcome :
    key ∈ history.outcome.keys ↔ ∃ parameter, history.LastStored key parameter := by
  unfold Parameters.keys
  rw [Std.ExtTreeMap.mem_keys, Std.ExtTreeMap.mem_iff_isSome_getElem?]
  change (history.outcome.recollection key).isSome = true ↔ _
  rw [recollection_outcome, Option.isSome_iff_exists]
  simp only [recollection_eq_some]

/-- Whatever is done to parameters, they recall it. -/
theorem recalls_outcome (history : ParameterHistory kinds) : history.Recalls history.outcome where
  stored key shape content := get?_outcome
  present key := mem_keys_outcome
  contains key := by
    unfold Parameters.keys
    rw [Std.ExtTreeMap.mem_keys]
    exact Std.ExtTreeMap.contains_iff_mem
  distinct := Std.ExtTreeMap.nodup_keys
  counted := Std.ExtTreeMap.length_keys.symm
  taken key shape content stored := by
    unfold Parameters.take
    rw [get?_outcome.mpr stored]
  untaken key shape unstored := by
    unfold Parameters.take
    rw [get?_outcome_eq_none.mpr unstored]
  unmodified key shape change unstored := by
    unfold Parameters.modify
    rw [get?_outcome_eq_none.mpr unstored]
  unset key shape absent := by
    have nothing : history.outcome.recollection key = none := by
      rw [recollection_outcome, Option.eq_none_iff_forall_ne_some]
      intro parameter remembered
      exact absent (mem_keys_outcome.mpr ⟨parameter, recollection_eq_some.mp remembered⟩)
    exact Parameters.clear_of_absent nothing
  unselected listKey element accepts unmatched :=
    Parameters.selectFirst_of_refused fun items listed => unmatched items (get?_outcome.mp listed)
  selected listKey element accepts later selects := by
    obtain ⟨before, chosen, after, listed, refused, accepted, changed⟩ :=
      Parameters.exists_of_selectFirst selects
    refine ⟨before, chosen, after, get?_outcome.mp listed, refused, accepted, ?_, ?_⟩
    · exact (congrFun changed _).trans (if_pos rfl)
    · intro key other
      exact (congrFun changed key).trans (if_neg other.symm)

/-- Of two lists the first long one is selected, and of what is selected then the first large
number, which takes its place. -/
example :
    let numbers : Kinds := ⟨Unit, inferInstance, fun _ => Nat⟩
    let number : Shape numbers := .one ()
    let history : ParameterHistory numbers :=
      [.set "lists" (.list (.list number)) ([[1], [2, 7, 9]] : List (List Nat)),
        .selectFirst "lists" (.list number) fun items : List Nat => 1 < items.length,
        .selectFirst Parameters.selectedKey number fun item : Nat => 5 < item]
    history.outcome.get? Parameters.selectedKey number = some (7 : Nat) ∧
      history.outcome.get? Parameters.selectedKey (.list number) = none := ⟨rfl, rfl⟩

end ParameterHistory

end PriorityAgents
