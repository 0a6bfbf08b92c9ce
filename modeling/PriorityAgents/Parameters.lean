import PriorityAgents.Text.Outline
import Std.Data.ExtTreeMap

/-!
Parameters: what the rules of an agent remember under a name from one callback to the next.

A name holds one value of one shape at a time. Whoever reads it says which shape is expected, and
a value of another shape reads as if nothing were there.
-/

set_option autoImplicit false

namespace PriorityAgents

/-- The kinds of values that the rules of an application deal in. -/
structure Kinds where
  Kind : Type
  decidableKind : DecidableEq Kind
  Value : Kind → Type

/-- The shape of a parameter: one value, or a list of contents of one shape. -/
inductive Shape (kinds : Kinds) where
  | one (kind : kinds.Kind)
  | list (element : Shape kinds)

namespace Shape

variable {kinds : Kinds}

protected def decideEq : (left right : Shape kinds) → Decidable (left = right)
  | .one left, .one right =>
      match kinds.decidableKind left right with
      | .isTrue same => .isTrue (same ▸ rfl)
      | .isFalse different => .isFalse fun same => different (Shape.one.inj same)
  | .list left, .list right =>
      match Shape.decideEq left right with
      | .isTrue same => .isTrue (same ▸ rfl)
      | .isFalse different => .isFalse fun same => different (Shape.list.inj same)
  | .one _, .list _ => .isFalse (fun same => by cases same)
  | .list _, .one _ => .isFalse (fun same => by cases same)

instance : DecidableEq (Shape kinds) := Shape.decideEq

def Content : Shape kinds → Type
  | .one kind => kinds.Value kind
  | .list element => List element.Content

end Shape

structure Parameter (kinds : Kinds) where
  shape : Shape kinds
  content : shape.Content

def Parameter.content? {kinds : Kinds} (parameter : Parameter kinds) (shape : Shape kinds) :
    Option shape.Content :=
  if same : parameter.shape = shape then some (same ▸ parameter.content) else none

@[simp] theorem Parameter.content?_self {kinds : Kinds} (parameter : Parameter kinds) :
    parameter.content? parameter.shape = some parameter.content := by
  simp [Parameter.content?]

theorem Parameter.content?_eq_none {kinds : Kinds} {parameter : Parameter kinds}
    {shape : Shape kinds} (different : parameter.shape ≠ shape) :
    parameter.content? shape = none := by
  simp [Parameter.content?, different]

@[ext] structure Parameters (kinds : Kinds) where
  entries : Std.ExtTreeMap String (Parameter kinds)

namespace Parameters

variable {kinds : Kinds}

def empty : Parameters kinds := ⟨∅⟩

instance : Inhabited (Parameters kinds) := ⟨empty⟩

/-- The name under which a selection is kept. -/
def selectedKey : String := "core_selected"

def set (parameters : Parameters kinds) (key : String) (shape : Shape kinds)
    (content : shape.Content) : Parameters kinds :=
  ⟨parameters.entries.insert key ⟨shape, content⟩⟩

def clear (parameters : Parameters kinds) (key : String) : Parameters kinds :=
  ⟨parameters.entries.erase key⟩

/-- Keep a value under a name, or forget what is there if there is no value. -/
def setOptional (parameters : Parameters kinds) (key : String) (shape : Shape kinds) :
    Option shape.Content → Parameters kinds
  | some content => parameters.set key shape content
  | none => parameters.clear key

def get? (parameters : Parameters kinds) (key : String) (shape : Shape kinds) :
    Option shape.Content :=
  parameters.entries[key]?.bind (·.content? shape)

/-- A name holds what was kept under it last, in the shape in which it was kept. -/
theorem get?_set (parameters : Parameters kinds) (key other : String) (shape : Shape kinds)
    (content : shape.Content) (expected : Shape kinds) :
    (parameters.set key shape content).get? other expected =
      if key = other then Parameter.content? ⟨shape, content⟩ expected
      else parameters.get? other expected := by
  unfold get? set
  rw [Std.ExtTreeMap.getElem?_insert]
  simp only [Std.compare_eq_iff_eq]
  split <;> rfl

theorem get?_set_self (parameters : Parameters kinds) (key : String) (shape : Shape kinds)
    (content : shape.Content) :
    (parameters.set key shape content).get? key shape = some content := by
  rw [get?_set, if_pos rfl]
  exact Parameter.content?_self ⟨shape, content⟩

theorem get?_clear (parameters : Parameters kinds) (key other : String) (expected : Shape kinds) :
    (parameters.clear key).get? other expected =
      if key = other then none else parameters.get? other expected := by
  unfold get? clear
  rw [Std.ExtTreeMap.getElem?_erase]
  simp only [Std.compare_eq_iff_eq]
  split <;> rfl

def contains (parameters : Parameters kinds) (key : String) : Bool :=
  parameters.entries.contains key

theorem contains_set (parameters : Parameters kinds) (key other : String) (shape : Shape kinds)
    (content : shape.Content) :
    (parameters.set key shape content).contains other =
      (decide (key = other) || parameters.contains other) := by
  unfold contains set
  rw [Std.ExtTreeMap.contains_insert]
  congr 1
  rw [Bool.eq_iff_iff, beq_iff_eq, Std.compare_eq_iff_eq, decide_eq_true_iff]

/-- Change what is under a name, if it is there in the expected shape. -/
def modify (parameters : Parameters kinds) (key : String) (shape : Shape kinds)
    (change : shape.Content → shape.Content) : Parameters kinds :=
  match parameters.get? key shape with
  | some content => parameters.set key shape (change content)
  | none => parameters

/-- Take what is under a name away, if it has the expected shape. -/
def take (parameters : Parameters kinds) (key : String) (shape : Shape kinds) :
    Option shape.Content × Parameters kinds :=
  match parameters.get? key shape with
  | some content => (some content, parameters.clear key)
  | none => (none, parameters)

/-- Keep the first accepted value of a list as the selection. Tells whether there was one; without
one, the selection made before stays. -/
def selectFirst (parameters : Parameters kinds) (listKey : String) (element : Shape kinds)
    (accepts : element.Content → Bool) : Bool × Parameters kinds :=
  match (parameters.get? listKey (.list element)).bind (List.find? accepts) with
  | some chosen => (true, parameters.set selectedKey element chosen)
  | none => (false, parameters)

theorem selectFirst_of_some {parameters : Parameters kinds} {listKey : String}
    {element : Shape kinds} {accepts : element.Content → Bool} {chosen : element.Content}
    (found : (parameters.get? listKey (.list element)).bind (List.find? accepts) = some chosen) :
    parameters.selectFirst listKey element accepts =
      (true, parameters.set selectedKey element chosen) := by
  unfold selectFirst
  rw [found]

theorem selectFirst_of_none {parameters : Parameters kinds} {listKey : String}
    {element : Shape kinds} {accepts : element.Content → Bool}
    (unfound : (parameters.get? listKey (.list element)).bind (List.find? accepts) = none) :
    parameters.selectFirst listKey element accepts = (false, parameters) := by
  unfold selectFirst
  rw [unfound]

def keys (parameters : Parameters kinds) : List String := parameters.entries.keys

def size (parameters : Parameters kinds) : Nat := parameters.entries.size

/-- Parameters as they are shown inside other values: their names only. -/
def outline (parameters : Parameters kinds) : Text.Outline :=
  .record "ParameterStore" [("keys", .sequence (parameters.keys.map Text.Outline.text))]

end Parameters

end PriorityAgents
