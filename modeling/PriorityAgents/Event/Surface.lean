import PriorityAgents.Event.HandlerSet
import Std.Data.ExtTreeSet

/-!
The surface of an agent: which handler each event meets, and which of these bindings belong to
the set that the current behaviour put in place.

Putting a set in place first takes away every binding of the set before it, whether or not the
new set has the same names. Bindings made by other means stay, unless their name is part of a set.
-/

set_option autoImplicit false

namespace PriorityAgents

/-- The bindings of an agent, and the names that the current set of handlers put there. -/
@[ext] structure EventSurface (vocabulary : Vocabulary) where
  bound : Std.ExtTreeMap EventName (Handler vocabulary)
  active : Std.ExtTreeSet EventName

namespace EventSurface

variable {vocabulary : Vocabulary}

def empty : EventSurface vocabulary := ⟨∅, ∅⟩

instance : Inhabited (EventSurface vocabulary) := ⟨empty⟩

def bind (surface : EventSurface vocabulary) (name : EventName) (handler : Handler vocabulary) :
    EventSurface vocabulary :=
  { surface with bound := surface.bound.insert name handler }

def unbind (surface : EventSurface vocabulary) (name : EventName) : EventSurface vocabulary :=
  { surface with bound := surface.bound.erase name }

def handler? (surface : EventSurface vocabulary) (name : EventName) :
    Option (Handler vocabulary) :=
  surface.bound[name]?

def isBound (surface : EventSurface vocabulary) (name : EventName) : Bool :=
  surface.bound.contains name

def isActive (surface : EventSurface vocabulary) (name : EventName) : Bool :=
  surface.active.contains name

def boundNames (surface : EventSurface vocabulary) : List EventName := surface.bound.keys

def activeNames (surface : EventSurface vocabulary) : List EventName := surface.active.toList

def uninstall (surface : EventSurface vocabulary) : EventSurface vocabulary where
  bound := surface.bound.filter fun name _ => !surface.active.contains name
  active := ∅

def install (surface : EventSurface vocabulary) (set : HandlerSet vocabulary) :
    EventSurface vocabulary where
  bound := surface.uninstall.bound ∪ set.withRelease.handlers
  active := .ofList set.withRelease.names

theorem handler?_bind (surface : EventSurface vocabulary) (name other : EventName)
    (handler : Handler vocabulary) :
    (surface.bind name handler).handler? other =
      if name = other then some handler else surface.handler? other := by
  unfold handler? bind
  rw [Std.ExtTreeMap.getElem?_insert]
  simp only [Std.compare_eq_iff_eq]

theorem handler?_unbind (surface : EventSurface vocabulary) (name other : EventName) :
    (surface.unbind name).handler? other =
      if name = other then none else surface.handler? other := by
  unfold handler? unbind
  rw [Std.ExtTreeMap.getElem?_erase]
  simp only [Std.compare_eq_iff_eq]

/-- What is left when the current set is taken away: the bindings of other names. -/
theorem handler?_uninstall (surface : EventSurface vocabulary) (name : EventName) :
    surface.uninstall.handler? name =
      if surface.isActive name then none else surface.handler? name := by
  unfold handler? uninstall isActive
  rw [Std.ExtTreeMap.getElem?_filter']
  cases surface.active.contains name <;> cases surface.bound[name]? <;> rfl

/-- What is there once a set is in place: its handlers, and otherwise what the set before it has
left. -/
theorem handler?_install (surface : EventSurface vocabulary) (set : HandlerSet vocabulary)
    (name : EventName) :
    (surface.install set).handler? name =
      (set.withRelease.get? name).or (surface.uninstall.handler? name) := by
  unfold handler? install HandlerSet.get?
  exact Std.ExtTreeMap.getElem?_union

theorem isActive_install (surface : EventSurface vocabulary) (set : HandlerSet vocabulary)
    (name : EventName) :
    (surface.install set).isActive name = set.withRelease.contains name := by
  unfold isActive install HandlerSet.contains HandlerSet.names
  rw [Std.ExtTreeSet.contains_ofList, Std.ExtTreeMap.contains_keys]

@[simp] theorem isActive_uninstall (surface : EventSurface vocabulary) (name : EventName) :
    surface.uninstall.isActive name = false := by
  unfold isActive uninstall
  exact Std.ExtTreeSet.contains_empty

/-- The bindings as they are shown inside other values: their names only. -/
def outline (surface : EventSurface vocabulary) : Text.Outline :=
  .collection (surface.boundNames.map EventName.outline)

def activeOutline (surface : EventSurface vocabulary) : Text.Outline :=
  .collection (surface.activeNames.map EventName.outline)

def managerOutline (surface : EventSurface vocabulary) : Text.Outline :=
  .record "HandlerManager" [("active", surface.activeOutline)]

end EventSurface

end PriorityAgents
