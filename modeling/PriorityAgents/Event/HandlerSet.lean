import PriorityAgents.Event.Name
import PriorityAgents.Vocabulary

/-!
Handlers of events, and sets of handlers that are put in place together.

Sets compose: of two handlers for one name, the one added later stays.
-/

set_option autoImplicit false

namespace PriorityAgents

inductive Handler (vocabulary : Vocabulary) where
  | respond (response : vocabulary.Response)
  | release
  | releaseThen (next : Handler vocabulary)

/-- Handlers by the name of the event they are for. -/
@[ext] structure HandlerSet (vocabulary : Vocabulary) where
  handlers : Std.ExtTreeMap EventName (Handler vocabulary)

namespace HandlerSet

variable {vocabulary : Vocabulary}

def empty : HandlerSet vocabulary := ⟨∅⟩

instance : Inhabited (HandlerSet vocabulary) := ⟨empty⟩

def insert (set : HandlerSet vocabulary) (name : EventName) (handler : Handler vocabulary) :
    HandlerSet vocabulary :=
  ⟨set.handlers.insert name handler⟩

def erase (set : HandlerSet vocabulary) (name : EventName) : HandlerSet vocabulary :=
  ⟨set.handlers.erase name⟩

/-- The handlers of two sets; for a name in both, the second one's. -/
def merge (first second : HandlerSet vocabulary) : HandlerSet vocabulary :=
  ⟨first.handlers ∪ second.handlers⟩

def get? (set : HandlerSet vocabulary) (name : EventName) : Option (Handler vocabulary) :=
  set.handlers[name]?

theorem get?_insert (set : HandlerSet vocabulary) (name other : EventName)
    (handler : Handler vocabulary) :
    (set.insert name handler).get? other =
      if name = other then some handler else set.get? other := by
  unfold get? insert
  rw [Std.ExtTreeMap.getElem?_insert]
  simp only [Std.compare_eq_iff_eq]

theorem get?_erase (set : HandlerSet vocabulary) (name other : EventName) :
    (set.erase name).get? other = if name = other then none else set.get? other := by
  unfold get? erase
  rw [Std.ExtTreeMap.getElem?_erase]
  simp only [Std.compare_eq_iff_eq]

theorem get?_merge (first second : HandlerSet vocabulary) (name : EventName) :
    (first.merge second).get? name = (second.get? name).or (first.get? name) := by
  unfold get? merge
  exact Std.ExtTreeMap.getElem?_union

def contains (set : HandlerSet vocabulary) (name : EventName) : Bool := set.handlers.contains name

def names (set : HandlerSet vocabulary) : List EventName := set.handlers.keys

def size (set : HandlerSet vocabulary) : Nat := set.handlers.size

/-- A set with the handler that releases an agent from its timer when it is destroyed. A handler
that the set has for that event runs after the release. -/
def withRelease (set : HandlerSet vocabulary) : HandlerSet vocabulary :=
  set.insert .entityDestroyed
    (match set.get? .entityDestroyed with
      | some supplied => .releaseThen supplied
      | none => .release)

/-- A set as it is shown inside other values: its names only. -/
def outline (set : HandlerSet vocabulary) : Text.Outline :=
  .collection (set.names.map EventName.outline)

end HandlerSet

end PriorityAgents
