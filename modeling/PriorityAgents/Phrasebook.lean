import Std.Data.ExtTreeMap

/-!
Phrases: what an agent says on an occasion, with a place left open for a name.
-/

set_option autoImplicit false

namespace PriorityAgents

/-- The phrases of an agent, by occasion. -/
@[ext] structure Phrasebook where
  phrases : Std.ExtTreeMap String String

namespace Phrasebook

def empty : Phrasebook := ⟨∅⟩

instance : Inhabited Phrasebook := ⟨empty⟩

/-- The mark of the open place in a phrase. -/
def openPlace : String := "[p1]"

/-- Put a text into every open place, from left to right. What is put in is not looked at
again. -/
def filled (substitution : List Char) : List Char → List Char
  | '[' :: 'p' :: '1' :: ']' :: rest => substitution ++ filled substitution rest
  | character :: rest => character :: filled substitution rest
  | [] => []

def set (book : Phrasebook) (key phrase : String) : Phrasebook := ⟨book.phrases.insert key phrase⟩

def template? (book : Phrasebook) (key : String) : Option String := book.phrases[key]?

def render? (book : Phrasebook) (key substitution : String) : Option String :=
  (book.template? key).map fun phrase =>
    String.ofList (filled substitution.toList phrase.toList)

def contains (book : Phrasebook) (key : String) : Bool := book.phrases.contains key

/-- An occasion has the phrase that was registered for it last. -/
theorem template?_set (book : Phrasebook) (key phrase other : String) :
    (book.set key phrase).template? other =
      if key = other then some phrase else book.template? other := by
  unfold template? set
  rw [Std.ExtTreeMap.getElem?_insert]
  simp only [Std.compare_eq_iff_eq]

def size (book : Phrasebook) : Nat := book.phrases.size

end Phrasebook

end PriorityAgents
