import Mathlib.Data.List.Infix
import PriorityAgents.Phrasebook

/-!
How phrases are rendered.

A phrase is cut into pieces by its open places. No mark begins in a piece and ends in the mark after
it, since no end of a mark is a beginning of one, so the places that are found from left to right
are those between the pieces. What is put in is never looked at again, whatever it is.
-/

set_option autoImplicit false

namespace PriorityAgents.Phrasebook

/-- A text without an open place. -/
def Plain (text : String) : Prop := ¬openPlace.toList <:+: text.toList

instance (text : String) : Decidable (Plain text) :=
  inferInstanceAs (Decidable ¬openPlace.toList <:+: text.toList)

/-! ### Open places -/

section

variable {substitution piece rest : List Char} {character : Char}

private theorem filled_openPlace (substitution rest : List Char) :
    filled substitution (openPlace.toList ++ rest) = substitution ++ filled substitution rest :=
  filled.eq_1 substitution rest

theorem filled_cons (unmarked : ¬openPlace.toList <+: character :: rest) :
    filled substitution (character :: rest) = character :: filled substitution rest := by
  apply filled.eq_2
  intro more first others
  rw [first, others] at unmarked
  exact unmarked (List.prefix_append openPlace.toList more)

/-- A mark that begins in a plain piece would end in the next mark, where none of its ends is. -/
theorem unmarked_seam (plain : ¬openPlace.toList <:+: character :: piece) :
    ¬openPlace.toList <+: character :: (piece ++ (openPlace.toList ++ rest)) := by
  rintro ⟨more, same⟩
  match piece with
  | [] | [_] | [_, _] => simp [openPlace] at same
  | _ :: _ :: _ :: others =>
      cases same
      exact plain ⟨[], others, rfl⟩

private theorem filled_piece (plain : ¬openPlace.toList <:+: piece) :
    filled substitution piece = piece := by
  induction piece with
  | nil => rfl
  | cons character piece ih =>
      rw [filled_cons fun marked => plain marked.isInfix]
      rw [ih fun inner => plain (List.infix_cons inner)]

theorem filled_piece_append (plain : ¬openPlace.toList <:+: piece) :
    filled substitution (piece ++ (openPlace.toList ++ rest)) =
      piece ++ (substitution ++ filled substitution rest) := by
  induction piece with
  | nil => exact filled_openPlace substitution rest
  | cons character piece ih =>
      rw [List.cons_append, filled_cons (unmarked_seam plain)]
      rw [ih fun inner => plain (List.infix_cons inner)]
      rfl

private theorem prefix_intercalate (mark first : List Char) (others : List (List Char)) :
    first <+: mark.intercalate (first :: others) := by
  cases others with
  | nil => rw [List.intercalate_singleton]
  | cons next others =>
      rw [List.intercalate_cons_cons, List.append_assoc]
      exact List.prefix_append first _

private theorem exists_pieces_toList (text : List Char) :
    ∃ first others, (∀ piece ∈ first :: others, ¬openPlace.toList <:+: piece) ∧
      text = openPlace.toList.intercalate (first :: others) := by
  induction text using filled.induct with
  | case1 rest ih =>
      obtain ⟨first, others, plain, rfl⟩ := ih
      refine ⟨[], first :: others, List.forall_mem_cons.mpr ⟨by decide, plain⟩, ?_⟩
      rw [List.intercalate_cons_cons]
      rfl
  | case2 character rest unmarked ih =>
      obtain ⟨first, others, plain, rfl⟩ := ih
      obtain ⟨plainFirst, plainOthers⟩ := List.forall_mem_cons.mp plain
      have whole : openPlace.toList.intercalate ((character :: first) :: others) =
          character :: openPlace.toList.intercalate (first :: others) := by
        cases others with
        | nil => rw [List.intercalate_singleton, List.intercalate_singleton]
        | cons next others =>
            rw [List.intercalate_cons_cons, List.intercalate_cons_cons]
            rfl
      refine ⟨character :: first, others, List.forall_mem_cons.mpr ⟨?_, plainOthers⟩, whole.symm⟩
      intro within
      rcases List.infix_cons_iff.mp within with marked | inner
      · obtain ⟨more, same⟩ := marked
        obtain ⟨tail, rest⟩ := prefix_intercalate openPlace.toList first others
        cases same
        exact unmarked (more ++ tail) rfl rest.symm
      · exact plainFirst inner
  | case3 => exact ⟨[], [], by decide, rfl⟩

end

/-- Between plain pieces every open place is filled, once, and nothing else is. -/
theorem filled_intercalate {substitution : List Char} {pieces : List (List Char)}
    (plain : ∀ piece ∈ pieces, ¬openPlace.toList <:+: piece) :
    filled substitution (openPlace.toList.intercalate pieces) =
      substitution.intercalate pieces := by
  induction pieces with
  | nil => rfl
  | cons piece pieces ih =>
      obtain ⟨first, others⟩ := List.forall_mem_cons.mp plain
      cases pieces with
      | nil =>
          rw [List.intercalate_singleton, List.intercalate_singleton]
          exact filled_piece first
      | cons next pieces =>
          rw [List.intercalate_cons_cons, List.intercalate_cons_cons]
          rw [List.append_assoc, List.append_assoc, filled_piece_append first, ih others]

/-! ### Phrases -/

variable {book : Phrasebook} {key : String} {pieces : List String}

theorem render?_of_pieces (substitution : String)
    (template : book.template? key = some (openPlace.intercalate pieces))
    (plain : ∀ piece ∈ pieces, Plain piece) :
    book.render? key substitution = some (substitution.intercalate pieces) := by
  unfold render?
  rw [template, Option.map_some, String.toList_intercalate, filled_intercalate]
  · rw [← String.toList_intercalate, String.ofList_toList]
  · intro piece member
    obtain ⟨text, within, rfl⟩ := List.mem_map.mp member
    exact plain text within

theorem render?_of_unset (substitution : String) (unset : book.template? key = none) :
    book.render? key substitution = none := by
  unfold render?
  rw [unset]
  rfl

/-- Every phrase is made up of plain pieces, so there is none that this does not tell of. -/
theorem exists_pieces (phrase : String) :
    ∃ pieces, (∀ piece ∈ pieces, Plain piece) ∧ phrase = openPlace.intercalate pieces := by
  obtain ⟨first, others, plain, whole⟩ := exists_pieces_toList phrase.toList
  refine ⟨(first :: others).map String.ofList, ?_, ?_⟩
  · intro piece member
    obtain ⟨text, within, rfl⟩ := List.mem_map.mp member
    unfold Plain
    rw [String.toList_ofList]
    exact plain text within
  · apply String.toList_inj.mp
    rw [whole, String.toList_intercalate, List.map_map]
    simp [Function.comp_def]

def setAll (book : Phrasebook) (sets : List (String × String)) : Phrasebook :=
  sets.foldl (fun book entry => book.set entry.1 entry.2) book

private theorem template?_setAll {sets : List (String × String)}
    (others : ∀ entry ∈ sets, entry.1 ≠ key) :
    (book.setAll sets).template? key = book.template? key := by
  induction sets generalizing book with
  | nil => rfl
  | cons entry sets ih =>
      obtain ⟨first, rest⟩ := List.forall_mem_cons.mp others
      change ((book.set entry.1 entry.2).setAll sets).template? key = _
      rw [ih rest, template?_set, if_neg first]

theorem template?_empty (key : String) : empty.template? key = none :=
  Std.ExtTreeMap.getElem?_empty

/-- What an occasion is rendered to. -/
structure Renders (key : String) : Prop where
  /-- In whatever phrasebook a phrase is set, and whatever is set for others after it: every open
  place of it is filled, once, with whatever there is to put in. -/
  set (book : Phrasebook) (pieces : List String) (others : List (String × String))
    (substitution : String) : (∀ piece ∈ pieces, Plain piece) → (∀ entry ∈ others, entry.1 ≠ key) →
      ((book.set key (openPlace.intercalate pieces)).setAll others).render? key substitution =
        some (substitution.intercalate pieces)
  unset (others : List (String × String)) (substitution : String) :
    (∀ entry ∈ others, entry.1 ≠ key) →
      (empty.setAll others).render? key substitution = none

theorem renders (key : String) : Renders key where
  set := by
    intro book pieces others substitution plain foreign
    apply render?_of_pieces substitution _ plain
    rw [template?_setAll foreign, template?_set, if_pos rfl]
  unset := by
    intro others substitution foreign
    apply render?_of_unset
    rw [template?_setAll foreign, template?_empty]

end PriorityAgents.Phrasebook
