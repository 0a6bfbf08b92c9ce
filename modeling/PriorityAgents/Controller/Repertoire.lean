import PriorityAgents.Controller.Program
import PriorityAgents.Rule.Walk

/-!
Repertoires: what the names in the rules and handlers of an application mean, and what it takes
to walk a tree and to run a handler once that is said.
-/

set_option autoImplicit false

namespace PriorityAgents

/-- The meaning of a vocabulary. -/
structure Repertoire (vocabulary : Vocabulary) where
  isPresent : vocabulary.State → Bool
  receive : String → vocabulary.State → Told vocabulary.State
  condition : vocabulary.Condition → Program vocabulary Bool
  action : vocabulary.Action → Program vocabulary Unit
  response : vocabulary.Response → vocabulary.Payload → Program vocabulary Unit

namespace Repertoire

variable {vocabulary : Vocabulary}

def noteVisit (depth index : Nat) (matched : Bool) : Program vocabulary Unit := do
  let standing ← Program.request .standing
  Program.request (.note
    { severity := .trace
      message := "rule evaluated"
      fields := [("agent", standing.id.text), ("depth", toString depth),
        ("index", toString index), ("matched", if matched then "true" else "false")] })

def walker (repertoire : Repertoire vocabulary) : Walker vocabulary (Program vocabulary) where
  test := repertoire.condition
  perform := repertoire.action
  arm := fun delay => Program.request (.schedule delay)
  visited := noteVisit

def evaluate (repertoire : Repertoire vocabulary) (rules : List (Rule vocabulary)) :
    Program vocabulary (Option vocabulary.Action) :=
  repertoire.walker.walk rules

def handle (repertoire : Repertoire vocabulary) :
    Handler vocabulary → vocabulary.Payload → Program vocabulary Unit
  | .respond response, payload => repertoire.response response payload
  | .release, _ => Program.request .cancel
  | .releaseThen next, payload => do
      Program.request .cancel
      repertoire.handle next payload

end Repertoire

end PriorityAgents
