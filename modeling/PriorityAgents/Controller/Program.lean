import PriorityAgents.Controller.Basic

/-!
Programs: what the callbacks of an agent do, one request to its controller after another.

A program sees and changes its own controller and nothing else. It has no way to start a walk in
its controller or to move time, and it always comes to an end.
-/

set_option autoImplicit false

namespace PriorityAgents

structure Standing where
  id : AgentId
  name : String
  reconsiderNow : Span
deriving DecidableEq, Repr

/-- What a callback may ask of its controller. -/
inductive Request (vocabulary : Vocabulary) where
  | standing
  | tree
  /-- The agent, its parameters, its phrases and its generator. -/
  | mind
  /-- The same, to be kept. -/
  | setMind (mind : Mind vocabulary)
  | communicate (key substitution : String)
  | surface
  | bind (name : EventName) (handler : Handler vocabulary)
  | unbind (name : EventName)
  | install (set : HandlerSet vocabulary)
  | pending
  | reconsiderNow
  | schedule (delay : Span)
  | cancel
  | setPriorities (tree : PriorityTree vocabulary)
  | note (record : Record)
  | fail (fault : Fault)

@[reducible] def Request.Answer {vocabulary : Vocabulary} : Request vocabulary → Type
  | .standing => Standing
  | .tree => PriorityTree vocabulary
  | .mind => Mind vocabulary
  | .surface => EventSurface vocabulary
  | .pending => Option TimerHandle
  | .fail _ => Empty
  | .setMind _ | .communicate _ _ | .bind _ _ | .unbind _ | .install _ | .reconsiderNow
  | .schedule _ | .cancel | .setPriorities _ | .note _ => Unit

/-- A computation that makes requests of a controller. -/
inductive Program (vocabulary : Vocabulary) (α : Type) where
  | pure (answer : α)
  | ask (request : Request vocabulary) (next : request.Answer → Program vocabulary α)

namespace Program

variable {vocabulary : Vocabulary} {α β γ : Type}

instance [Inhabited α] : Inhabited (Program vocabulary α) := ⟨.pure default⟩

protected def bind (first : Program vocabulary α) (next : α → Program vocabulary β) :
    Program vocabulary β :=
  match first with
  | .pure answer => next answer
  | .ask request rest => .ask request fun answer => (rest answer).bind next

instance : Monad (Program vocabulary) where
  pure := .pure
  bind := Program.bind

@[simp] theorem pure_bind' (answer : α) (next : α → Program vocabulary β) :
    (Program.pure answer : Program vocabulary α) >>= next = next answer := rfl

@[simp] theorem ask_bind (request : Request vocabulary)
    (rest : request.Answer → Program vocabulary α) (next : α → Program vocabulary β) :
    Program.ask request rest >>= next = .ask request fun answer => rest answer >>= next := rfl

private theorem bind_pure' (program : Program vocabulary α) : program.bind .pure = program := by
  induction program with
  | pure answer => rfl
  | ask request rest ih => exact congrArg (Program.ask request) (funext ih)

private theorem bind_assoc' (program : Program vocabulary α) (first : α → Program vocabulary β)
    (second : β → Program vocabulary γ) :
    (program.bind first).bind second = program.bind fun answer => (first answer).bind second := by
  induction program with
  | pure answer => rfl
  | ask request rest ih => exact congrArg (Program.ask request) (funext ih)

instance : LawfulMonad (Program vocabulary) :=
  LawfulMonad.mk' (Program vocabulary) bind_pure' (fun _ _ => rfl) bind_assoc'

def request (request : Request vocabulary) : Program vocabulary request.Answer :=
  .ask request .pure

def fail (fault : Fault) : Program vocabulary α := .ask (.fail fault) Empty.elim

def ofExcept : Except Fault α → Program vocabulary α
  | .ok answer => .pure answer
  | .error fault => fail fault

def read (look : Mind vocabulary → α) : Program vocabulary α :=
  .ask .mind fun mind => .pure (look mind)

def change (update : Mind vocabulary → Mind vocabulary) : Program vocabulary Unit :=
  .ask .mind fun mind => .ask (.setMind (update mind)) .pure

def changeReading (update : Mind vocabulary → α × Mind vocabulary) : Program vocabulary α :=
  .ask .mind fun mind =>
    let (answer, mind) := update mind
    .ask (.setMind mind) fun _ => .pure answer

def changeAgent (update : vocabulary.State → vocabulary.State) : Program vocabulary Unit :=
  change fun mind => { mind with agent := update mind.agent }

def changeParameters (update : Parameters vocabulary.kinds → Parameters vocabulary.kinds) :
    Program vocabulary Unit :=
  change fun mind => { mind with parameters := update mind.parameters }

def setPhrase (key phrase : String) : Program vocabulary Unit :=
  change fun mind => { mind with phrases := mind.phrases.set key phrase }

def draw (sample : StateT Generator (Except Fault) α) : Program vocabulary α :=
  .ask .mind fun mind =>
    match sample mind.generator with
    | .ok (answer, generator) => .ask (.setMind { mind with generator }) fun _ => .pure answer
    | .error fault => fail fault

end Program

end PriorityAgents
