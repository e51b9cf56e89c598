import TaskMonitor.Number.Unsigned

/-! # The handler slot -/

namespace TaskMonitor

inductive SlotAction (η : Type) where
  | set (handler : η)
  | clear
  | ask
  deriving Repr

/-- A handler: a label by which its calls are told apart, and what it does with the slot while it
runs. -/
inductive Handler (α : Type) where
  | mk (label : α) (actions : List (SlotAction (Handler α)))

namespace Handler

def label {α : Type} : Handler α → α
  | mk l _ => l

def actions {α : Type} : Handler α → List (SlotAction (Handler α))
  | mk _ as => as

end Handler

/-- Holds at most one handler. While the handler runs it is out of the slot, which remembers the
generation that runs. -/
structure HandlerSlot (α : Type) where
  handler : Option (Handler α)
  /-- Counts the changes, in 64 bits. -/
  generation : Nat
  running : Option Nat

namespace HandlerSlot

variable {α : Type}

def empty : HandlerSlot α := ⟨none, 0, none⟩

def nextGeneration (s : HandlerSlot α) : Nat := (s.generation + 1) % wordLimit

def set (s : HandlerSlot α) (h : Handler α) : HandlerSlot α :=
  { s with handler := some h, generation := s.nextGeneration }

def clear (s : HandlerSlot α) : HandlerSlot α :=
  { s with handler := none, generation := s.nextGeneration }

/-- There is a handler, or the one that runs has not been replaced. -/
def isSet (s : HandlerSlot α) : Bool :=
  s.handler.isSome || s.running = some s.generation

def run (s : HandlerSlot α) : List (SlotAction (Handler α)) → HandlerSlot α × List Bool
  | [] => (s, [])
  | .set h :: rest => (s.set h).run rest
  | .clear :: rest => s.clear.run rest
  | .ask :: rest =>
    let (after, answers) := s.run rest
    (after, s.isSet :: answers)

/-- Calls the handler, if there is one; `conduct` says what it does this time. It is put back
afterwards unless the slot was changed meanwhile. -/
def invokeBy (s : HandlerSlot α) (conduct : Handler α → List (SlotAction (Handler α))) :
    HandlerSlot α × Option (α × List Bool) :=
  match s.handler with
  | none => (s, none)
  | some h =>
    let started := { s with handler := none, running := some s.generation }
    let (ended, answers) := started.run (conduct h)
    let ended := { ended with running := none }
    let ended :=
      if ended.generation = s.generation then { ended with handler := some h } else ended
    (ended, some (h.label, answers))

def invoke (s : HandlerSlot α) : HandlerSlot α × Option (α × List Bool) :=
  s.invokeBy Handler.actions

end HandlerSlot

end TaskMonitor
