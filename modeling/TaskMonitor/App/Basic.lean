import TaskMonitor.App.Message

/-! # The application -/

namespace TaskMonitor

inductive Key where
  | char (c : Char)
  | enter
  | escape
  | backspace
  | up
  | down
  | home
  | other
  deriving DecidableEq, Repr

/-- The screen, and the commands that the backend has not received yet. -/
structure App where
  state : UiState
  outbox : List Command
  deriving Repr

namespace App

def new (filter : Filter) (task : Option TaskId) : App :=
  let state := { UiState.empty with filter := filter }
  ⟨match task with
    | some id => state.openTask id
    | none => state, []⟩

/-- Sends a command. It is lost when too many wait. -/
def send (a : App) (c : Command) : App :=
  if a.outbox.length < mailboxLimit then { a with outbox := a.outbox ++ [c] } else a

def update (a : App) (f : UiState → UiState) : App := { a with state := f a.state }

def receive (a : App) : Report → App
  | .tasks tasks => a.update (·.setTasks tasks)
  | .listError text => a.update fun s => { s with listError := some text }
  | .detail view => a.update fun s => (s.applyDetail view).1
  | .health healthy => a.update fun s => { s with healthy := some healthy }
  | .fatal text => a.update fun s => { s with fatal := some text }

def receiveAll (a : App) (reports : List Report) : App := reports.foldl receive a

/-! ## Keys -/

def openSelected (a : App) : App :=
  match a.state.selectedTask with
  | some t => (a.update (·.openTask t.id)).send (.open t.id)
  | none => a

def switchFilter (a : App) : App :=
  let filter := a.state.filter.next
  (a.update fun s => { s with filter := filter, selected := 0 }).send (.filter filter)

def closeTask (a : App) : App := (a.update (·.closeTask)).send .close

def listKey (a : App) : Key → Option App
  | .escape => none
  | .up | .char 'k' => some (a.update (·.selectPrevious))
  | .down | .char 'j' => some (a.update (·.selectNext))
  | .enter => some a.openSelected
  | .char 'r' => some (a.send .refresh)
  | .char 'f' => some a.switchFilter
  | _ => some a

def detailKey (a : App) : Key → App
  | .escape | .backspace => a.closeTask
  | .up | .char 'k' => a.update (·.scrollUp)
  | .down | .char 'j' => a.update (·.scrollDown)
  | .home | .char 'g' => a.update fun s => { s with scroll := 0 }
  | _ => a

/-- A key. None as the answer means that the user leaves. -/
def press (a : App) (k : Key) : Option App :=
  if k = .char 'q' then none
  else
    match a.state.view with
    | .tasks => a.listKey k
    | .detail => some (a.detailKey k)

end App

end TaskMonitor
