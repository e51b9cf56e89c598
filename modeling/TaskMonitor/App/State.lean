import TaskMonitor.Detail.Binder
import TaskMonitor.Number.Unsigned

/-! # What the screen shows -/

namespace TaskMonitor

inductive View where
  | tasks
  | detail
  deriving DecidableEq, Repr

abbrev Filter := Option TaskStatus

namespace Filter

def cycle : List TaskStatus := [.created, .running, .succeeded, .failed, .cancelled]

def after (s : TaskStatus) : List TaskStatus → Option TaskStatus
  | [] => none
  | first :: rest => if first = s then rest.head? else after s rest

/-- The next filter: after all tasks come those of the statuses in turn, and then all again. -/
def next : Filter → Filter
  | none => cycle.head?
  | some s => after s cycle

end Filter

structure UiState where
  tasks : List TaskSummary
  selected : Nat
  filter : Filter
  view : View
  viewing : Option TaskId
  detail : Option DetailView
  /-- How many lines of the events are passed over. -/
  scroll : Nat
  listError : Option String
  healthy : Option Bool
  fatal : Option String
  deriving Repr

namespace UiState

def empty : UiState := ⟨[], 0, none, .tasks, none, none, 0, none, none, none⟩

def selectedTask (s : UiState) : Option TaskSummary := s.tasks[s.selected]?

def selectNext (s : UiState) : UiState :=
  if s.tasks.isEmpty then s else { s with selected := min (s.selected + 1) (s.tasks.length - 1) }

def selectPrevious (s : UiState) : UiState := { s with selected := s.selected - 1 }

/-- Replaces the tasks. The selection stays on its task if that is still there, and else on its row
if there is one. -/
def setTasks (s : UiState) (tasks : List TaskSummary) : UiState :=
  let found := s.selectedTask.bind fun t => tasks.findIdx? (·.id = t.id)
  { s with
    tasks := tasks
    selected := found.getD (min s.selected (tasks.length - 1))
    listError := none }

def openTask (s : UiState) (id : TaskId) : UiState :=
  { s with viewing := some id, detail := none, scroll := 0, view := .detail }

def closeTask (s : UiState) : UiState :=
  { s with viewing := none, detail := none, view := .tasks }

/-- Takes a detail of the task that is shown. One of another task changes nothing, and the answer
is `false`. -/
def applyDetail (s : UiState) (d : DetailView) : UiState × Bool :=
  if s.viewing = some d.taskId then ({ s with detail := some d }, true) else (s, false)

def scrollLimit : Nat := wordLimit - 1

def scrollDown (s : UiState) : UiState := { s with scroll := min (s.scroll + 1) scrollLimit }

def scrollUp (s : UiState) : UiState := { s with scroll := s.scroll - 1 }

end UiState

end TaskMonitor
