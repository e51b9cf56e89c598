import TaskMonitor.App.State

/-! # Messages between the screen and its backend -/

namespace TaskMonitor

inductive Command where
  | refresh
  | filter (filter : Filter)
  | open (id : TaskId)
  | close
  | quit
  deriving DecidableEq, Repr

inductive Report where
  | tasks (tasks : List TaskSummary)
  | listError (text : String)
  | detail (view : DetailView)
  | health (healthy : Bool)
  | fatal (text : String)
  deriving Repr

/-- How many messages wait in either direction at most. -/
def mailboxLimit : Nat := 100

end TaskMonitor
